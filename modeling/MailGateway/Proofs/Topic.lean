import MailGateway.Proofs.Results
import MailGateway.Topic

/-!
# What a resolved topic went through

A recipient that resolves to a topic passed all the stages in their order.  `resolve_eq_ok` names what
each stage gave, so that nothing else has to look into `resolve`.
-/

namespace MailGateway.Topic

variable [Platform]

/-- A topic is checked by matching it as a whole, and it stays as it is. -/
theorem checked_eq_ok {pattern : Option Text} {topic passed : Text} :
    checked pattern topic = .ok passed ↔
      passed = topic ∧ ∃ read, Pattern.read (pattern.getD defaultPattern) = .ok read ∧
        read.fullMatch topic = true := by
  unfold checked
  cases Pattern.read (pattern.getD defaultPattern) with
  | error e =>
    constructor
    · intro h
      cases h
    · rintro ⟨-, _, hread, -⟩
      cases hread
  | ok read =>
    dsimp only
    split
    · next hmatch =>
      constructor
      · intro h
        exact ⟨(Except.ok.inj h).symm, read, rfl, hmatch⟩
      · rintro ⟨rfl, -⟩
        rfl
    · next hmatch =>
      constructor
      · intro h
        cases h
      · rintro ⟨-, _, hread, h⟩
        cases hread
        exact (hmatch h).elim

/-- A recipient stands for a topic if it is one address of the domain whose local part is the prefix
followed by the topic, and the topic matches the pattern. -/
theorem resolve_eq_ok {recipient start pattern : Option Text} {domain topic : Text} :
    resolve recipient domain start pattern = .ok topic ↔
      ∃ address name, addresses recipient = .ok [address] ∧ localPart domain address = .ok name ∧
        withoutPrefix start name = .ok topic ∧ checked pattern topic = .ok topic := by
  unfold resolve
  constructor
  · intro h
    obtain ⟨found, hfound, h⟩ := bind_eq_ok.mp h
    split at h
    · next address =>
      obtain ⟨name, hname, h⟩ := bind_eq_ok.mp h
      obtain ⟨rest, hrest, h⟩ := bind_eq_ok.mp h
      obtain ⟨rfl, -⟩ := checked_eq_ok.mp h
      exact ⟨address, name, ok_of_mapError hfound, ok_of_mapError hname,
        ok_of_mapError hrest, h⟩
    · cases h
  · rintro ⟨address, name, hfound, hname, hrest, h⟩
    rw [hfound]
    change ((localPart domain address).mapError Fault.gateway >>= _) = _
    rw [hname]
    change ((withoutPrefix start name).mapError Fault.gateway >>= _) = _
    rw [hrest]
    exact h

end MailGateway.Topic
