import MailGateway.Proofs.Answers
import MailGateway.Proofs.DefaultPattern
import MailGateway.Proofs.WrittenMailboxes

/-!
# Which recipients stand for a topic

A recipient stands for a topic exactly if it is the one address that the prefix, the topic and the domain
make up, and the topic matches the pattern.  Every other recipient is refused with the error of the first
stage that it does not pass.  Topics of the default pattern are found again in the addresses that are
made of them.
-/

namespace MailGateway

namespace Topic

/-! ## Stages -/

theorem addresses_error_class {value : Option Text} {e : GatewayError}
    (h : addresses value = .error e) : e.errorClass = .addressParse := by
  unfold addresses at h
  split at h
  · cases h
    rfl
  split at h
  · cases h
    rfl
  split at h
  · cases h
  · cases h
    rfl

/-- The local part is what stands before the sign and the domain. -/
theorem localPart_eq_ok {domain address name : Text} :
    localPart domain address = .ok name ↔ address = name ++ '@' :: domain := by
  rw [localPart, ← Text.before?_eq_some]
  cases Text.before? ('@' :: domain) address with
  | none => simp
  | some found => simp

theorem localPart_of_not_suffix {domain address : Text} (h : ¬('@' :: domain) <:+ address) :
    localPart domain address = .error .invalidDomain := by
  rw [localPart]
  split
  · next name hname => exact absurd ⟨name, (Text.before?_eq_some.mp hname).symm⟩ h
  · rfl

/-- The topic is what stands after the prefix. -/
theorem withoutPrefix_eq_ok {start : Option Text} {name topic : Text} :
    withoutPrefix start name = .ok topic ↔ name = start.getD [] ++ topic := by
  rw [withoutPrefix, ← Text.after?_eq_some]
  cases Text.after? (start.getD []) name with
  | none => simp
  | some found => simp

theorem withoutPrefix_of_not_prefix {start : Option Text} {name : Text}
    (h : ¬start.getD [] <+: name) : withoutPrefix start name = .error .invalidAddress := by
  rw [withoutPrefix]
  split
  · next topic htopic => exact absurd ⟨topic, (Text.after?_eq_some.mp htopic).symm⟩ h
  · rfl

/-! ## Refusals -/

/-- Why a recipient stands for no topic: the first stage that it does not pass. -/
inductive Refused (recipient : Option Text) (domain : Text) (start : Option Text) (read : Pattern) :
    GatewayError → Prop
  | unparsed {e : GatewayError} (hparse : addresses recipient = .error e)
      (hclass : e.errorClass = .addressParse) : Refused recipient domain start read e
  | count {found : List Text} (hfound : addresses recipient = .ok found) (hcount : found.length ≠ 1) :
      Refused recipient domain start read .tooManyRecipients
  | domain {address : Text} (haddress : addresses recipient = .ok [address])
      (hdomain : ¬('@' :: domain) <:+ address) : Refused recipient domain start read .invalidDomain
  | start {name : Text} (haddress : addresses recipient = .ok [name ++ '@' :: domain])
      (hstart : ¬start.getD [] <+: name) : Refused recipient domain start read .invalidAddress
  | pattern {topic : Text}
      (haddress : addresses recipient = .ok [start.getD [] ++ topic ++ '@' :: domain])
      (hpattern : read.fullMatch topic = false) : Refused recipient domain start read .invalidTopic

section Resolve

variable {recipient start pattern : Option Text} {domain address name topic : Text} {read : Pattern}

/-- One address goes through the other stages. -/
theorem resolve_of_address [Platform] (h : addresses recipient = .ok [address]) :
    resolve recipient domain start pattern =
      (localPart domain address).mapError Fault.gateway >>= fun name ↦
        (withoutPrefix start name).mapError Fault.gateway >>= checked pattern := by
  rw [resolve, h]
  rfl

theorem resolve_of_name [Platform] (h : addresses recipient = .ok [name ++ '@' :: domain]) :
    resolve recipient domain start pattern =
      (withoutPrefix start name).mapError Fault.gateway >>= checked pattern := by
  rw [resolve_of_address h, localPart_eq_ok.mpr rfl]
  rfl

theorem resolve_of_topic [Platform]
    (h : addresses recipient = .ok [start.getD [] ++ topic ++ '@' :: domain]) :
    resolve recipient domain start pattern = checked pattern topic := by
  rw [resolve_of_name h, withoutPrefix_eq_ok.mpr rfl]
  rfl

/-- A recipient is refused by the first stage that it fails. -/
theorem Refused.resolve_eq [Platform] (hread : Pattern.read (pattern.getD defaultPattern) = .ok read)
    {e : GatewayError} (h : Refused recipient domain start read e) :
    resolve recipient domain start pattern = .error (.gateway e) := by
  cases h with
  | unparsed hparse =>
    rw [resolve, hparse]
    rfl
  | @count found hfound hcount =>
    rw [resolve, hfound]
    cases found with
    | nil => rfl
    | cons address found =>
      cases found with
      | nil => exact absurd rfl hcount
      | cons next found => rfl
  | domain haddress hdomain =>
    rw [resolve_of_address haddress, localPart_of_not_suffix hdomain]
    rfl
  | start haddress hstart =>
    rw [resolve_of_name haddress, withoutPrefix_of_not_prefix hstart]
    rfl
  | pattern haddress hpattern =>
    rw [resolve_of_topic haddress, checked, hread]
    simp only [hpattern, Bool.false_eq_true, if_false]

/-- A recipient passes all stages, or there is a first one that it does not pass. -/
theorem exists_topic_or_refused (recipient start : Option Text) (domain : Text) (read : Pattern) :
    (∃ topic, addresses recipient = .ok [start.getD [] ++ topic ++ '@' :: domain] ∧
        read.fullMatch topic = true) ∨
      ∃ e, Refused recipient domain start read e := by
  cases hfound : addresses recipient with
  | error e => exact .inr ⟨e, .unparsed hfound (addresses_error_class hfound)⟩
  | ok found =>
    by_cases hcount : found.length ≠ 1
    · exact .inr ⟨_, .count hfound hcount⟩
    obtain ⟨address, rfl⟩ := List.length_eq_one_iff.mp (Decidable.not_not.mp hcount)
    by_cases hdomain : ¬('@' :: domain) <:+ address
    · exact .inr ⟨_, .domain hfound hdomain⟩
    obtain ⟨name, rfl⟩ := Decidable.not_not.mp hdomain
    by_cases hstart : ¬start.getD [] <+: name
    · exact .inr ⟨_, .start hfound hstart⟩
    obtain ⟨topic, rfl⟩ := Decidable.not_not.mp hstart
    cases hpattern : read.fullMatch topic with
    | false => exact .inr ⟨_, .pattern hfound hpattern⟩
    | true => exact .inl ⟨topic, rfl, hpattern⟩

/-- A recipient stands for a topic if it is the only address, of the domain, with the prefix, and its topic
matches. -/
theorem resolve_eq_ok_iff [Platform] (hread : Pattern.read (pattern.getD defaultPattern) = .ok read) :
    resolve recipient domain start pattern = .ok topic ↔
      addresses recipient = .ok [start.getD [] ++ topic ++ '@' :: domain] ∧
        read.fullMatch topic = true := by
  rw [resolve_eq_ok]
  constructor
  · rintro ⟨address, name, haddresses, hname, hstart, hchecked⟩
    obtain rfl := localPart_eq_ok.mp hname
    obtain rfl := withoutPrefix_eq_ok.mp hstart
    obtain ⟨-, found, hfound, hmatch⟩ := checked_eq_ok.mp hchecked
    obtain rfl := Except.ok.inj (hread.symm.trans hfound)
    exact ⟨haddresses, hmatch⟩
  · rintro ⟨haddresses, hmatch⟩
    exact ⟨_, _, haddresses, localPart_eq_ok.mpr rfl, withoutPrefix_eq_ok.mpr rfl,
      checked_eq_ok.mpr ⟨rfl, read, hread, hmatch⟩⟩

/-- A recipient is refused exactly by the first stage that it fails. -/
theorem resolve_eq_error_iff [Platform] (hread : Pattern.read (pattern.getD defaultPattern) = .ok read)
    {fault : Fault} : resolve recipient domain start pattern = .error fault ↔
      ∃ e, fault = .gateway e ∧ Refused recipient domain start read e := by
  constructor
  · intro h
    rcases exists_topic_or_refused recipient start domain read with ⟨topic, htopic⟩ | ⟨e, hrefused⟩
    · rw [(resolve_eq_ok_iff hread).mpr htopic] at h
      cases h
    · rw [hrefused.resolve_eq hread] at h
      exact ⟨e, (Except.error.inj h).symm, hrefused⟩
  · rintro ⟨e, rfl, hrefused⟩
    exact hrefused.resolve_eq hread

end Resolve

/-! ## Topics of the default pattern -/

open Mail.Address in
/-- An address alone is a list of one address. -/
theorem addresses_spec (spec : Spec) : addresses (some spec.text) = .ok [spec.text] := by
  have hwritten : writtenList [.bare spec] = spec.text := by simp [writtenList, Text.join, Mailbox.written]
  rw [← hwritten, addresses_writtenList, hwritten]
  rfl

open Mail.Address in
/-- Under a pattern that can be read, a recipient stands for a topic exactly if it is the one address that
the prefix, the topic and the domain make up, and the topic matches the pattern.  In every other case it
ends in the error of the first stage that it does not pass, which is an error of the recipient.  So every
topic of the default pattern is found again in the address that is made of it, if the domain and the whole
local part are dotted atoms. -/
theorem resolve_iff [Platform] {pattern : Option Text} {read : Pattern}
    (hread : Pattern.read (pattern.getD defaultPattern) = .ok read) (recipient start : Option Text)
    (domain : Text) :
    (∀ topic, resolve recipient domain start pattern = .ok topic ↔
      addresses recipient = .ok [start.getD [] ++ topic ++ '@' :: domain] ∧
        read.fullMatch topic = true) ∧
    (∀ fault, resolve recipient domain start pattern = .error fault ↔
      ∃ e, fault = .gateway e ∧ Refused recipient domain start read e) ∧
    (∀ fault, resolve recipient domain start pattern = .error fault → fault.IsRecipient) ∧
    ∀ (start : Option Text) (topic : Text) (name host : Dotted), IsTopic topic →
      start.getD [] ++ topic = name.text →
      resolve (some (start.getD [] ++ topic ++ '@' :: host.text)) host.text start none = .ok topic := by
  refine ⟨fun _ ↦ resolve_eq_ok_iff hread, fun _ ↦ resolve_eq_error_iff hread,
    resolve_endsOnlyIn hread recipient start domain, ?_⟩
  intro start topic name host htopic hname
  have haddresses := addresses_spec ⟨name, host⟩
  rw [Spec.text, ← hname] at haddresses
  have hdefault : Pattern.read (none.getD defaultPattern) = .ok _ := read_defaultPattern
  exact (resolve_eq_ok_iff hdefault).mpr
    ⟨haddresses, (fullMatch_default_iff read_defaultPattern).mpr htopic⟩

section Bare

attribute [local instance] Platform.bare

theorem resolve_alerts :
    Pattern.read ((none : Option Text).getD defaultPattern) =
        .ok ⟨{ unicode := true }, Pattern.lineOf topicItems 63⟩ ∧
      resolve (some "ntfy-alerts@ntfy.example.com") "ntfy.example.com" (some "ntfy-") none =
        .ok "alerts" := by
  have h := (@resolve_iff _ none _ read_defaultPattern none none []).2.2.2 (some "ntfy-") "alerts"
    ⟨⟨"ntfy-alerts", by simp, List.all_eq_true.mp (by decide)⟩, []⟩
    ⟨⟨"ntfy", by simp, List.all_eq_true.mp (by decide)⟩,
      [⟨"example", by simp, List.all_eq_true.mp (by decide)⟩,
        ⟨"com", by simp, List.all_eq_true.mp (by decide)⟩]⟩
    ⟨by decide, by decide, List.all_eq_true.mp (by decide)⟩ (by decide)
  exact ⟨read_defaultPattern, h⟩

end Bare

end Topic

end MailGateway
