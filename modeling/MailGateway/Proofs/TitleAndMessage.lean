import MailGateway.Proofs.FoldedSubject

/-!
# Title and message of a publication

What is published of a mail depends on two texts: the body without the blanks around it, and the decoded
subject.  A blank body leaves its place to the subject, which is no title then.  A cut body always leaves
something, so cutting never has this effect.
-/

namespace MailGateway

namespace Text

/-- A limit that is not negative says how many characters to keep. -/
theorem truncate_eq_take {limit : Int} (h : 0 ≤ limit) (text : Text) :
    truncate limit text = text.take limit.toNat := by
  obtain ⟨n, rfl⟩ := Int.eq_ofNat_of_zero_le h
  unfold truncate
  split
  · rfl
  · next hfits => exact (List.take_of_length_le (by omega)).symm

end Text

namespace Publication

/-- The decoding of the first subject of a mail, without the blanks around it.  It is empty if there is no
subject or only a blank one. -/
def decodedSubject [Platform] (mail : List UInt8) : Except Fault Text := do
  let message ← Mail.Body.readMessage mail
  match Mail.rawField? "Subject" message.fields with
  | none => return []
  | some value =>
    let subject := Text.trim value
    if subject = [] then return [] else Mail.Subject.decode subject

/-- The subject of a mail that was read is decoded on its own. -/
theorem decodedSubject_of_read [Platform] {mail : List UInt8} {message : Mail.Message}
    (h : Mail.Body.readMessage mail = .ok message) :
    decodedSubject mail = Mail.Subject.decode (subject message) := by
  have hdecode : Mail.Subject.decode [] = .ok [] := rfl
  rw [decodedSubject, h, subject]
  dsimp only [bind, Except.bind]
  cases Mail.rawField? "Subject" message.fields with
  | none => exact hdecode.symm
  | some value =>
    dsimp only [Option.getD_some]
    split
    · next hblank =>
      rw [hblank, hdecode]
      rfl
    · rfl

/-- Once the body is known, all that is missing is the title. -/
theorem assemble_of_body [Platform] {mail : List UInt8} {body : Text}
    (h : (Mail.Body.extract mail).2 = .ok body) (ids : IdSource) (time : Int) (topic : Text)
    (limit : Int) :
    (assemble ids time topic limit mail).result =
      (decodedSubject mail).map
        (ofMail topic (Text.truncate limit (Text.trim body)) ids.next.1 time).withTitle := by
  unfold Mail.Body.extract at h
  split at h
  · next message hread =>
    rw [assemble, hread, decodedSubject_of_read hread]
    dsimp only
    rw [h]
    exact withSubject_eq rfl _
  · cases h

/-- Title and message of what is published of a mail with the body and the decoded subject. -/
def titleAndMessage (limit : Nat) (body title : Text) : Text × Text :=
  if body = [] then ([], title) else (title, body.take limit)

/-- Setting the title swaps it with a message that is empty. -/
theorem withTitle_titleAndMessage {p : Publication} {body : Text} {limit : Nat}
    (hmessage : p.message = body.take limit) (hlimit : 0 < limit) (title : Text) :
    ((p.withTitle title).title, (p.withTitle title).message) = titleAndMessage limit body title := by
  -- Something is left of a body that is cut.
  have hleft : p.message = [] ↔ body = [] := by
    rw [hmessage, List.take_eq_nil_iff]
    exact or_iff_right (Nat.ne_of_gt hlimit)
  rw [titleAndMessage, withTitle_message, ← hmessage]
  simp only [← hleft]
  unfold withTitle
  cases p.message <;> cases title <;> rfl

/-- A title stands with a message, the subject takes the place of the message for the empty body only, and
there is always a message unless both are empty. -/
theorem message_of_titleAndMessage {p : Publication} {body title : Text} {limit : Nat}
    (hlimit : 0 < limit) (h : (p.title, p.message) = titleAndMessage limit body title) :
    (p.title ≠ [] → p.message ≠ []) ∧ (p.title = [] ∧ p.message = title ↔ body = []) ∧
      (p.message = [] ↔ body = [] ∧ title = []) := by
  by_cases hblank : body = []
  · obtain ⟨ht, hm⟩ := Prod.mk.inj (h.trans (if_pos hblank))
    simp [ht, hm, hblank]
  · obtain ⟨ht, hm⟩ := Prod.mk.inj (h.trans (if_neg hblank))
    have hmessage : p.message ≠ [] := by
      rw [hm]
      exact mt List.take_eq_nil_iff.mp (not_or.mpr ⟨Nat.ne_of_gt hlimit, hblank⟩)
    refine ⟨fun _ ↦ hmessage, ⟨?_, fun h ↦ absurd h hblank⟩, iff_of_false hmessage fun h ↦ hblank h.1⟩
    rintro ⟨hnil, hsame⟩
    exact absurd (hsame.trans (ht.symm.trans hnil)) hmessage

/-- A mail whose body is known is published exactly if its subject can be decoded, and a fault of this
subject is the fault of the mail.  A body that is not blank is cut to the message, and the subject is its
title, else the subject is the message.  So there is no title without a message, the subject takes the
place of the message for blank bodies only, and nothing is published as the message only if there is
neither a body nor a subject. -/
theorem assemble_titleAndMessage [Platform] {mail : List UInt8} {body : Text} {limit : Int}
    (hlimit : 1 ≤ limit) (hbody : (Mail.Body.extract mail).2 = .ok body)
    (ids : IdSource) (time : Int) (topic : Text) :
    (∀ fault, decodedSubject mail = .error fault →
      (assemble ids time topic limit mail).result = .error fault) ∧
    ∀ title, decodedSubject mail = .ok title →
      ∃ p, (assemble ids time topic limit mail).result = .ok p ∧
        (p.title, p.message) = titleAndMessage limit.toNat (Text.trim body) title ∧
        (p.title ≠ [] → p.message ≠ []) ∧
        (p.title = [] ∧ p.message = title ↔ Text.trim body = []) ∧
        (p.message = [] ↔ Text.trim body = [] ∧ title = []) := by
  rw [assemble_of_body hbody]
  constructor
  · intro fault hfault
    rw [hfault]
    rfl
  · intro title htitle
    have htexts := withTitle_titleAndMessage
      (p := ofMail topic (Text.truncate limit (Text.trim body)) ids.next.1 time)
      (Text.truncate_eq_take (by omega) _) (by omega) title
    exact ⟨_, congrArg (Except.map _) htitle, htexts, message_of_titleAndMessage (by omega) htexts⟩

/-- A mail with a blank body and an encoded subject. -/
def blankMail : List UInt8 :=
  Text.utf8 "Content-Type: text/plain\r\nSubject:  =?utf-8?q?Caf=C3=A9?= \r\n\r\n \t\r\n"

section Bare

attribute [local instance] Platform.bare

/-- A body of blanks leaves the message to the subject. -/
theorem blankMail_titleAndMessage :
    ∃ p, (1 : Int) ≤ 2 ∧ (Mail.Body.extract blankMail).2 = .ok " \t\r\n" ∧
      (assemble ⟨[], 0⟩ 0 "t" 2 blankMail).result = .ok p ∧ p.title = [] ∧ p.message = "Café" := by
  have hbody : (Mail.Body.extract blankMail).2 = .ok " \t\r\n" := ok_of_toOption (by decide +kernel)
  have htitle : decodedSubject blankMail = .ok "Café" := ok_of_toOption (by decide +kernel)
  have htexts := (assemble_titleAndMessage (by decide : (1 : Int) ≤ 2) hbody ⟨[], 0⟩ 0 "t").2 _ htitle
  obtain ⟨p, hp, htexts, -⟩ := htexts
  obtain ⟨hpt, hpm⟩ := Prod.mk.inj htexts
  exact ⟨p, by decide, hbody, hp, hpt, hpm⟩

end Bare

end Publication

end MailGateway
