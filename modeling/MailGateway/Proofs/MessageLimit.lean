import MailGateway.Proofs.Topic
import MailGateway.Assembly

/-!
# The limit of the published message

The text of a mail is cut to the limit before the subject is looked at.  A mail without text is published
with its decoded subject as the message, and this subject is not cut.  So the limit holds for the
publication of a mail exactly unless the mail has no text and a subject that is too long.
-/

namespace MailGateway

/-! ## Cut texts -/

namespace Text

/-- A text that is cut is no longer than its limit. -/
theorem length_truncate_le {limit : Int} (h : 0 ≤ limit) (text : Text) :
    ((truncate limit text).length : Int) ≤ limit := by
  unfold truncate
  split
  · cases limit with
    | ofNat n =>
      have hlength : (text.take n).length ≤ n := List.length_take_le n text
      exact Int.ofNat_le.mpr hlength
    | negSucc n => exact absurd h (by omega)
  · omega

/-- Something is left of a text that is cut to a positive length. -/
theorem truncate_eq_nil_iff {limit : Int} (h : 1 ≤ limit) (text : Text) :
    truncate limit text = [] ↔ text = [] := by
  unfold truncate
  split
  · cases limit with
    | ofNat n =>
      have hn : n ≠ 0 := by
        rintro rfl
        exact absurd h (by decide)
      simp [hn]
    | negSucc n => exact absurd h (by omega)
  · exact Iff.rfl

end Text

namespace Publication


/-! ## Titles and messages -/

/-- A title becomes the message where there is none. -/
theorem withTitle_message (p : Publication) (title : Text) :
    (p.withTitle title).message = if p.message = [] then title else p.message := by
  unfold withTitle
  cases p.message <;> cases title <;> simp

/-- A mail without a subject has the empty title, so it is no case of its own. -/
theorem withSubject_eq [Platform] {p : Publication} (h : p.title = []) (subject : Text) :
    p.withSubject subject = (Mail.Subject.decode subject).map p.withTitle := by
  unfold withSubject
  cases subject with
  | nil =>
    have hdecode : Mail.Subject.decode [] = .ok [] := rfl
    have hsame : p.withTitle [] = p := by
      obtain ⟨topic, message, title, id, time, event⟩ := p
      obtain rfl : title = [] := h
      rfl
    rw [hdecode]
    exact (congrArg Except.ok hsame).symm
  | cons c subject => rfl

/-- A mail is assembled if it can be read, has a text and has a subject that can be decoded. -/
theorem assemble_eq_ok [Platform] {ids : IdSource} {time : Int} {topic : Text} {limit : Int}
    {mail : List UInt8} {p : Publication} (h : (assemble ids time topic limit mail).result = .ok p) :
    ∃ message body title, Mail.Body.readMessage mail = .ok message ∧
      (Mail.Body.ofMessage message).2 = .ok body ∧
      Mail.Subject.decode (subject message) = .ok title ∧
      p = (ofMail topic (Text.truncate limit (Text.trim body)) ids.next.1 time).withTitle title := by
  unfold assemble at h
  split at h
  · cases h
  · next message hread =>
    dsimp only at h
    split at h
    · cases h
    · next body hbody =>
      rw [withSubject_eq rfl] at h
      cases hdecode : Mail.Subject.decode (subject message) with
      | error fault =>
        rw [hdecode] at h
        cases h
      | ok title =>
        rw [hdecode] at h
        exact ⟨message, body, title, hread, hbody, hdecode, (Except.ok.inj h).symm⟩

/-! ## Exceeding the limit -/

/-- The mail has no text, and its subject is longer than the limit. -/
def SubjectExceeds [Platform] (limit : Int) (mail : List UInt8) : Prop :=
  ∃ message body title, Mail.Body.readMessage mail = .ok message ∧
    (Mail.Body.ofMessage message).2 = .ok body ∧ Text.trim body = [] ∧
    Mail.Subject.decode (subject message) = .ok title ∧ limit < title.length

/-- The message of a publication keeps the limit exactly if it is not a subject that exceeds it. -/
theorem message_keeps_limit_iff [Platform] {ids : IdSource} {time : Int} {topic : Text} {limit : Int}
    {mail : List UInt8} {p : Publication} (hlimit : 1 ≤ limit)
    (h : (assemble ids time topic limit mail).result = .ok p) :
    (p.message.length : Int) ≤ limit ↔ ¬SubjectExceeds limit mail := by
  obtain ⟨message, body, title, hread, hbody, htitle, rfl⟩ := assemble_eq_ok h
  have hmessage : (ofMail topic (Text.truncate limit (Text.trim body)) ids.next.1 time).message = [] ↔
      Text.trim body = [] := Text.truncate_eq_nil_iff hlimit _
  have hexceeds : SubjectExceeds limit mail ↔ Text.trim body = [] ∧ limit < title.length := by
    constructor
    · rintro ⟨message', body', title', hread', hbody', hempty, htitle', hlong⟩
      obtain rfl := Except.ok.inj (hread.symm.trans hread')
      obtain rfl := Except.ok.inj (hbody.symm.trans hbody')
      obtain rfl := Except.ok.inj (htitle.symm.trans htitle')
      exact ⟨hempty, hlong⟩
    · rintro ⟨hempty, hlong⟩
      exact ⟨message, body, title, hread, hbody, hempty, htitle, hlong⟩
  rw [withTitle_message, hexceeds]
  by_cases hempty : Text.trim body = []
  · rw [if_pos (hmessage.mpr hempty)]
    constructor
    · intro hle hlong
      omega
    · intro hnot
      have hlong : ¬limit < title.length := fun hlong ↦ hnot ⟨hempty, hlong⟩
      omega
  · rw [if_neg fun hnil ↦ hempty (hmessage.mp hnil)]
    have hle : ((Text.truncate limit (Text.trim body)).length : Int) ≤ limit :=
      Text.length_truncate_le (by omega) _
    exact iff_of_true hle fun hboth ↦ hempty hboth.1

def mailWithText : List UInt8 :=
  Text.utf8 "Content-Type: text/plain\r\nSubject: Disk is full\r\n\r\nAll of it\r\n"

section Bare

attribute [local instance] Platform.bare

/-- A message that is not empty is cut, whatever the subject. -/
theorem mailWithText_keeps_limit :
    ∃ p, (1 : Int) ≤ 4 ∧ (assemble ⟨[], 0⟩ 0 "t" 4 mailWithText).result = .ok p ∧
      ((p.message.length : Int) ≤ 4 ↔ ¬SubjectExceeds 4 mailWithText) := by
  have hok : (assemble ⟨[], 0⟩ 0 "t" 4 mailWithText).result.isOk = true := by decide +kernel
  cases h : (assemble ⟨[], 0⟩ 0 "t" 4 mailWithText).result with
  | error fault =>
    rw [h] at hok
    cases hok
  | ok p => exact ⟨p, by decide, rfl, message_keeps_limit_iff (by decide) h⟩

def mailWithoutText : List UInt8 :=
  Text.utf8 "Content-Type: text/plain\r\nSubject: Disk is full\r\n\r\n\r\n"

/-- The subject of a mail without text is published whole. -/
theorem mailWithoutText_exceeds_limit :
    ∃ p, (assemble ⟨[], 0⟩ 0 "t" 4 mailWithoutText).result = .ok p ∧
      p.message = "Disk is full" ∧ ¬(p.message.length : Int) ≤ 4 := by
  have hmessage : (assemble ⟨[], 0⟩ 0 "t" 4 mailWithoutText).result.toOption.map Publication.message =
      some "Disk is full".toList := by decide +kernel
  cases h : (assemble ⟨[], 0⟩ 0 "t" 4 mailWithoutText).result with
  | error fault =>
    rw [h] at hmessage
    cases hmessage
  | ok p =>
    rw [h] at hmessage
    have hp : p.message = "Disk is full" := Option.some.inj hmessage
    refine ⟨p, rfl, hp, ?_⟩
    rw [hp]
    decide

end Bare

end Publication

end MailGateway
