import MailGateway.Proofs.Answers
import MailGateway.Proofs.FaultyMail

/-!
# Mails without an answer

The publisher can fail with anything, since a session turns every failure of it into an error of
publishing.  The content of a mail is not treated like this: a faulty mail for an accepted recipient ends
in a fault that is no error of the gateway, and the connection does not answer it.  Every other mail is
answered.
-/

namespace MailGateway

namespace Session

theorem isUnhandled_publishFault (topic : Text) (fault : Fault) :
    (publishFault topic fault).isUnhandled = false := by
  obtain ⟨e, hfault, -⟩ := publishFault_isA topic fault
  rw [hfault]
  rfl

/-- A mail for a session with a recipient ends in no error of the gateway exactly if it is faulty.  The
publisher does not matter, since whatever it fails with becomes an error of publishing. -/
theorem isUnhandled_data [Platform] (session : Session) (backend : Backend) (mail : List UInt8) :
    isUnhandled (session.data backend mail).result = true ↔
      session.isIdle = false ∧ Mail.IsFaulty mail := by
  have hassemble : isUnhandled (session.assembled backend mail).result = true ↔ Mail.IsFaulty mail :=
    Publication.isUnhandled_assemble ..
  have hend := session.data_end backend mail
  generalize session.data backend mail = step at hend
  cases hend with
  | noRecipient hidle =>
    exact iff_of_false Bool.false_ne_true fun h ↦ Bool.false_ne_true (h.1.symm.trans hidle)
  | unreadable hidle hassembled =>
    rw [and_iff_right hidle, ← hassemble, hassembled]
  | refused hidle hassembled =>
    rw [and_iff_right hidle, ← hassemble, hassembled]
    exact iff_of_false (Bool.eq_false_iff.mp (isUnhandled_publishFault ..)) Bool.false_ne_true
  | published hidle hassembled =>
    rw [and_iff_right hidle, ← hassemble, hassembled]

end Session

/-- Whether an answer is one of those to a mail: it is accepted, there is no recipient, it was not
published, or its content was rejected. -/
def Answer.isDataAnswer (answer : Answer) : Bool :=
  answer.hasCode "250" || answer.hasCode "503" || answer.hasCode "451" || answer.hasCode "554"

namespace Connection

/-- A mail is answered exactly if it ends in no fault but an error of the gateway. -/
theorem dataAnswer_isDataAnswer (envelope : Envelope) (result : Except Fault Publication) :
    (∃ answer, dataAnswer envelope result = .ok answer ∧ answer.isDataAnswer = true) ↔
      isUnhandled result = false := by
  cases result with
  | ok p => exact iff_of_true ⟨_, rfl, rfl⟩ rfl
  | error fault =>
    cases fault with
    | gateway e =>
      refine iff_of_true ⟨_, rfl, ?_⟩ rfl
      unfold rejection
      split
      · rfl
      · split <;> rfl
    | field | charset | charsetName | pattern | config | unsupported | external =>
      refine iff_of_false ?_ (by rintro ⟨⟩)
      rintro ⟨_, ⟨⟩, -⟩

/-- Whatever the publisher does, a session returns a publication or raises an error of the gateway for a
mail, and a connection answers the mail with one of four codes, exactly if there is no recipient or the
mail is not faulty. -/
theorem data_is_answered_iff [Platform] (mail : List UInt8) :
    (∀ (session : Session) (backend : Backend),
      (∃ p, (session.data backend mail).result = .ok p) ∨
          (∃ e, (session.data backend mail).result = .error (.gateway e)) ↔
        ¬(session.isIdle = false ∧ Mail.IsFaulty mail)) ∧
      ∀ (connection : Connection) (server : Server),
        (∃ answer, (connection.data server mail).result = .ok answer ∧
            answer.isDataAnswer = true) ↔
          ¬(connection.session.isIdle = false ∧ Mail.IsFaulty mail) := by
  have hsession (session : Session) (backend : Backend) :
      isUnhandled (session.data backend mail).result = false ↔
        ¬(session.isIdle = false ∧ Mail.IsFaulty mail) := by
    rw [← session.isUnhandled_data backend mail, Bool.not_eq_true]
  constructor
  · intro session backend
    exact isUnhandled_eq_false.symm.trans (hsession session backend)
  · intro connection server
    obtain ⟨log, hdata⟩ := connection.data_eq server mail
    rw [hdata]
    exact (dataAnswer_isDataAnswer ..).trans (hsession connection.session _)

def undefinedCharset : List UInt8 :=
  Text.latinBytes "Content-Type: text/plain; charset=undefined\n\nhi"

section Bare

attribute [local instance] Platform.bare

/-- The session of an accepted recipient ends in a fault of the charset, and its connection gives no
answer. -/
theorem undefined_charset_escapes :
    let server := Connections.oneRecipient.server
    let connection := Connections.oneRecipient.get "c"
    connection.session.stateName = "RECIPIENT_ACCEPTED" ∧
      ¬((∃ p, (connection.session.data server.backend undefinedCharset).result = .ok p) ∨
        ∃ e, (connection.session.data server.backend undefinedCharset).result =
          .error (.gateway e)) ∧
      ∀ answer, (connection.data server undefinedCharset).result ≠ .ok answer := by
  intro server connection
  have hdata : isUnhandled (connection.session.data server.backend undefinedCharset).result = true := by
    decide +kernel
  have hanswer : (connection.data server undefinedCharset).result.isOk = false := by decide +kernel
  refine ⟨rfl, ?_, ?_⟩
  · rw [← isUnhandled_eq_false, hdata]
    rintro ⟨⟩
  · intro answer h
    rw [h] at hanswer
    cases hanswer

end Bare

end Connection

end MailGateway
