import MailGateway.Proofs.Assembly
import MailGateway.Proofs.Publisher

/-!
# The steps of a session

What a recipient and a mail can do to a session and to its backend.  `DataEnd` lists the four ends of
a mail together with their conditions: no recipient, a mail that cannot be assembled, a publisher
that fails, and a published mail.  Each of them records exactly one outcome, and none of them touches
the settings, so facts about runs follow by cases on the end.
-/

namespace MailGateway

variable [Platform]

def Config.topicOf (config : Config) (recipient : Text) : Except Fault Text :=
  Topic.resolve (some recipient) config.domain config.addressStart config.topicPattern

namespace Session

/-- A topic is kept, whatever was accepted before. -/
theorem rcpt_of_ok {session : Session} {backend : Backend} {recipient topic : Text}
    (h : backend.config.topicOf recipient = .ok topic) :
    session.rcpt backend recipient = ⟨backend, ⟨topic⟩, [], .ok topic⟩ := by
  unfold Config.topicOf at h
  simp only [rcpt, h]

/-- A refused recipient is counted and leaves the session as it is. -/
theorem rcpt_of_error {session : Session} {backend : Backend} {recipient : Text} {fault : Fault}
    (h : backend.config.topicOf recipient = .error fault) :
    session.rcpt backend recipient = ⟨backend.record .failure, session, [], .error fault⟩ := by
  unfold Config.topicOf at h
  simp only [rcpt, h]

/-- What comes of a mail before it is handed to the publisher. -/
def assembled (session : Session) (backend : Backend) (mail : List UInt8) :
    Publication.Assembled :=
  Publication.assemble backend.ids backend.clock.now session.topic backend.config.messageLimit mail

/-- The ends of a mail for a session. -/
inductive DataEnd (session : Session) (backend : Backend) (mail : List UInt8) :
    Step Publication → Prop
  | noRecipient (hidle : session.isIdle = true) :
      DataEnd session backend mail
        ⟨backend.record .failure, session, [], .error (.gateway .noRecipient)⟩
  | unreadable (hidle : session.isIdle = false) {fault : Fault}
      (hassembled : (session.assembled backend mail).result = .error fault) :
      DataEnd session backend mail
        ⟨{ backend with ids := (session.assembled backend mail).ids }.record .failure, idle,
          (session.assembled backend mail).notices.map Backend.noticeEntry, .error fault⟩
  | refused (hidle : session.isIdle = false) {p : Publication} {fault : Fault}
      (hassembled : (session.assembled backend mail).result = .ok p)
      (hpublish : (backend.publisher.publish p).result = .error fault) :
      DataEnd session backend mail
        ⟨{ backend with
            ids := (session.assembled backend mail).ids
            publisher := (backend.publisher.publish p).publisher }.record .failure, idle,
          (session.assembled backend mail).notices.map Backend.noticeEntry ++
            (backend.publisher.publish p).log, .error (publishFault p.topic fault)⟩
  | published (hidle : session.isIdle = false) {p : Publication}
      (hassembled : (session.assembled backend mail).result = .ok p)
      (hpublish : (backend.publisher.publish p).result = .ok ()) :
      DataEnd session backend mail
        ⟨{ backend with
            ids := (session.assembled backend mail).ids
            publisher := (backend.publisher.publish p).publisher }.record .success, idle,
          (session.assembled backend mail).notices.map Backend.noticeEntry ++
            (backend.publisher.publish p).log, .ok p⟩

/-- Every mail comes to one of the ends. -/
theorem data_end (session : Session) (backend : Backend) (mail : List UInt8) :
    DataEnd session backend mail (session.data backend mail) := by
  unfold data
  split
  · next hidle => exact .noRecipient hidle
  · next hidle =>
    rw [Bool.not_eq_true] at hidle
    dsimp only
    split
    · next fault hassembled => exact .unreadable hidle hassembled
    · next p hassembled =>
      split
      · next hpublish => exact .published hidle hassembled hpublish
      · next fault hpublish => exact .refused hidle hassembled hpublish

theorem assembled_topic {session : Session} {backend : Backend} {mail : List UInt8}
    {p : Publication} (h : (session.assembled backend mail).result = .ok p) :
    p.topic = session.topic :=
  Publication.assemble_topic h

/-- A mail that is not assembled has a fault of its content. -/
theorem assembled_isContent {session : Session} {backend : Backend} {mail : List UInt8}
    {fault : Fault} (h : (session.assembled backend mail).result = .error fault) :
    fault.IsContent :=
  Publication.assemble_endsOnlyIn _ _ _ _ _ fault h

namespace DataEnd

variable {session : Session} {backend : Backend} {mail : List UInt8} {step : Step Publication}

theorem config_eq (h : DataEnd session backend mail step) :
    step.backend.config = backend.config := by
  cases h <;> rfl

/-- A mail uses the recipient up, whatever comes of it. -/
theorem session_topic (h : DataEnd session backend mail step) : step.session.topic = [] := by
  cases h with
  | noRecipient hidle => exact List.isEmpty_iff.mp hidle
  | unreadable | refused | published => rfl

/-- Exactly one outcome is recorded. -/
theorem tally_eq (h : DataEnd session backend mail step) :
    step.backend.tally =
      backend.tally.record (if step.result.isOk then .success else .failure) := by
  cases h <;> rfl

end DataEnd

/-- A mail raises the error of a missing recipient exactly if the session waits for a recipient.  No error
of the content and no error of the publisher is of this class. -/
theorem data_raises_noRecipient (session : Session) (backend : Backend) (mail : List UInt8) :
    (∃ e, (session.data backend mail).result = .error (.gateway e) ∧
        e.errorClass.isA .noRecipient = true) ↔ session.isIdle = true := by
  have hend := session.data_end backend mail
  generalize session.data backend mail = step at hend
  cases hend with
  | noRecipient hidle => exact iff_of_true ⟨_, rfl, rfl⟩ hidle
  | @unreadable hidle fault hassembled =>
    refine iff_of_false ?_ (Bool.eq_false_iff.mp hidle)
    rintro ⟨e, hresult, hclass⟩
    cases hresult
    rw [(ErrorClass.not_isA_of_content (assembled_isContent hassembled)).1] at hclass
    cases hclass
  | @refused hidle p fault hassembled hpublish =>
    refine iff_of_false ?_ (Bool.eq_false_iff.mp hidle)
    obtain ⟨raised, hfault, hpublishing⟩ := publishFault_isA p.topic fault
    rintro ⟨e, hresult, hclass⟩
    rw [hfault] at hresult
    cases hresult
    rw [ErrorClass.not_noRecipient_of_publish hpublishing] at hclass
    cases hclass
  | published hidle hassembled hpublish =>
    refine iff_of_false ?_ (Bool.eq_false_iff.mp hidle)
    rintro ⟨e, hresult, -⟩
    cases hresult

end Session

end MailGateway
