import MailGateway.Proofs.FieldFaults
import MailGateway.Proofs.PublisherFailures
import MailGateway.Proofs.TopicResolution
import MailGateway.Proofs.Transaction

/-!
# Answers stay on one line

A client that gets a line break into an answer has the server say a line that the client wrote.  The texts
that reach an answer are errors of recipients, errors of the content of a mail, and errors of publishing.
Under the default pattern of topics, and with a publisher and codecs that word their failures on one line,
they are all on one line but for one kind: a mail whose `Content-Type` names a charset whose codec refuses
to decode, with a line break in the name, is rejected with this name as it is.
-/

namespace MailGateway

/-! ## Recipients -/

/-- The default pattern has no line break among its characters. -/
theorem Topic.IsTopic.oneLine {topic : Text} (h : IsTopic topic) : topic.OneLine := by
  intro c hc
  have hchar := h.2.2 c hc
  refine Bool.eq_false_iff.mpr fun hbreak ↦ ?_
  rcases Bool.or_eq_true_iff.mp hbreak with hc | hc
  · rw [beq_iff_eq.mp hc] at hchar
    cases hchar
  · rw [beq_iff_eq.mp hc] at hchar
    cases hchar

theorem Topic.Refused.oneLine {recipient start : Option Text} {domain : Text} {read : Pattern}
    {e : GatewayError} (h : Refused recipient domain start read e) : e.message.OneLine := by
  cases h with
  | unparsed hparse hclass =>
    unfold addresses at hparse
    split at hparse
    · cases hparse
      decide
    split at hparse
    · cases hparse
      decide
    split at hparse
    · cases hparse
    · next text _ _ _ =>
      cases hparse
      exact Text.oneLine_append.mpr ⟨by decide, text.oneLine_quoted⟩
  | count | domain | start | pattern => decide

namespace Config

/-- Whether topics have the default pattern. -/
def HasDefaultPattern (config : Config) : Prop :=
  config.topicPattern.getD Topic.defaultPattern = Topic.defaultPattern

variable {config : Config} (hpattern : config.HasDefaultPattern)
include hpattern

theorem HasDefaultPattern.topic_oneLine [Platform] {recipient topic : Text}
    (h : config.topicOf recipient = .ok topic) : topic.OneLine := by
  obtain ⟨_, _, -, -, -, hchecked⟩ := Topic.resolve_eq_ok.mp h
  obtain ⟨-, read, hread, hmatch⟩ := Topic.checked_eq_ok.mp hchecked
  rw [hpattern] at hread
  exact ((Topic.fullMatch_default_iff hread).mp hmatch).oneLine

theorem HasDefaultPattern.fault_oneLine [Platform] {recipient : Text} {e : GatewayError}
    (h : config.topicOf recipient = .error (.gateway e)) : e.message.OneLine := by
  have hread : Pattern.read (config.topicPattern.getD Topic.defaultPattern) = _ :=
    (congrArg Pattern.read hpattern).trans Topic.read_defaultPattern
  rcases Topic.exists_topic_or_refused (some recipient) config.addressStart config.domain _ with
    ⟨topic, haddress, hmatch⟩ | ⟨raised, hrefused⟩
  · have hok : config.topicOf recipient = .ok topic := by
      rw [Config.topicOf, Topic.resolve_of_topic haddress]
      exact Topic.checked_eq_ok.mpr ⟨rfl, _, hread, hmatch⟩
    rw [hok] at h
    cases h
  · have hraised : config.topicOf recipient = .error (.gateway raised) := hrefused.resolve_eq hread
    rw [hraised] at h
    cases h
    exact hrefused.oneLine

end Config

/-! ## Publishers -/

/-- A publisher that words its failures, and the names of its channels, on one line. -/
structure Publisher.SpeaksOneLine (publisher : Publisher) : Prop where
  failures : ∀ f ∈ publisher.failures, f.message.OneLine
  channels : ∀ bus, publisher = .bus bus → bus.channelStart.OneLine

/-- A failure is shown as it is worded, and the topic between quotes. -/
theorem Failure.oneLine_surfaced {f : Failure} (h : f.message.OneLine) (topic : Text) :
    (f.surfaced topic).message.OneLine := by
  have hwrapped {reason : Text} (hreason : reason.OneLine) :
      (GatewayError.publisherFailed topic reason).message.OneLine := by
    change Text.OneLine (_ ++ topic.quoted ++ _ ++ reason)
    simp only [Text.oneLine_append]
    exact ⟨⟨⟨by decide, topic.oneLine_quoted⟩, by decide⟩, hreason⟩
  obtain ⟨kind, text⟩ := f
  cases kind with
  | gateway c =>
    unfold surfaced
    dsimp only
    split
    · exact h
    · exact hwrapped h
  | bus name | other name => exact hwrapped h

namespace Publisher.SpeaksOneLine

variable {publisher : Publisher} (h : publisher.SpeaksOneLine)
include h

theorem refusal {topic : Text} (htopic : topic.OneLine) {f : Failure} (hf : f ∈ publisher.failures) :
    (publisher.refusal topic f).message.OneLine := by
  have hsurfaced := Failure.oneLine_surfaced (h.failures f hf) topic
  cases publisher with
  | memory memory | callback callback => exact hsurfaced
  | bus bus =>
    unfold Publisher.refusal
    dsimp only
    split
    · have hchannel : Text.OneLine (bus.channelStart ++ topic) :=
        Text.oneLine_append.mpr ⟨h.channels bus rfl, htopic⟩
      change Text.OneLine (_ ++ (bus.channelStart ++ topic) ++ _ ++ f.message)
      rw [Text.oneLine_append, Text.oneLine_append, Text.oneLine_append]
      exact ⟨⟨⟨by decide, hchannel⟩, by decide⟩, h.failures f hf⟩
    · exact hsurfaced

theorem publish (p : Publication) : (publisher.publish p).publisher.SpeaksOneLine where
  failures f hf := h.failures f (publisher.failures_publish_subset p hf)
  channels bus hbus := by
    cases publisher with
    | memory memory => cases hbus
    | callback callback => cases hbus
    | bus before =>
      have hstart : bus.channelStart = before.channelStart := by
        cases hbus
        unfold Bus.publish
        dsimp only
        split
        · split <;> rfl
        · rfl
      exact hstart ▸ h.channels before rfl

/-- Whatever a publication fails with is worded on one line. -/
theorem publishFault {p : Publication} (htopic : p.topic.OneLine) {fault : Fault}
    (hfault : (publisher.publish p).result = .error fault) :
    (Session.publishFault p.topic fault).IsOneLine := by
  rcases publisher.publish_result p with hok | ⟨f, hf, raised, hraised, hsurfaced⟩
  · rw [hok] at hfault
    cases hfault
  · rw [hraised] at hfault
    cases hfault
    rw [hsurfaced]
    exact h.refusal htopic hf

end Publisher.SpeaksOneLine

theorem Connection.oneLine_rejection_iff {envelope : Envelope} {e : GatewayError}
    (hclass : e.errorClass.isA .noRecipient = false) :
    (rejection envelope e).2.OneLine ↔ e.message.OneLine := by
  unfold rejection
  rw [hclass, if_neg Bool.false_ne_true]
  split
  · rw [Text.oneLine_append]
    exact and_iff_right (by decide)
  · rw [Text.oneLine_append]
    exact and_iff_right (by decide)

section OnPlatform

variable [Platform]

/-! ## Mails -/

/-- Whether a codec refuses to decode where the fields of a mail are read, and the mail names it with a
line break in the name. -/
def Mail.BreaksLine (mail : List UInt8) : Prop :=
  ∃ name reason, Mail.Message.read mail = .error (.charset (.refused name (.named reason))) ∧
    ¬name.OneLine

/-- A mail that cannot be read breaks lines exactly if its fault does. -/
theorem Mail.Body.readMessage_isOneLine_iff (hplatform : Platform.SpeaksOneLine) {mail : List UInt8}
    {fault : Fault} (h : readMessage mail = .error fault) : fault.IsOneLine ↔ ¬BreaksLine mail := by
  unfold readMessage at h
  cases hread : Message.read mail with
  | ok message =>
    rw [hread] at h
    cases h
  | error reason =>
    rw [hread] at h
    cases h
    rcases Message.read_endsOnlyIn hplatform mail reason hread with hline | ⟨name, cause, rfl, hcause⟩
    · refine iff_of_true ?_ ?_
      · dsimp only
        split
        · trivial
        · exact Text.oneLine_append.mpr ⟨by decide, hline⟩
      · rintro ⟨name, cause, hname, hbreak⟩
        cases hread.symm.trans hname
        change Text.OneLine (_ ++ _ ++ name ++ _ ++ cause ++ _) at hline
        simp only [Text.oneLine_append] at hline
        exact hbreak hline.1.1.1.2
    · have hbreaks : BreaksLine mail ↔ ¬name.OneLine := by
        refine ⟨?_, fun hbreak ↦ ⟨name, cause, hread, hbreak⟩⟩
        rintro ⟨other, _, hother, hbreak⟩
        cases hread.symm.trans hother
        exact hbreak
      rw [hbreaks, not_not, ← Charset.Error.oneLine_refused_iff hcause]
      change Text.OneLine ("Invalid MIME message: " ++ _) ↔ _
      rw [Text.oneLine_append]
      exact and_iff_right (by decide)

theorem Mail.not_breaksLine {mail : List UInt8} {message : Mail.Message}
    (h : Mail.Message.read mail = .ok message) : ¬BreaksLine mail := by
  rintro ⟨_, _, hread, -⟩
  cases h.symm.trans hread

namespace Publication

variable {ids : IdSource} {time limit : Int} {topic : Text} {mail : List UInt8}

/-- Only a mail that breaks lines cannot be assembled for a reason with a line break. -/
theorem assemble_isOneLine_iff (hplatform : Platform.SpeaksOneLine) {fault : Fault}
    (h : (assemble ids time topic limit mail).result = .error fault) :
    fault.IsOneLine ↔ ¬Mail.BreaksLine mail := by
  unfold assemble at h
  split at h
  · next hread =>
    cases h
    exact Mail.Body.readMessage_isOneLine_iff hplatform hread
  · next message hread =>
    refine iff_of_true ?_ (Mail.not_breaksLine (ok_of_mapError hread))
    dsimp only at h
    split at h
    · next hbody =>
      cases h
      exact (Mail.Body.ofMessage_endsOnlyIn message _ hbody).isOneLine
    · unfold withSubject at h
      split at h
      · cases h
      · exact endsOnlyIn_map _ (Mail.Subject.decode_isOneLine hplatform _) fault h

/-- A mail whose text cannot be taken is not assembled. -/
theorem assemble_of_extract {fault : Fault} (h : (Mail.Body.extract mail).2 = .error fault) :
    (assemble ids time topic limit mail).result = .error fault := by
  unfold Mail.Body.extract at h
  unfold assemble
  cases hread : Mail.Body.readMessage mail with
  | error other =>
    rw [hread] at h
    cases h
    rfl
  | ok message =>
    rw [hread] at h
    dsimp only at h ⊢
    rw [h]

theorem not_breaksLine_of_assemble {p : Publication}
    (h : (assemble ids time topic limit mail).result = .ok p) : ¬Mail.BreaksLine mail := by
  unfold assemble at h
  split at h
  · cases h
  · next message hread => exact Mail.not_breaksLine (ok_of_mapError hread)

end Publication

/-- What a mail ends in for a session is worded on one line, unless there is a recipient and the mail breaks
lines. -/
theorem Session.DataEnd.isOneLine_iff {session : Session} {backend : Backend} {mail : List UInt8}
    {step : Step Publication} (h : DataEnd session backend mail step)
    (hplatform : Platform.SpeaksOneLine) (hpublisher : backend.publisher.SpeaksOneLine)
    (htopic : session.topic.OneLine) :
    EndsOnlyIn Fault.IsOneLine step.result ↔ ¬(session.isIdle = false ∧ Mail.BreaksLine mail) := by
  cases h with
  | noRecipient hidle =>
    refine iff_of_true (endsOnlyIn_error ?_) fun hnot ↦ ?_
    · change Text.OneLine _
      decide
    · rw [hidle] at hnot
      cases hnot.1
  | unreadable hidle hassembled =>
    rw [and_iff_right hidle, ← Publication.assemble_isOneLine_iff hplatform hassembled]
    exact ⟨fun hends ↦ hends _ rfl, endsOnlyIn_error⟩
  | refused hidle hassembled hpublish =>
    rw [and_iff_right hidle]
    refine iff_of_true (endsOnlyIn_error ?_) (Publication.not_breaksLine_of_assemble hassembled)
    exact hpublisher.publishFault ((Session.assembled_topic hassembled).symm ▸ htopic) hpublish
  | published hidle hassembled hpublish =>
    rw [and_iff_right hidle]
    exact iff_of_true (endsOnlyIn_ok _) (Publication.not_breaksLine_of_assemble hassembled)

/-! ## Commands -/

namespace Connection

theorem data_oneLine_iff (connection : Connection) {server : Server} {mail : List UInt8}
    (hplatform : Platform.SpeaksOneLine) (hpublisher : server.backend.publisher.SpeaksOneLine)
    (htopic : connection.session.topic.OneLine)
    {text : Text} (hanswer : (connection.data server mail).result = .ok (.line text)) :
    text.OneLine ↔ ¬(connection.session.isIdle = false ∧ Mail.BreaksLine mail) := by
  obtain ⟨log, hdata⟩ := connection.data_eq server mail
  have hclass := connection.session.data_raises_noRecipient (connection.opened server).backend mail
  have hends := (connection.session.data_end (connection.opened server).backend mail).isOneLine_iff
    hplatform ((connection.opened_publisher server).symm ▸ hpublisher) htopic
  rw [hdata] at hanswer
  dsimp only at hanswer
  cases hresult : (connection.session.data (connection.opened server).backend mail).result with
  | ok p =>
    rw [hresult] at hanswer hends
    cases hanswer
    exact iff_of_true (by decide) (hends.mp (endsOnlyIn_ok p))
  | error fault =>
    rw [hresult] at hanswer
    cases fault with
    | gateway e =>
      cases hanswer
      by_cases hrecipient : e.errorClass.isA .noRecipient = true
      · have hidle := hclass.mp ⟨e, hresult, hrecipient⟩
        refine iff_of_true ?_ fun hnot ↦ Bool.false_ne_true (hnot.1.symm.trans hidle)
        rw [rejection, if_pos hrecipient]
        dsimp only
        decide
      · rw [oneLine_rejection_iff (Bool.eq_false_iff.mpr hrecipient), ← hends, hresult]
        exact ⟨fun hline ↦ endsOnlyIn_error hline, fun hline ↦ hline _ rfl⟩
    | _ => cases hanswer

/-- Every answer is on one line, except for the one to a mail that breaks lines. -/
theorem act_oneLine_iff (connection : Connection) {server : Server} {command : Command}
    (hplatform : Platform.SpeaksOneLine) (hpattern : server.backend.config.HasDefaultPattern)
    (hpublisher : server.backend.publisher.SpeaksOneLine) (htopic : connection.session.topic.OneLine)
    {text : Text} (hanswer : (connection.act server command).result = .ok (.line text)) :
    text.OneLine ↔
      ¬∃ mail, command = .data mail ∧ connection.session.isIdle = false ∧ Mail.BreaksLine mail := by
  cases command with
  | data mail =>
    refine (connection.data_oneLine_iff hplatform hpublisher htopic hanswer).trans (not_congr ?_)
    exact ⟨fun h ↦ ⟨mail, rfl, h⟩, by rintro ⟨_, ⟨⟩, h⟩; exact h⟩
  | auth credentials => cases hanswer
  | mail | rset | quit =>
    cases hanswer
    exact iff_of_true (by decide) (by rintro ⟨_, ⟨⟩, -⟩)
  | rcpt address options =>
    refine iff_of_true ?_ (by rintro ⟨_, ⟨⟩, -⟩)
    have hend := connection.rcpt_end server address options
    change (connection.rcpt server address options).result = _ at hanswer
    generalize connection.rcpt server address options = act at hend hanswer
    cases hend with
    | repeated | accepted =>
      cases hanswer
      decide
    | rejected hrecipients hfault hclass =>
      cases hanswer
      exact Text.oneLine_append.mpr ⟨by decide, hpattern.fault_oneLine hfault⟩
    | escaped => cases hanswer

/-- Under the default pattern, a session never has a topic with a line break. -/
theorem after_topic_oneLine {connection : Connection} {server : Server} {event : Event}
    (hpattern : server.backend.config.HasDefaultPattern) (htopic : connection.session.topic.OneLine) :
    (connection.after server event).session.topic.OneLine := by
  cases event with
  | connect | free => exact Text.oneLine_nil
  | newEnvelope => exact htopic
  | command name command =>
    cases command with
    | auth | rset | quit => exact Text.oneLine_nil
    | mail address options =>
      change (connection.mail server address options).connection.session.topic.OneLine
      rw [mail_connection]
      exact htopic
    | rcpt address options =>
      have hend := connection.rcpt_end server address options
      change (connection.rcpt server address options).connection.session.topic.OneLine
      generalize connection.rcpt server address options = act at hend
      cases hend with
      | repeated | rejected | escaped => exact htopic
      | accepted hrecipients hok => exact hpattern.topic_oneLine hok
    | data mail =>
      obtain ⟨step, log, hend, hdata⟩ := connection.data_end server mail
      change (connection.data server mail).connection.session.topic.OneLine
      rw [hdata]
      change step.session.topic.OneLine
      rw [hend.session_topic]
      exact Text.oneLine_nil

end Connection

/-! ## Runs -/

namespace Connections

/-- Whether an event is a mail that breaks lines, on a connection with an accepted recipient. -/
def BreaksLine (state : Connections) (event : Event) : Prop :=
  ∃ name mail, event = .command name (.data mail) ∧ (state.get name).session.isIdle = false ∧
    Mail.BreaksLine mail

end Connections

end OnPlatform

namespace Connections

/-- A server under the default pattern that hands publications to a function. -/
def plainServer : Server :=
  ⟨⟨⟨"b", none, 4096, none⟩, .callback ⟨[], []⟩, .empty, ⟨[], 0⟩, ⟨0, []⟩⟩, 0, none⟩

theorem plainServer_speaksOneLine : plainServer.backend.publisher.SpeaksOneLine where
  failures := List.forall_mem_nil _
  channels := nofun

/-- What a client says to have its recipient accepted. -/
def oneRcpt : List Event :=
  [.command "c" (.rcpt "x@b" [])]

theorem run_oneRcpt [Platform] :
    ((Connections.mk plainServer []).run oneRcpt).2 = [.ok (some (.line "250 OK"))] ∧
      (((Connections.mk plainServer []).run oneRcpt).1.get "c").session = ⟨"x"⟩ := by
  have htopic : plainServer.backend.config.topicOf "x@b" = .ok "x" :=
    Topic.resolve_eq_ok.mpr ⟨_, "x", addresses_one, rfl, rfl, rfl⟩
  let start : Connections := ⟨plainServer, []⟩
  have haccepted : (start.step (.command "c" (.rcpt "x@b" []))).result = .ok (some (.line "250 OK")) :=
    (step_command_answer ..).mpr ((Connection.rcpt_end ..).result_of_ok rfl htopic)
  refine ⟨congrArg (fun result ↦ [result]) haccepted, ?_⟩
  exact (congrArg Connection.session (start.get_step_self (.command "c" (.rcpt "x@b" [])))).trans
    ((Connection.rcpt_end ..).session_of_ok rfl htopic)

/-- A mail for this recipient that has no text is rejected with the reason. -/
theorem answer_of_extract [Platform] {mail : List UInt8} {e : GatewayError}
    (h : (Mail.Body.extract mail).2 = .error (.gateway e)) :
    ∃ envelope, (((Connections.mk plainServer []).run oneRcpt).1.step (.command "c" (.data mail))).result =
      .ok (some (.line (Connection.rejection envelope e).2)) := by
  have hsession := run_oneRcpt.2
  generalize ((Connections.mk plainServer []).run oneRcpt).1 = reached at *
  obtain ⟨log, hdata⟩ := (reached.get "c").data_eq reached.server mail
  have hresult (backend : Backend) :
      ((reached.get "c").session.data backend mail).result = .error (.gateway e) := by
    have hassembled : ((reached.get "c").session.assembled backend mail).result = .error (.gateway e) :=
      Publication.assemble_of_extract h
    have hend := (reached.get "c").session.data_end backend mail
    generalize (reached.get "c").session.data backend mail = step at hend
    cases hend with
    | noRecipient hnone =>
      rw [hsession] at hnone
      cases hnone
    | unreadable _ hother => exact hother.symm.trans hassembled
    | refused _ hother | published _ hother => cases hassembled.symm.trans hother
  refine ⟨(reached.get "c").envelope, (step_command_answer ..).mpr ?_⟩
  change ((reached.get "c").data reached.server mail).result = _
  rw [hdata, hresult]
  rfl

/-- A mail whose media type is an encoded word with a line break. -/
def brokenMediaType : List UInt8 :=
  Text.latinBytes "Content-Type: =?utf-8?q?a=0Ab?=\n\nhi"

section Bare

attribute [local instance] Platform.bare

/-- A platform without further codecs has none that breaks lines. -/
theorem bare_speaksOneLine : Platform.SpeaksOneLine := by
  rintro _ _ ⟨⟩

/-- A mail whose charset is an encoded word for a line break and the reserved name. -/
def brokenCharset : List UInt8 :=
  Text.latinBytes "Content-Type: text/plain; charset*=\"=?utf-8?q?=0Aundefined?=''x\"\n\nhi"

def undefinedFault : Mail.FieldFault :=
  .charset (.refused "\nundefined" (.named "UnicodeError: undefined encoding"))

/-- The answer to this mail, with the line break before the reserved name. -/
def brokenAnswer : Text :=
  "554 5.6.0 Message rejected: Invalid MIME message: decoding with '\nundefined' codec failed " ++
    "(UnicodeError: undefined encoding)"

end Bare

end Connections

end MailGateway
