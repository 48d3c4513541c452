import MailGateway.Proofs.Answers
import MailGateway.Proofs.PublisherFailures

/-!
# Connections are isolated

Connections share the backend with its counters, its source of identifiers and its publisher, the numbers
of sessions, and the identifier that is current.  None of this reaches a client.  What a client can tell of
its connection is a `View`: the envelope, and the topic of the session.  `View.next` answers commands from
a view and the settings alone, and as long as the publisher accepts everything a connection answers as its
view does.  So the events of others can be left out of a run: at an event of another connection the view
stays, and at an event of its own the view decides.
-/

namespace MailGateway

/-! ## Publications up to their stamps -/

namespace Publication

/-- The publication under another identifier and with another time. -/
def stamp (id : Text) (time : Int) (p : Publication) : Publication :=
  { p with id := id, time := time }

/-- Identifier and time do not count when a title is set. -/
theorem withTitle_stamp (p : Publication) (id : Text) (time : Int) (title : Text) :
    (p.stamp id time).withTitle title = (p.withTitle title).stamp id time := by
  unfold withTitle stamp
  dsimp only
  split <;> rfl

/-- Identifier and time do not count when a subject is decoded. -/
theorem withSubject_stamp [Platform] (p : Publication) (id : Text) (time : Int) (subject : Text) :
    (p.stamp id time).withSubject subject = (p.withSubject subject).map (stamp id time) := by
  unfold withSubject
  split
  · rfl
  · cases Mail.Subject.decode subject with
    | ok title => exact congrArg Except.ok (withTitle_stamp p id time title)
    | error fault => rfl

/-- The source of identifiers and the time decide about nothing but the identifier and the time. -/
theorem assemble_stamp [Platform] (ids others : IdSource) (time now : Int) (topic : Text) (limit : Int)
    (mail : List UInt8) :
    (assemble ids time topic limit mail).result =
      (assemble others now topic limit mail).result.map (stamp ids.next.1 time) := by
  unfold assemble
  cases Mail.Body.readMessage mail with
  | error fault => rfl
  | ok message =>
    dsimp only
    cases (Mail.Body.ofMessage message).2 with
    | error fault => rfl
    | ok body => exact withSubject_stamp (ofMail topic _ others.next.1 now) ids.next.1 time _

end Publication

/-! ## Views -/

namespace Connection

/-- What a client can tell of its connection: the envelope, and the topic of the session that the
connection is bound to, if it is. -/
structure View where
  envelope : Envelope
  topic : Option Text
deriving DecidableEq, Repr

def view (connection : Connection) : View :=
  ⟨connection.envelope, connection.binding.map fun binding ↦ binding.session.topic⟩

/-- The answer to a recipient that stands for no topic. -/
def rcptAnswer : Fault → Except Fault Answer
  | .gateway e =>
    if e.errorClass.isA .recipient then .ok (.line (refusal e.message)) else .error (.gateway e)
  | fault => .error fault

/-- What comes of a mail for a session, except for the stamp, if the publisher accepts everything. -/
def delivered [Platform] (config : Config) (session : Session) (mail : List UInt8) :
    Except Fault Publication :=
  if session.isIdle then .error (.gateway .noRecipient)
  else (Publication.assemble ⟨[], 0⟩ 0 session.topic config.messageLimit mail).result

namespace View

/-- The session of a view.  An unbound connection will be bound to an idle one. -/
def session (view : View) : Session :=
  (view.topic.map Session.mk).getD .idle

/-- What a client can tell of a connection on which nothing has been said. -/
def fresh : View := ⟨.empty, none⟩

/-- What a command makes of a view, and the answer to it. -/
def next [Platform] (config : Config) (view : View) : Command → View × Except Fault Answer
  | .auth _ => (⟨view.envelope, some []⟩, .ok .accepted)
  | .mail address options =>
    (⟨{ view.envelope with
        sender := some address
        mailOptions := view.envelope.mailOptions ++ options }, some view.session.topic⟩,
      .ok (.line "250 OK"))
  | .rcpt address options =>
    if view.envelope.recipients ≠ [] then
      (⟨view.envelope, some view.session.topic⟩, .ok (.line "452 4.5.3 Too many recipients"))
    else
      match config.topicOf address with
      | .ok topic =>
        (⟨{ view.envelope with
            recipients := [address]
            recipientOptions := view.envelope.recipientOptions ++ options }, some topic⟩,
          .ok (.line "250 OK"))
      | .error fault => (⟨view.envelope, some view.session.topic⟩, rcptAnswer fault)
  | .data mail =>
    (⟨view.envelope, some []⟩, dataAnswer view.envelope (delivered config view.session mail))
  | .rset => (⟨view.envelope, some []⟩, .ok (.line "250 OK"))
  | .quit => (⟨view.envelope, none⟩, .ok (.line "221 Bye"))

/-- What an event of its connection makes of a view, and what the event returns. -/
def after [Platform] (config : Config) (view : View) : Event → View × Except Fault (Option Answer)
  | .connect .. | .free _ => (fresh, .ok none)
  | .newEnvelope _ => ({ view with envelope := .empty }, .ok none)
  | .command _ command => ((view.next config command).1, (view.next config command).2.map some)

end View

theorem view_session (connection : Connection) : connection.view.session = connection.session := by
  unfold view View.session session
  cases connection.binding <;> rfl

theorem view_proceed (connection : Connection) (server : Server) (session : Session) :
    (connection.proceed server session).view = ⟨connection.envelope, some session.topic⟩ :=
  congrArg (View.mk · _) (connection.proceed_envelope server session)

/-! ## Commands -/

/-- An answer tells neither the identifier nor the time. -/
theorem dataAnswer_stamp (envelope : Envelope) (id : Text) (time : Int)
    (result : Except Fault Publication) :
    dataAnswer envelope (result.map (Publication.stamp id time)) = dataAnswer envelope result := by
  cases result with
  | ok p => rfl
  | error fault => cases fault <;> rfl

/-- The answer to a mail needs no more than the view, if the publisher accepts everything. -/
theorem dataAnswer_delivered [Platform] {session : Session} {backend : Backend} {mail : List UInt8}
    {step : Session.Step Publication} (hend : session.DataEnd backend mail step)
    (haccepts : backend.publisher.AcceptsAll) (envelope : Envelope) :
    dataAnswer envelope step.result =
      dataAnswer envelope (delivered backend.config session mail) := by
  have hassembled : dataAnswer envelope (session.assembled backend mail).result =
      dataAnswer envelope
        (Publication.assemble ⟨[], 0⟩ 0 session.topic backend.config.messageLimit mail).result := by
    rw [Session.assembled, Publication.assemble_stamp _ ⟨[], 0⟩ _ 0, dataAnswer_stamp]
  unfold delivered
  cases hend with
  | noRecipient hidle => rw [if_pos hidle]
  | unreadable hidle hfault => rw [hidle, if_neg Bool.false_ne_true, ← hassembled, hfault]
  | @refused hidle p _ _ hrefused =>
    cases (haccepts [] p).symm.trans hrefused
  | published hidle hpublished => rw [hidle, if_neg Bool.false_ne_true, ← hassembled, hpublished]

/-- While the publisher accepts everything, a connection does with a command what its view does. -/
theorem act_view [Platform] (connection : Connection) {server : Server} (command : Command)
    (haccepts : server.backend.publisher.AcceptsAll) :
    ((connection.act server command).connection.view, (connection.act server command).result) =
      connection.view.next server.backend.config command := by
  have hproceed := connection.view_proceed server
  have hsession := connection.view_session
  cases command with
  | auth credentials | quit => rfl
  | mail address options =>
    change ((connection.mail server address options).connection.view, _) = _
    rw [mail_connection, View.next, hsession]
    rfl
  | rset =>
    exact congrArg (·, Except.ok (Answer.line "250 OK")) (hproceed .idle)
  | rcpt address options =>
    have hend := connection.rcpt_end server address options
    change ((connection.rcpt server address options).connection.view,
      (connection.rcpt server address options).result) = _
    generalize connection.rcpt server address options = act at hend
    have henvelope : connection.view.envelope = connection.envelope := rfl
    rw [View.next, hsession, henvelope]
    cases hend with
    | repeated hrecipients =>
      rw [if_pos hrecipients, hproceed]
    | accepted hrecipients htopic =>
      rw [if_neg (not_not_intro hrecipients), htopic]
      rfl
    | rejected hrecipients htopic hclass =>
      rw [if_neg (not_not_intro hrecipients), htopic, hproceed]
      dsimp only
      rw [rcptAnswer, if_pos hclass]
    | @escaped hrecipients fault htopic hclass =>
      rw [if_neg (not_not_intro hrecipients), htopic, hproceed]
      cases fault with
      | gateway e =>
        dsimp only
        rw [rcptAnswer, hclass e rfl, if_neg Bool.false_ne_true]
      | _ => rfl
  | data mail =>
    obtain ⟨step, log, hend, hdata⟩ := connection.data_end server mail
    have hanswer := dataAnswer_delivered hend
      ((connection.opened_publisher server).symm ▸ haccepts) connection.envelope
    change ((connection.data server mail).connection.view,
      (connection.data server mail).result) = _
    rw [hdata, hproceed, hend.session_topic, hanswer, opened_config, View.next, hsession]
    rfl

/-- A client sees only what its own connection and the configuration decide. -/
theorem after_view [Platform] (connection : Connection) {server : Server} (event : Event)
    (haccepts : server.backend.publisher.AcceptsAll) :
    (connection.after server event).view =
      (connection.view.after server.backend.config event).1 := by
  cases event with
  | connect | free | newEnvelope => rfl
  | command name command => exact congrArg Prod.fst (connection.act_view command haccepts)

end Connection

/-! ## Runs -/

namespace Connections

/-- With a publisher that accepts everything, an answer is decided by the view of its client. -/
theorem step_result [Platform] (state : Connections) (event : Event)
    (haccepts : state.server.backend.publisher.AcceptsAll) :
    (state.step event).result =
      ((state.get event.name).view.after state.server.backend.config event).2 := by
  cases event with
  | connect | free | newEnvelope => rfl
  | command name command =>
    exact congrArg (Except.map some ·.2) ((state.get name).act_view command haccepts)

/-- Two states that a client cannot tell apart, now or later: the settings and the view of its connection
are the same, and both publishers accept everything. -/
structure Alike (name : Text) (first second : Connections) : Prop where
  config : first.server.backend.config = second.server.backend.config
  view : (first.get name).view = (second.get name).view
  accepts_first : first.server.backend.publisher.AcceptsAll
  accepts_second : second.server.backend.publisher.AcceptsAll

namespace Alike

variable {name : Text} {first second : Connections}

/-- A client cannot tell that something happens to another connection. -/
theorem step_other [Platform] (h : Alike name first second) {event : Event} (hother : name ≠ event.name) :
    Alike name (first.step event).state second where
  config := (first.step_config event).trans h.config
  view := by rw [get_step, if_neg hother, h.view]
  accepts_first := step_publisher (fun _ p haccepts ↦ haccepts.publish p) h.accepts_first event
  accepts_second := h.accepts_second

/-- An event of the connection returns the same in both states, and they stay alike. -/
theorem step_self [Platform] (h : Alike name first second) {event : Event} (hown : name = event.name) :
    (first.step event).result = (second.step event).result ∧
      Alike name (first.step event).state (second.step event).state := by
  subst hown
  constructor
  · rw [step_result first event h.accepts_first, step_result second event h.accepts_second, h.config,
      h.view]
  · refine ⟨?_, ?_, ?_, ?_⟩
    · rw [step_config, step_config, h.config]
    · rw [get_step_self, get_step_self, Connection.after_view _ event h.accepts_first,
        Connection.after_view _ event h.accepts_second, h.config, h.view]
    · exact step_publisher (fun _ p haccepts ↦ haccepts.publish p) h.accepts_first event
    · exact step_publisher (fun _ p haccepts ↦ haccepts.publish p) h.accepts_second event

/-- A run in one state is alike to the run of the client's own events in the other. -/
theorem run [Platform] (h : Alike name first second) (events : List Event) :
    (first.calls events).filter (·.1.name = name) =
        second.calls (events.filter (·.name = name)) ∧
      Alike name (first.run events).1 (second.run (events.filter (·.name = name))).1 := by
  induction events generalizing first second with
  | nil => exact ⟨rfl, h⟩
  | cons event events ih =>
    rw [calls_cons, run_cons_fst]
    by_cases hown : event.name = name
    · obtain ⟨hresult, hnext⟩ := h.step_self hown.symm
      obtain ⟨hcalls, hfinal⟩ := ih hnext
      rw [List.filter_cons_of_pos (by simpa using hown), List.filter_cons_of_pos (by simpa using hown),
        calls_cons, run_cons_fst, hresult, hcalls]
      exact ⟨rfl, hfinal⟩
    · rw [List.filter_cons_of_neg (by simpa using hown), List.filter_cons_of_neg (by simpa using hown)]
      exact ih (h.step_other (Ne.symm hown))

end Alike

/-- As long as the publisher accepts everything, the events of other connections make no difference for
a client: its own events return the same without them, and leave the same envelope and the same topic.
This holds for every run, so also for whatever part of it has been run so far. -/
theorem run_isolated [Platform] (state : Connections) (haccepts : state.server.backend.publisher.AcceptsAll)
    (events : List Event) (name : Text) :
    (state.calls events).filter (·.1.name = name) =
        state.calls (events.filter (·.name = name)) ∧
      ((state.run events).1.get name).view =
        ((state.run (events.filter (·.name = name))).1.get name).view := by
  have halike : Alike name state state := ⟨rfl, rfl, haccepts, haccepts⟩
  obtain ⟨hcalls, hfinal⟩ := halike.run events
  exact ⟨hcalls, hfinal.view⟩

/-- A client that sends a mail while another one asks for a recipient and leaves. -/
def twoClients : List Event :=
  [.connect "d" (.address [.text "127.0.0.1", .int 40001]),
    .command "d" (.mail "a@b" []),
    .command "c" (.data (Text.latinBytes "Content-Type: text/plain\n\nhi")),
    .command "d" (.rcpt "x@b" []),
    .free "d"]

section Bare

attribute [local instance] Platform.bare

/-- The mail is accepted as without the other client. -/
theorem twoClients_isolated :
    oneRecipient.server.backend.publisher.AcceptsAll ∧
      (oneRecipient.calls twoClients).filter (·.1.name = "c".toList) =
        oneRecipient.calls
          [.command "c" (.data (Text.latinBytes "Content-Type: text/plain\n\nhi"))] ∧
      ((oneRecipient.run twoClients).1.get "c").view.topic = some [] := by
  have haccepts : oneRecipient.server.backend.publisher.AcceptsAll :=
    (Publisher.acceptsAll_iff _).mpr rfl
  obtain ⟨hcalls, hview⟩ := run_isolated oneRecipient haccepts twoClients "c"
  refine ⟨haccepts, hcalls, ?_⟩
  rw [hview]
  decide +kernel

end Bare

end Connections

end MailGateway
