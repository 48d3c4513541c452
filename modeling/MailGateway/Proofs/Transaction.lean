import MailGateway.Proofs.ConnectionRun
import MailGateway.Proofs.Topic

/-!
# What becomes of an accepted recipient

A mail is answered with the demand for a recipient exactly if the session of its connection is idle.
Between an accepted recipient and the mail only two kinds of calls on the connection decide about this:
another accepted recipient, which takes the place of the first, and a login, which binds the connection
to an idle session and forgets the recipient.  The last of them decides, whatever happens on other
connections.
-/

namespace MailGateway

/-- Whether the topic pattern does not match the empty text. -/
def Config.NeedsTopic [Platform] (config : Config) : Prop :=
  Topic.checked config.topicPattern [] ≠ .ok []

/-- A configuration that needs a topic accepts no recipient without one. -/
theorem Config.NeedsTopic.topic_ne_nil [Platform] {config : Config} (hconfig : config.NeedsTopic)
    {recipient topic : Text} (h : config.topicOf recipient = .ok topic) : topic ≠ [] := by
  intro hempty
  obtain ⟨address, name, -, -, -, hchecked⟩ := Topic.resolve_eq_ok.mp h
  rw [hempty] at hchecked
  exact hconfig hchecked

/-! ## One command -/

namespace Connection

def needRecipient : Answer :=
  .line "503 5.5.1 Error: need RCPT command"

/-- The demand for a recipient answers the error of a missing one, and nothing else. -/
theorem dataAnswer_eq_needRecipient {envelope : Envelope} {result : Except Fault Publication} :
    dataAnswer envelope result = .ok needRecipient ↔
      ∃ e, result = .error (.gateway e) ∧ e.errorClass.isA .noRecipient = true := by
  cases result with
  | ok p =>
    refine iff_of_false ?_ (by rintro ⟨e, h, -⟩; cases h)
    intro h
    have hline := Answer.line.inj (Except.ok.inj h)
    revert hline
    decide
  | error fault =>
    cases fault with
    | gateway e =>
      by_cases hclass : e.errorClass.isA .noRecipient = true
      · refine iff_of_true ?_ ⟨e, rfl, hclass⟩
        rw [dataAnswer, rejection, if_pos hclass]
        rfl
      · refine iff_of_false ?_ (by rintro ⟨_, h, hother⟩; cases h; exact hclass hother)
        rw [dataAnswer, rejection, if_neg hclass, needRecipient]
        split <;> simp
    | field | charset | charsetName | pattern | config | unsupported | external =>
      exact iff_of_false (by rintro ⟨⟩) (by rintro ⟨_, ⟨⟩, -⟩)

/-- A mail is answered with the demand for a recipient exactly if the session is idle. -/
theorem data_needs_recipient [Platform] (connection : Connection) (server : Server) (content : List UInt8) :
    (connection.data server content).result = .ok needRecipient ↔
      connection.session.isIdle = true := by
  obtain ⟨log, hdata⟩ := connection.data_eq server content
  rw [hdata]
  exact dataAnswer_eq_needRecipient.trans (connection.session.data_raises_noRecipient ..)

/-- Whether a result is the answer to an accepted recipient. -/
def isAccepted : Except Fault (Option Answer) → Bool
  | .ok (some (.line text)) => text == ("250 OK" : Text)
  | _ => false

/-- Only an accepted recipient changes the session, and it leaves one that is not idle. -/
theorem RcptEnd.isIdle_eq [Platform] {connection : Connection} {server : Server} {address : Text}
    {options : List Text} {act : Act} (h : RcptEnd connection server address options act)
    (hconfig : server.backend.config.NeedsTopic) :
    act.connection.session.isIdle =
      (connection.session.isIdle && !isAccepted (act.result.map some)) := by
  cases h with
  | repeated hrecipients => exact (Bool.and_true _).symm
  | accepted hrecipients htopic =>
    have hactive : (Session.mk _).isIdle = false :=
      Bool.eq_false_iff.mpr fun h ↦ hconfig.topic_ne_nil htopic (List.isEmpty_iff.mp h)
    exact hactive.trans (Bool.and_false _).symm
  | rejected hrecipients htopic hclass => exact (Bool.and_true _).symm
  | escaped hrecipients htopic hclass => exact (Bool.and_true _).symm

end Connection

/-! ## Runs -/

/-- Whether an event ends the transaction of its connection, or the connection. -/
def Event.endsTransaction : Event → Bool
  | .connect .. | .free _ | .command _ .rset | .command _ .quit | .command _ (.data _) => true
  | .newEnvelope _ | .command _ (.auth _) | .command _ (.mail ..) | .command _ (.rcpt ..) => false

namespace Connections

/-- What decides about the recipient of a connection while a transaction goes on. -/
inductive Mark where
  | login
  | recipient
deriving DecidableEq, Repr

/-- Whether the session of a connection is idle after a mark. -/
def Mark.isIdle : Mark → Bool
  | .login => true
  | .recipient => false

def mark? (name : Text) : Call → Option Mark
  | (.command other (.auth _), _) => if other = name then some .login else none
  | (.command other (.rcpt ..), result) =>
    if other = name ∧ Connection.isAccepted result = true then some .recipient else none
  | _ => none

def marks (name : Text) (calls : List Call) : List Mark :=
  calls.filterMap (mark? name)

theorem marks_cons (name : Text) (call : Call) (calls : List Call) :
    marks name (call :: calls) = (mark? name call).toList ++ marks name calls := by
  unfold marks
  rw [List.filterMap_cons]
  cases mark? name call <;> rfl

def idleAfter (idle : Bool) (marks : List Mark) : Bool :=
  (marks.getLast?.map Mark.isIdle).getD idle

theorem idleAfter_append (idle : Bool) (first second : List Mark) :
    idleAfter idle (first ++ second) = idleAfter (idleAfter idle first) second := by
  unfold idleAfter
  rw [List.getLast?_append]
  cases second.getLast? <;> rfl

theorem mark?_of_ne {name : Text} {call : Call} (h : name ≠ call.1.name) : mark? name call = none := by
  unfold mark?
  split
  · exact if_neg h.symm
  · exact if_neg fun h' ↦ h h'.1.symm
  · rfl

/-- During a transaction a session changes by the mark of a call on its connection. -/
theorem step_isIdle [Platform] {state : Connections} (hconfig : state.server.backend.config.NeedsTopic)
    {event : Event} {name : Text} (hevent : event.name = name → event.endsTransaction = false) :
    ((state.step event).state.get name).session.isIdle =
      idleAfter (state.get name).session.isIdle
        (mark? name (event, (state.step event).result)).toList := by
  rw [get_step]
  by_cases hname : name = event.name
  · rw [if_pos hname]
    have hends := hevent hname.symm
    cases event with
    | connect | free => cases hends
    | newEnvelope other => rfl
    | command other command =>
      obtain rfl : name = other := hname
      cases command with
      | rset | quit | data => cases hends
      | auth credentials =>
        rw [mark?, if_pos rfl]
        rfl
      | mail address options =>
        change ((state.get name).mail state.server address options).connection.session.isIdle = _
        rw [Connection.mail_connection]
        rfl
      | rcpt address options =>
        have hend := (state.get name).rcpt_end state.server address options
        refine (hend.isIdle_eq hconfig).trans ?_
        rw [mark?]
        change (_ && !Connection.isAccepted
          (state.step (.command name (.rcpt address options))).result) = _
        cases Connection.isAccepted (state.step (.command name (.rcpt address options))).result with
        | true => simp [idleAfter, Mark.isIdle]
        | false => simp [idleAfter]
  · rw [if_neg hname, mark?_of_ne hname]
    rfl

/-- A session is idle or not as the marks of its calls say. -/
theorem run_isIdle [Platform] {state : Connections} (hconfig : state.server.backend.config.NeedsTopic)
    {events : List Event} {name : Text}
    (hevents : ∀ event ∈ events, event.name = name → event.endsTransaction = false) :
    ((state.run events).1.get name).session.isIdle =
      idleAfter (state.get name).session.isIdle (marks name (state.calls events)) := by
  induction events generalizing state with
  | nil => rfl
  | cons event events ih =>
    have hstep := step_isIdle hconfig (hevents event List.mem_cons_self)
    have hconfig' : (state.step event).state.server.backend.config.NeedsTopic := by
      rw [step_config]
      exact hconfig
    have hlater := ih hconfig' fun later h ↦ hevents later (List.mem_cons_of_mem event h)
    rw [run_cons_fst, hlater, hstep, calls_cons, marks_cons, idleAfter_append]

/-- After a recipient a session is idle only if the last of the marks is a login. -/
theorem idleAfter_false {marks : List Mark} :
    idleAfter false marks = true ↔ marks.getLast? = some .login := by
  unfold idleAfter
  rcases marks.getLast? with _ | _ | _ <;> decide

/-- An accepted recipient and events that do not end its transaction, on any connections: the next mail
is answered with the demand for a recipient exactly if among the logins and the accepted recipients of
the connection in the meantime the last one is a login.  Without a login a recipient is never lost. -/
theorem data_needs_recipient_iff_login [Platform] {state : Connections} {name address : Text}
    {options : List Text} {since : List Event} (content : List UInt8)
    (hconfig : state.server.backend.config.NeedsTopic)
    (haccepted : (state.step (.command name (.rcpt address options))).result =
      .ok (some (.line "250 OK")))
    (hsince : ∀ event ∈ since, event.name = name → event.endsTransaction = false) :
    let accepted := (state.step (.command name (.rcpt address options))).state
    ((accepted.run since).1.step (.command name (.data content))).result =
        .ok (some (.line "503 5.5.1 Error: need RCPT command")) ↔
      (marks name (accepted.calls since)).getLast? = some .login := by
  intro accepted
  have hactive : (accepted.get name).session.isIdle = false := by
    change ((state.step (.command name (.rcpt address options))).state.get name).session.isIdle = _
    rw [step_isIdle hconfig fun _ ↦ rfl, haccepted, mark?, if_pos ⟨rfl, rfl⟩]
    rfl
  have hconfig' : accepted.server.backend.config.NeedsTopic := by
    rw [step_config]
    exact hconfig
  rw [step_command_answer, ← idleAfter_false, ← hactive, ← run_isIdle hconfig' hsince]
  exact Connection.data_needs_recipient ..

/-- A server with one topic and one open connection. -/
def oneTopic : Connections :=
  ⟨⟨⟨⟨"b", none, 4096, some "x"⟩, .memory .empty, .empty, ⟨[], 0⟩, ⟨0, []⟩⟩, 0, none⟩,
    [("c", .fresh (.address [.text "127.0.0.1", .int 40000]))]⟩

theorem addresses_one : Topic.addresses (some ['x', '@', 'b']) = .ok [['x', '@', 'b']] := by
  have hentry : Mail.Address.entry ['x', '@', 'b'] = ([['x', '@', 'b']], []) := by
    rw [Mail.Address.entry]
    decide +kernel
  have hentries : Mail.Address.entries ['x', '@', 'b'] = [['x', '@', 'b']] := by
    rw [Mail.Address.entries, hentry]
    decide +kernel
  have hlist : Mail.Address.list? ['x', '@', 'b'] = some [['x', '@', 'b']] := by
    unfold Mail.Address.list?
    rw [hentries]
    decide +kernel
  unfold Topic.addresses
  dsimp only
  rw [hlist, if_neg (by decide)]

theorem topicOf_oneTopic [Platform] : oneTopic.server.backend.config.topicOf "x@b" = .ok "x" :=
  Topic.resolve_eq_ok.mpr ⟨_, "x", addresses_one, rfl, rfl, rfl⟩

theorem oneTopic_needsTopic [Platform] : oneTopic.server.backend.config.NeedsTopic := by
  intro h
  cases h

theorem oneTopic_accepts [Platform] :
    (oneTopic.step (.command "c" (.rcpt "x@b" []))).result = .ok (some (.line "250 OK")) :=
  (step_command_answer ..).mpr
    ((Connection.rcpt_end ..).result_of_ok rfl topicOf_oneTopic)

section Bare

attribute [local instance] Platform.bare

/-- A client that logs in after its recipient was accepted has to name the recipient again. -/
theorem login_forgets_recipient :
    oneTopic.server.backend.config.NeedsTopic ∧
      (oneTopic.run [.command "c" (.rcpt "x@b" []), .command "c" (.auth none),
          .command "c" (.data [])]).2 =
        [.ok (some (.line "250 OK")), .ok (some .accepted),
          .ok (some (.line "503 5.5.1 Error: need RCPT command"))] := by
  refine ⟨oneTopic_needsTopic, ?_⟩
  let accepted := (oneTopic.step (.command "c" (.rcpt "x@b" []))).state
  let reopened := (accepted.step (.command "c" (.auth none))).state
  have hidle : (reopened.get "c").session.isIdle = true :=
    congrArg (·.session.isIdle) (get_step_self accepted (.command "c" (.auth none)))
  have hdata : (reopened.step (.command "c" (.data []))).result =
      .ok (some Connection.needRecipient) :=
    (step_command_answer ..).mpr ((Connection.data_needs_recipient ..).mpr hidle)
  change [_, _, (reopened.step (.command "c" (.data []))).result] = _
  rw [oneTopic_accepts, hdata]
  rfl

/-- A login on another connection is none of its business. -/
theorem other_login_keeps_recipient :
    let accepted := (oneTopic.step (.command "c" (.rcpt "x@b" []))).state
    ((accepted.run [.command "d" (.auth none)]).1.step (.command "c" (.data []))).result ≠
      .ok (some (.line "503 5.5.1 Error: need RCPT command")) := by
  intro accepted h
  have hmarks := (data_needs_recipient_iff_login [] oneTopic_needsTopic oneTopic_accepts
    (by simp [Event.endsTransaction])).mp h
  cases hmarks

end Bare

end Connections

end MailGateway
