import MailGateway.Connection
import MailGateway.Proofs.Session

/-!
# The commands of a connection

Every command but the login and the end works on the session that the connection is bound to, and
binds it to an idle one first if it has none.  `opened` and `proceed` are the server and the
connection after this, and the lemmas below say for each command what it leaves: which session, which
envelope, which backend and which answer.
-/

namespace MailGateway

namespace Server

@[simp]
theorem addSessions_config (server : Server) (change : Int) :
    (server.addSessions change).backend.config = server.backend.config := rfl

@[simp]
theorem addSessions_publisher (server : Server) (change : Int) :
    (server.addSessions change).backend.publisher = server.backend.publisher := rfl

end Server

namespace Connection

/-- The session of a connection.  An unbound one will be bound to an idle session. -/
def session (connection : Connection) : Session :=
  (connection.binding.map Binding.session).getD .idle

/-- The server after a connection was bound on demand. -/
def opened (connection : Connection) (server : Server) : Server :=
  (bound server connection).1

/-- A connection, bound on demand, whose session went on to another state. -/
def proceed (connection : Connection) (server : Server) (session : Session) : Connection :=
  { (bound server connection).2.1 with
    binding := some { (bound server connection).2.2.1 with session := session } }

/-! ## Binding on demand -/

theorem bound_binding (server : Server) (connection : Connection) :
    (bound server connection).2.1.binding = some (bound server connection).2.2.1 := by
  unfold bound
  split
  · next binding h => exact h
  · rfl

theorem bound_session (server : Server) (connection : Connection) :
    (bound server connection).2.2.1.session = connection.session := by
  unfold bound session
  split
  · next binding h => rw [h]; rfl
  · next h => rw [h]; rfl

theorem bound_envelope (server : Server) (connection : Connection) :
    (bound server connection).2.1.envelope = connection.envelope := by
  unfold bound
  split <;> rfl

theorem bind_backend (server : Server) (connection : Connection) (session : Session) :
    (bind server connection session).1.backend =
      (server.addSessions (if connection.binding.isNone then 1 else 0)).backend := by
  unfold bind
  cases connection.binding with
  | none => rfl
  | some binding =>
    simp only [Server.addSessions, Delivery.Metrics.addSessions, Option.isNone_some,
      Bool.false_eq_true, if_false, Int.add_zero]

/-- Opening counts a session if there was none, and changes nothing else of the backend. -/
theorem opened_backend (connection : Connection) (server : Server) :
    (connection.opened server).backend =
      (server.addSessions (if connection.binding.isNone then 1 else 0)).backend := by
  cases h : connection.binding with
  | none =>
    have hbound : connection.opened server = (bind server connection .idle).1 := by
      simp only [opened, bound, h]
    rw [hbound, bind_backend, h]
  | some binding =>
    simp only [opened, bound, h, Server.addSessions, Delivery.Metrics.addSessions,
      Option.isNone_some, Bool.false_eq_true, if_false, Int.add_zero]

@[simp]
theorem opened_config (connection : Connection) (server : Server) :
    (connection.opened server).backend.config = server.backend.config := by
  rw [opened_backend, Server.addSessions_config]

@[simp]
theorem opened_publisher (connection : Connection) (server : Server) :
    (connection.opened server).backend.publisher = server.backend.publisher := by
  rw [opened_backend, Server.addSessions_publisher]

@[simp]
theorem proceed_envelope (connection : Connection) (server : Server) (session : Session) :
    (connection.proceed server session).envelope = connection.envelope :=
  bound_envelope server connection

/-- A connection that is bound on demand and whose session stays as it is. -/
theorem bound_connection (server : Server) (connection : Connection) :
    (bound server connection).2.1 = connection.proceed server connection.session := by
  unfold proceed
  rw [← bound_session server connection]
  have hbinding := bound_binding server connection
  cases hnext : (bound server connection).2.1 with
  | mk peer envelope binding openings =>
    rw [hnext] at hbinding
    exact congrArg (Connection.mk peer envelope · openings) hbinding

/-! ## Commands -/

/-- A login counts a session if there was none, and changes nothing else of the backend. -/
theorem auth_backend (connection : Connection) (server : Server)
    (credentials : Option (List UInt8 × List UInt8)) :
    (connection.auth server credentials).server.backend =
      (server.addSessions (if connection.binding.isNone then 1 else 0)).backend :=
  bind_backend server connection .idle

/-- A sender is noted in the envelope, and the session stays as it is. -/
theorem mail_connection (connection : Connection) (server : Server) (address : Text)
    (options : List Text) :
    (connection.mail server address options).connection =
      { connection.proceed server connection.session with
        envelope := { connection.envelope with
          sender := some address
          mailOptions := connection.envelope.mailOptions ++ options } } := by
  rw [← bound_connection, ← bound_envelope server connection]
  rfl

variable [Platform]

/-- The ends of a recipient.  What is logged is left open. -/
inductive RcptEnd (connection : Connection) (server : Server) (address : Text)
    (options : List Text) : Act → Prop
  | repeated (hrecipients : connection.envelope.recipients ≠ []) {log : List Log.Line} :
      RcptEnd connection server address options
        ⟨connection.opened server, connection.proceed server connection.session, log,
          .ok (.line "452 4.5.3 Too many recipients")⟩
  | accepted (hrecipients : connection.envelope.recipients = []) {topic : Text}
      (htopic : server.backend.config.topicOf address = .ok topic) {log : List Log.Line} :
      RcptEnd connection server address options
        ⟨connection.opened server,
          { connection.proceed server ⟨topic⟩ with
            envelope := { connection.envelope with
              recipients := [address]
              recipientOptions := connection.envelope.recipientOptions ++ options } },
          log, .ok (.line "250 OK")⟩
  | rejected (hrecipients : connection.envelope.recipients = []) {e : GatewayError}
      (htopic : server.backend.config.topicOf address = .error (.gateway e))
      (hclass : e.errorClass.isA .recipient = true) {log : List Log.Line} :
      RcptEnd connection server address options
        ⟨{ connection.opened server with
            backend := (connection.opened server).backend.record .failure },
          connection.proceed server connection.session, log, .ok (.line (refusal e.message))⟩
  | escaped (hrecipients : connection.envelope.recipients = []) {fault : Fault}
      (htopic : server.backend.config.topicOf address = .error fault)
      (hclass : ∀ e, fault = .gateway e → e.errorClass.isA .recipient = false)
      {log : List Log.Line} :
      RcptEnd connection server address options
        ⟨{ connection.opened server with
            backend := (connection.opened server).backend.record .failure },
          connection.proceed server connection.session, log, .error fault⟩

/-- Every recipient comes to one of the ends. -/
theorem rcpt_end (connection : Connection) (server : Server) (address : Text)
    (options : List Text) :
    RcptEnd connection server address options (connection.rcpt server address options) := by
  have hsession := bound_session server connection
  have henvelope := bound_envelope server connection
  have hconnection := bound_connection server connection
  have hopened : connection.opened server = (bound server connection).1 := rfl
  have hproceed : ∀ session, connection.proceed server session =
      { (bound server connection).2.1 with
        binding := some { (bound server connection).2.2.1 with session := session } } :=
    fun _ ↦ rfl
  have hconfig := opened_config connection server
  unfold rcpt
  rcases hbound : bound server connection with ⟨server', connection', binding, log⟩
  simp only [hbound] at hsession henvelope hconnection hopened hproceed ⊢
  simp only [henvelope] at hproceed
  rw [henvelope, hsession, ← hopened]
  cases hrecipients : connection.envelope.recipients with
  | cons first rest =>
    rw [List.isEmpty_cons, if_pos (Bool.not_false), hconnection]
    exact .repeated (hrecipients ▸ List.cons_ne_nil first rest)
  | nil =>
    rw [List.isEmpty_nil, if_neg (Bool.eq_false_iff.mp Bool.not_true)]
    cases htopic : server.backend.config.topicOf address with
    | ok topic =>
      rw [Session.rcpt_of_ok (hconfig ▸ htopic)]
      have hend := @RcptEnd.accepted _ connection server address options hrecipients topic htopic
      rw [hproceed] at hend
      exact hend
    | error fault =>
      rw [Session.rcpt_of_error (hconfig ▸ htopic)]
      dsimp only
      rw [← hproceed]
      split
      · next e =>
        split
        · next hclass => exact .rejected hrecipients htopic hclass
        · next hclass =>
          rw [Bool.not_eq_true] at hclass
          exact .escaped hrecipients htopic fun _ he ↦ by cases he; exact hclass
      · next hother => exact .escaped hrecipients htopic fun e he ↦ (hother e he).elim

namespace RcptEnd

variable {connection : Connection} {server : Server} {address : Text} {options : List Text}
variable {act : Act}

theorem config_eq (h : RcptEnd connection server address options act) :
    act.server.backend.config = server.backend.config := by
  cases h with
  | repeated | accepted | rejected | escaped => exact opened_config connection server

/-- The first recipient of a transaction is accepted if it stands for a topic. -/
theorem result_of_ok (h : RcptEnd connection server address options act)
    (hrecipients : connection.envelope.recipients = []) {topic : Text}
    (htopic : server.backend.config.topicOf address = .ok topic) :
    act.result = .ok (.line "250 OK") := by
  cases h with
  | repeated hother => exact (hother hrecipients).elim
  | accepted => rfl
  | rejected _ hother | escaped _ hother =>
    rw [htopic] at hother
    cases hother

/-- The session then has this topic. -/
theorem session_of_ok (h : RcptEnd connection server address options act)
    (hrecipients : connection.envelope.recipients = []) {topic : Text}
    (htopic : server.backend.config.topicOf address = .ok topic) :
    act.connection.session = ⟨topic⟩ := by
  cases h with
  | repeated hother => exact (hother hrecipients).elim
  | accepted _ hother =>
    cases htopic.symm.trans hother
    rfl
  | rejected _ hother | escaped _ hother => cases htopic.symm.trans hother

end RcptEnd

def dataAnswer (envelope : Envelope) : Except Fault Publication → Except Fault Answer
  | .ok _ => .ok (.line "250 Message accepted for delivery")
  | .error (.gateway e) => .ok (.line (rejection envelope e).2)
  | .error fault => .error fault

/-- A mail is one step of the session, whose result is put into words. -/
theorem data_eq (connection : Connection) (server : Server) (content : List UInt8) :
    let step := connection.session.data (connection.opened server).backend content
    ∃ log, connection.data server content =
      ⟨{ connection.opened server with backend := step.backend },
        connection.proceed server step.session, log,
        dataAnswer connection.envelope step.result⟩ := by
  have hsession := bound_session server connection
  have henvelope := bound_envelope server connection
  unfold data opened proceed
  rcases hbound : bound server connection with ⟨server', connection', binding, log⟩
  simp only [hbound] at hsession henvelope ⊢
  rw [henvelope, hsession]
  split
  · next p hresult =>
    rw [hresult]
    exact ⟨_, rfl⟩
  · next e hresult =>
    rw [hresult]
    exact ⟨_, rfl⟩
  · next fault hother hresult =>
    rw [hresult]
    cases fault with
    | gateway e => exact (hother e rfl).elim
    | _ => exact ⟨_, rfl⟩

/-- A mail comes to one of the ends that it has for the session. -/
theorem data_end (connection : Connection) (server : Server) (content : List UInt8) :
    ∃ step log, connection.session.DataEnd (connection.opened server).backend content step ∧
      connection.data server content =
        ⟨{ connection.opened server with backend := step.backend },
          connection.proceed server step.session, log,
          dataAnswer connection.envelope step.result⟩ := by
  obtain ⟨log, hdata⟩ := connection.data_eq server content
  exact ⟨_, log, connection.session.data_end (connection.opened server).backend content, hdata⟩

/-- No command changes the settings. -/
theorem act_config (connection : Connection) (server : Server) (command : Command) :
    (connection.act server command).server.backend.config = server.backend.config := by
  cases command with
  | auth credentials =>
    change (connection.auth server credentials).server.backend.config = server.backend.config
    rw [auth_backend, Server.addSessions_config]
  | mail | rset => exact opened_config connection server
  | rcpt address options => exact (connection.rcpt_end server address options).config_eq
  | data content =>
    obtain ⟨step, log, hend, hdata⟩ := connection.data_end server content
    change (connection.data server content).server.backend.config = server.backend.config
    rw [hdata]
    exact hend.config_eq.trans (opened_config connection server)
  | quit => rfl

end Connection

end MailGateway
