import MailGateway.Backend
import MailGateway.Named

/-!
# Connections

A connection speaks the mail protocol and is bound to a session of the backend from its first command
on.  The envelope collects what the client said in one transaction; it belongs to the engine of the
protocol and may be replaced at any time.  Every binding has a session identifier, under which the
log entries of the connection are written.
-/

namespace MailGateway

/-- What the client said in one transaction. -/
structure Envelope where
  sender : Option Text
  mailOptions : List Text
  recipients : List Text
  recipientOptions : List Text
deriving DecidableEq, Repr

def Envelope.empty : Envelope := ⟨none, [], [], []⟩

inductive Peer where
  | address (parts : List Value)
  | other (value : Value)
deriving Repr

def Peer.shown : Peer → Text
  | .address [part] => '(' :: part.shown ++ ",)"
  | .address parts => '(' :: Text.join ", " (parts.map Value.shown) ++ [')']
  | .other value => value.plain

structure Binding where
  session : Session
  id : Text
deriving DecidableEq, Repr

/-- A connection: its other end, its envelope, the session that it is bound to, and how often it was
bound while it had no session. -/
structure Connection where
  peer : Peer
  envelope : Envelope
  binding : Option Binding
  openings : Nat
deriving Repr

def Connection.fresh (peer : Peer) : Connection :=
  ⟨peer, Envelope.empty, none, 0⟩

/-- What connections share: the backend, the number of session identifiers in use, and the
identifier that log entries are written under. -/
structure Server where
  backend : Backend
  issued : Nat
  current : Option Text
deriving Repr

namespace Server

def sessionId (n : Nat) : Text :=
  Text.hex 12 n

def addSessions (server : Server) (change : Int) : Server :=
  let tally := server.backend.tally
  { server with backend :=
      { server.backend with
        tally := { tally with metrics := tally.metrics.addSessions change } } }

end Server

/-- A mail as the engine of the protocol hands it over: its bytes, or its text, in which the engine has
kept bytes that are not UTF-8. -/
inductive Submission where
  | bytes (mail : List UInt8)
  | text (mail : List Symbol)
deriving DecidableEq, Repr

def Submission.toBytes : Submission → List UInt8
  | .bytes mail => mail
  | .text mail => mail.flatMap Symbol.bytes

/-- What a client says, or what happens to a connection. -/
inductive Command where
  | auth (credentials : Option (List UInt8 × List UInt8))
  | mail (address : Text) (options : List Text)
  | rcpt (address : Text) (options : List Text)
  | data (content : List UInt8)
  | rset
  | quit
deriving DecidableEq, Repr

def Command.ofSubmission (submission : Submission) : Command :=
  .data submission.toBytes

inductive Answer where
  | line (text : Text)
  | accepted
deriving DecidableEq, Repr

namespace Connection

structure Act where
  server : Server
  connection : Connection
  log : List Log.Line
  result : Except Fault Answer

def entry (level : Log.Level) (message : Text) : Log.Entry :=
  ⟨level, .connection, message⟩

/-- Bind a connection to a session under a new identifier. -/
def bind (server : Server) (connection : Connection) (session : Session) :
    Server × Connection × Binding × List Log.Line :=
  let isNew := connection.binding.isNone
  let server := if isNew then server.addSessions 1 else server
  let binding : Binding := ⟨session, Server.sessionId (server.issued + 1)⟩
  let openings := if isNew then connection.openings + 1 else connection.openings
  ({ server with issued := server.issued + 1, current := some binding.id },
    { connection with binding := some binding, openings := openings },
    binding,
    Log.under (some binding.id)
      [entry .info ("SMTP session started (peer=" ++ connection.peer.shown ++ ")")])

/-- The session of a connection, bound now if it has none.  Its identifier becomes current. -/
def bound (server : Server) (connection : Connection) :
    Server × Connection × Binding × List Log.Line :=
  match connection.binding with
  | some binding => ({ server with current := some binding.id }, connection, binding, [])
  | none => bind server connection Session.idle

/-- Accept a login.  Nothing is checked; the session of the connection starts anew. -/
def auth (connection : Connection) (server : Server)
    (credentials : Option (List UInt8 × List UInt8)) : Act :=
  let user := match credentials with
    | some (login, _) => Charset.lossy .utf8 login
    | none => []
  let login := Log.under server.current [Backend.loginEntry user]
  let (server, connection, _, log) := bind server connection Session.idle
  ⟨server, connection, login ++ log, .ok .accepted⟩

def mail (connection : Connection) (server : Server) (address : Text) (options : List Text) : Act :=
  let (server, connection, _, log) := bound server connection
  let envelope := connection.envelope
  let envelope := { envelope with
    sender := some address, mailOptions := envelope.mailOptions ++ options }
  ⟨server, { connection with envelope := envelope }, log, .ok (.line "250 OK")⟩

def refusal (message : Text) : Text :=
  "550 5.1.1 Recipient rejected: " ++ message

variable [Platform]

/-- Accept a recipient, one in a transaction. -/
def rcpt (connection : Connection) (server : Server) (address : Text) (options : List Text) : Act :=
  let (server, connection, binding, log) := bound server connection
  let envelope := connection.envelope
  if !envelope.recipients.isEmpty then
    ⟨server, connection,
      log ++ Log.under server.current
        [entry .warning ("Rejecting additional recipient " ++ address)],
      .ok (.line "452 4.5.3 Too many recipients")⟩
  else
    let step := binding.session.rcpt server.backend address
    let server := { server with backend := step.backend }
    let connection := { connection with binding := some { binding with session := step.session } }
    let log := log ++ Log.under server.current step.log
    match step.result with
    | .ok topic =>
      let envelope := { envelope with
        recipients := envelope.recipients ++ [address],
        recipientOptions := envelope.recipientOptions ++ options }
      ⟨server, { connection with envelope := envelope },
        log ++ Log.under server.current
          [entry .info ("Recipient " ++ address ++ " accepted for topic " ++ topic)],
        .ok (.line "250 OK")⟩
    | .error fault =>
      match fault with
      | .gateway e =>
        if e.errorClass.isA .recipient then
          ⟨server, connection,
            log ++ Log.under server.current
              [entry .warning ("Recipient " ++ address ++ " rejected: " ++ e.message)],
            .ok (.line (refusal e.message))⟩
        else ⟨server, connection, log, .error fault⟩
      | _ => ⟨server, connection, log, .error fault⟩

def senderText (envelope : Envelope) : Text :=
  envelope.sender.getD "None"

/-- The answer to a mail that was not published, and its log entry. -/
def rejection (envelope : Envelope) (e : GatewayError) : Log.Entry × Text :=
  if e.errorClass.isA .noRecipient then
    (entry .warning ("DATA rejected: " ++ e.message), "503 5.5.1 Error: need RCPT command")
  else if e.errorClass.isA .publish then
    (entry .error ("Publishing failed: " ++ e.message), "451 4.3.0 Error: " ++ e.message)
  else
    (entry .warning ("Message from " ++ senderText envelope ++ " rejected: " ++ e.message),
      "554 5.6.0 Message rejected: " ++ e.message)

def data (connection : Connection) (server : Server) (content : List UInt8) : Act :=
  let (server, connection, binding, log) := bound server connection
  let envelope := connection.envelope
  let step := binding.session.data server.backend content
  let server := { server with backend := step.backend }
  let connection := { connection with binding := some { binding with session := step.session } }
  let log := log ++ Log.under server.current step.log
  match step.result with
  | .ok p =>
    ⟨server, connection,
      log ++ Log.under server.current
        [entry .info ("Received mail: from=" ++ senderText envelope ++ ", topic=" ++ p.topic ++
          ", id=" ++ p.id ++ ", size=" ++ Text.ofNat content.length ++ " bytes")],
      .ok (.line "250 Message accepted for delivery")⟩
  | .error (.gateway e) =>
    let (rejected, line) := rejection envelope e
    ⟨server, connection, log ++ Log.under server.current [rejected], .ok (.line line)⟩
  | .error fault => ⟨server, connection, log, .error fault⟩

def rset (connection : Connection) (server : Server) : Act :=
  let (server, connection, binding, log) := bound server connection
  let binding := { binding with session := binding.session.reset }
  ⟨server, { connection with binding := some binding }, log, .ok (.line "250 OK")⟩

/-- End the session.  The identifier that is current stays so. -/
def quit (connection : Connection) (server : Server) : Act :=
  ⟨server, { connection with binding := none },
    Log.under server.current [entry .info "SMTP session closed"], .ok (.line "221 Bye")⟩

def act (connection : Connection) (server : Server) : Command → Act
  | .auth credentials => connection.auth server credentials
  | .mail address options => connection.mail server address options
  | .rcpt address options => connection.rcpt server address options
  | .data content => connection.data server content
  | .rset => connection.rset server
  | .quit => connection.quit server

end Connection

structure Connections where
  server : Server
  named : List (Text × Connection)
deriving Repr

inductive Event where
  | connect (connection : Text) (peer : Peer)
  | newEnvelope (connection : Text)
  | free (connection : Text)
  | command (connection : Text) (command : Command)
deriving Repr

namespace Connections

/-- What came of an event: the state, the log, and the answer if the event asks for one. -/
structure Outcome where
  state : Connections
  log : List Log.Line
  result : Except Fault (Option Answer)

/-- Forget a connection.  Its openings no longer count as open sessions. -/
def free (state : Connections) (name : Text) : Connections :=
  match Named.get? name state.named with
  | none => state
  | some connection =>
    ⟨state.server.addSessions (-(connection.openings : Int)), Named.drop name state.named⟩

/-- The connection of a name.  A name that was never used stands for a connection without an
address. -/
def get (state : Connections) (name : Text) : Connection :=
  (Named.get? name state.named).getD (Connection.fresh (.other .null))

variable [Platform]

def step (state : Connections) : Event → Outcome
  | .connect name peer =>
    let state := state.free name
    ⟨{ state with named := Named.put name (Connection.fresh peer) state.named }, [], .ok none⟩
  | .newEnvelope name =>
    let connection := { state.get name with envelope := Envelope.empty }
    ⟨{ state with named := Named.put name connection state.named }, [], .ok none⟩
  | .free name => ⟨state.free name, [], .ok none⟩
  | .command name command =>
    let act := (state.get name).act state.server command
    ⟨⟨act.server, Named.put name act.connection state.named⟩, act.log, act.result.map some⟩

def run (state : Connections) : List Event → Connections × List (Except Fault (Option Answer))
  | [] => (state, [])
  | event :: events =>
    let outcome := state.step event
    let (final, results) := run outcome.state events
    (final, outcome.result :: results)

end Connections

end MailGateway
