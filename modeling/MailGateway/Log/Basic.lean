import MailGateway.Text.Basic

/-!
# Log entries

What the gateway reports while it works.  An entry has a level, the logger that it belongs to and a
message; it is written under the session identifier that is current at that moment.
-/

namespace MailGateway.Log

inductive Level where
  | debug
  | info
  | warning
  | error
  | critical
deriving DecidableEq, Repr

def Level.rank : Level → Int
  | .debug => 10
  | .info => 20
  | .warning => 30
  | .error => 40
  | .critical => 50

def Level.name : Level → Text
  | .debug => "DEBUG"
  | .info => "INFO"
  | .warning => "WARNING"
  | .error => "ERROR"
  | .critical => "CRITICAL"

/-- The part of the gateway that an entry comes from. -/
inductive Logger where
  | connection
  | session
  | body
  | memoryPublisher
  | busPublisher
  | health
  | service
  | startup
deriving DecidableEq, Repr

def Logger.name : Logger → Text
  | .connection => "infrastructure.ingest.smtp_handler"
  | .session => "infrastructure.ingest.smtp_session"
  | .body => "infrastructure.ingest.mime_parser"
  | .memoryPublisher => "infrastructure.publishing.memory_publisher"
  | .busPublisher => "infrastructure.publishing.redis_publisher"
  | .health => "observability.health"
  | .service => "main"
  | .startup => "start_smtp_server"

structure Entry where
  level : Level
  logger : Logger
  message : Text
deriving DecidableEq, Repr

/-- A log entry under the session identifier that was current. -/
structure Line where
  session : Option Text
  entry : Entry
deriving DecidableEq, Repr

def under (session : Option Text) (entries : List Entry) : List Line :=
  entries.map (⟨session, ·⟩)

def sessionName (session : Option Text) : Text :=
  match session with
  | none | some [] => "no-session-id"
  | some id => id

end MailGateway.Log
