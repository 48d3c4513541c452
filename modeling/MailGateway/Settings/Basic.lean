import MailGateway.Settings.EnvFile
import MailGateway.Settings.Field

/-!
# Settings

The settings of the gateway.  Each comes from the program, from the environment or from a file, in
this order, or has a default.  Reading reports every setting that is wrong, in the order of the
settings.
-/

namespace MailGateway

structure Settings where
  smtpHost : Text
  smtpPort : Int
  domain : Text
  addressStart : Text
  maxMailBytes : Int
  messageLimit : Int
  topicPattern : Text
  publisher : Settings.PublisherKind
  busUrl : Text
  channelStart : Text
  httpHost : Text
  httpPort : Int
  logLevel : Text
  logJson : Bool
deriving DecidableEq, Repr

namespace Settings

structure FieldError where
  field : Text
  problem : Problem
deriving DecidableEq, Repr

/-- Why settings cannot be read: settings that are wrong, or a pattern that ended the reading. -/
inductive Error where
  | invalid (errors : List FieldError)
  | pattern (e : Pattern.Error)
deriving DecidableEq, Repr

structure Sources where
  given : List (Text × Value)
  environment : List (Text × Text)
  file : List EnvFile.Binding
deriving Repr

/-- The value of a setting, if a source has one. -/
def Sources.find? (sources : Sources) (name : Text) : Option Value :=
  match sources.given.lookup name with
  | some value => some value
  | none =>
    match sources.environment.lookup name with
    | some text => some (.text text)
    | none => (EnvFile.lookup name sources.file).join.map .text

structure Gathered (α : Type) where
  result : Except (List FieldError) α

/-- Apply a function to one more argument and gather the errors of both. -/
def Gathered.with {α β : Type} (f : Gathered (α → β)) (x : Gathered α) : Gathered β :=
  match f.result, x.result with
  | .ok f, .ok a => ⟨.ok (f a)⟩
  | .ok _, .error errors => ⟨.error errors⟩
  | .error errors, .ok _ => ⟨.error errors⟩
  | .error errors, .error more => ⟨.error (errors ++ more)⟩

/-- Read a setting, or take its default. -/
def Sources.field {α : Type} (sources : Sources) (name : String)
    (read : Value → Except Problem α) (default : α) : Gathered α :=
  match sources.find? name.toList with
  | none => ⟨.ok default⟩
  | some value => ⟨(read value).mapError fun problem ↦ [⟨name.toList, problem⟩]⟩

/-- The pattern that ends the reading of settings: one with a count that is too large. -/
def FieldError.fatal? (error : FieldError) : Option Pattern.Error :=
  match error.problem with
  | .pattern .countTooLarge => some .countTooLarge
  | _ => none

def Error.ofErrors (errors : List FieldError) : Error :=
  match errors.findSome? FieldError.fatal? with
  | some e => .pattern e
  | none => .invalid errors

variable [Platform]

def gather (sources : Sources) : Gathered Settings :=
  (⟨.ok Settings.mk⟩ : Gathered _)
  |>.with (sources.field "SMTP_SERVER_HOST" readText "0.0.0.0")
  |>.with (sources.field "SMTP_SERVER_PORT" readInteger 2525)
  |>.with (sources.field "SMTP_SERVER_DOMAIN" readDomain "localhost")
  |>.with (sources.field "SMTP_SERVER_ADDR_PREFIX" readText [])
  |>.with (sources.field "SMTP_MAX_MESSAGE_BYTES" readPositive 1048576)
  |>.with (sources.field "MESSAGE_LIMIT" readPositive Config.defaultLimit)
  |>.with (sources.field "TOPIC_PATTERN" readPattern Topic.defaultPattern)
  |>.with (sources.field "PUBLISHER" readPublisher .bus)
  |>.with (sources.field "REDIS_URL" readText "redis://localhost:6379/0")
  |>.with (sources.field "PUBLISH_CHANNEL_PREFIX" readText Publisher.Bus.defaultChannelStart)
  |>.with (sources.field "HTTP_HOST" readText "0.0.0.0")
  |>.with (sources.field "HTTP_PORT" readInteger 8080)
  |>.with (sources.field "LOG_LEVEL" readText "INFO")
  |>.with (sources.field "LOG_JSON" readSwitch true)

def read (sources : Sources) : Except Error Settings :=
  (gather sources).result.mapError Error.ofErrors

def names : List Text :=
  ["SMTP_SERVER_HOST", "SMTP_SERVER_PORT", "SMTP_SERVER_DOMAIN", "SMTP_SERVER_ADDR_PREFIX",
    "SMTP_MAX_MESSAGE_BYTES", "MESSAGE_LIMIT", "TOPIC_PATTERN", "PUBLISHER", "REDIS_URL",
    "PUBLISH_CHANNEL_PREFIX", "HTTP_HOST", "HTTP_PORT", "LOG_LEVEL", "LOG_JSON"].map String.toList

def values (s : Settings) : List Value :=
  [.text s.smtpHost, .int s.smtpPort, .text s.domain, .text s.addressStart, .int s.maxMailBytes,
    .int s.messageLimit, .text s.topicPattern, .text s.publisher.name, .text s.busUrl,
    .text s.channelStart, .text s.httpHost, .int s.httpPort, .text s.logLevel, .bool s.logJson]

def fields (s : Settings) : List (Text × Value) :=
  names.zip s.values

def config (s : Settings) : Config :=
  ⟨s.domain, some s.addressStart, s.messageLimit, some s.topicPattern⟩

/-- What is known of settings between two requests for them. -/
abbrev Cache := Option Settings

/-- The settings, read unless they are known.  Errors are forgotten. -/
def Cache.get (cache : Cache) (sources : Sources) : Cache × Except Error Settings :=
  match cache with
  | some settings => (cache, .ok settings)
  | none =>
    match read sources with
    | .ok settings => (some settings, .ok settings)
    | .error e => (none, .error e)

end Settings

end MailGateway
