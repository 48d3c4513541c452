import MailGateway.Assembly
import MailGateway.Delivery
import MailGateway.Publisher.Basic
import MailGateway.Topic

/-!
# The backend and its sessions

A session accepts a recipient and then a mail for it.  The topic of the recipient is all that a
session remembers; the mail uses it up, whatever comes of the mail.  Every mail that was published,
and every recipient or mail that was refused, is counted once.
-/

namespace MailGateway

structure Config where
  domain : Text
  addressStart : Option Text
  messageLimit : Int
  topicPattern : Option Text
deriving DecidableEq, Repr

namespace Config

/-- The limit of messages unless another one is configured. -/
def defaultLimit : Int := 4096

/-- What it means for the settings that a pattern cannot be read. -/
def ofPatternError (e : Pattern.Error) : ConfigError :=
  match e with
  | .malformed .. => .invalidPattern e
  | _ => .unreadablePattern e

variable [Platform]

def patternError? (pattern : Text) : Option ConfigError :=
  match Pattern.read pattern with
  | .ok _ => none
  | .error e => some (ofPatternError e)

/-- The settings, if a backend can work with them. -/
def checked (config : Config) : Except ConfigError Config :=
  if config.domain.isEmpty then .error .emptyDomain
  else if config.messageLimit ≤ 0 then .error .limitNotPositive
  else match config.topicPattern.bind patternError? with
    | some e => .error e
    | none => .ok config

end Config

/-- What time it is: the time of publications, and the successive times of a stopwatch. -/
structure Clock where
  now : Int
  ticks : List Binary64
deriving DecidableEq, Repr

/-- A backend: its settings, its publisher and the counts, which all its sessions share. -/
structure Backend where
  config : Config
  publisher : Publisher
  tally : Delivery.Tally
  ids : IdSource
  clock : Clock
deriving Repr

namespace Backend

def record (backend : Backend) (outcome : Delivery.Outcome) : Backend :=
  { backend with tally := backend.tally.record outcome }

def loginEntry (user : Text) : Log.Entry :=
  ⟨.debug, .session, "Login accepted for user " ++ user.quoted⟩

def noticeEntry : Mail.Notice → Log.Entry
  | .skippedPart index mediaType =>
    ⟨.debug, .body, "Skipping part " ++ Text.ofNat index ++ " of type " ++ mediaType⟩
  | .unknownCharset name =>
    ⟨.warning, .body, "Unknown charset " ++ name.quoted ++ ", decoding body as UTF-8"⟩

end Backend

/-- A session: the topic of the accepted recipient, empty if there is none. -/
structure Session where
  topic : Text
deriving DecidableEq, Repr

namespace Session

def idle : Session := ⟨[]⟩

def isIdle (session : Session) : Bool :=
  session.topic.isEmpty

def stateName (session : Session) : Text :=
  if session.isIdle then "IDLE" else "RECIPIENT_ACCEPTED"

structure Step (α : Type) where
  backend : Backend
  session : Session
  log : List Log.Entry
  result : Except Fault α

variable [Platform]

/-- Accept a recipient.  A refused one leaves the session as it was. -/
def rcpt (session : Session) (backend : Backend) (recipient : Text) : Step Text :=
  let config := backend.config
  match Topic.resolve (some recipient) config.domain config.addressStart config.topicPattern with
  | .ok topic => ⟨backend, ⟨topic⟩, [], .ok topic⟩
  | .error fault => ⟨backend.record .failure, session, [], .error fault⟩

/-- The fault of a publisher as an error of publishing. -/
def publishFault (topic : Text) (fault : Fault) : Fault :=
  match fault with
  | .gateway e =>
    if e.errorClass.isA .publish then .gateway e else .gateway (.publisherFailed topic e.message)
  | _ => .gateway (.publisherFailed topic fault.message)

def data (session : Session) (backend : Backend) (mail : List UInt8) : Step Publication :=
  if session.isIdle then
    ⟨backend.record .failure, session, [], .error (.gateway .noRecipient)⟩
  else
    let assembled := Publication.assemble backend.ids backend.clock.now session.topic
      backend.config.messageLimit mail
    let backend := { backend with ids := assembled.ids }
    let log := assembled.notices.map Backend.noticeEntry
    match assembled.result with
    | .error fault => ⟨backend.record .failure, idle, log, .error fault⟩
    | .ok publication =>
      let handover := backend.publisher.publish publication
      let backend := { backend with publisher := handover.publisher }
      match handover.result with
      | .ok () => ⟨backend.record .success, idle, log ++ handover.log, .ok publication⟩
      | .error fault =>
        ⟨backend.record .failure, idle, log ++ handover.log,
          .error (publishFault publication.topic fault)⟩

def reset (_ : Session) : Session := idle

end Session

end MailGateway
