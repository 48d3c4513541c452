import MailGateway.Mail.Parameter
import MailGateway.Pattern.Problem

/-!
# Errors

The gateway's own errors form a hierarchy of classes: what concerns a recipient, what concerns the
body of a message, and a few more.  `GatewayError` lists the causes with their wording and their
class.  A `Fault` is anything that ends an operation: an error of the gateway, or one that the
gateway does not handle.
-/

namespace MailGateway

/-- The classes of the gateway's errors. -/
inductive ErrorClass where
  | gateway
  | recipient
  | addressParse
  | tooManyRecipients
  | invalidDomain
  | invalidAddress
  | invalidTopic
  | noRecipient
  | extraction
  | contentTypeParse
  | unsupportedContentType
  | bodyRead
  | multipartRead
  | noPlainTextPart
  | headerDecode
  | publish
deriving DecidableEq, Repr

namespace ErrorClass

def parent? : ErrorClass → Option ErrorClass
  | .gateway => none
  | .recipient | .noRecipient | .extraction | .headerDecode | .publish => some .gateway
  | .addressParse | .tooManyRecipients | .invalidDomain | .invalidAddress | .invalidTopic =>
    some .recipient
  | .contentTypeParse | .unsupportedContentType | .bodyRead => some .extraction
  | .multipartRead => some .bodyRead
  | .noPlainTextPart => some .multipartRead

/-- A class and the classes that it belongs to, up to `height` of them above it. -/
def chain (height : Nat) (c : ErrorClass) : List ErrorClass :=
  match height, c.parent? with
  | height + 1, some above => c :: chain height above
  | _, _ => [c]

def lineage (c : ErrorClass) : List ErrorClass :=
  chain 4 c

/-- Whether an error of the class is also one of another class. -/
def isA (c above : ErrorClass) : Bool :=
  c.lineage.contains above

/-- The text of an error of the class that is reported without one. -/
def defaultText : ErrorClass → Text
  | .tooManyRecipients => "too many recipients"
  | .invalidDomain => "invalid domain"
  | .invalidAddress => "invalid address"
  | .invalidTopic => "invalid topic"
  | .noRecipient => "no valid recipient"
  | .unsupportedContentType => "unsupported content type"
  | .noPlainTextPart => "multipart: no text/plain part (end of parts)"
  | _ => []

end ErrorClass

/-- Why an encoded word of a subject cannot be decoded. -/
inductive WordError where
  | base64
  | charset (e : Charset.Error)
deriving DecidableEq, Repr

def WordError.message : WordError → Text
  | .base64 => "Base64 decoding error"
  | .charset e => e.message

/-- The causes of the gateway's errors.  An error that somebody else reported in one of the gateway's
classes has the text that it was reported with. -/
inductive GatewayError where
  | noAddress
  | invalidAddressList (value : Text)
  | tooManyRecipients
  | invalidDomain
  | invalidAddress
  | invalidTopic
  | noRecipient
  | noMediaType
  | invalidMediaType (value : Text)
  | invalidMediaParameter (value : Text)
  | unsupportedContentType
  | unreadableMessage (fault : Mail.FieldFault)
  | unreadableBody
  | emptyBoundary
  | missingParts
  | noPlainTextPart
  | invalidEncodedWord (subject : Text) (cause : WordError)
  | busRefused (channel reason : Text)
  | publisherFailed (topic reason : Text)
  | reported (c : ErrorClass) (text : Text)
deriving DecidableEq, Repr

namespace GatewayError

def errorClass : GatewayError → ErrorClass
  | .noAddress | .invalidAddressList _ => .addressParse
  | .tooManyRecipients => .tooManyRecipients
  | .invalidDomain => .invalidDomain
  | .invalidAddress => .invalidAddress
  | .invalidTopic => .invalidTopic
  | .noRecipient => .noRecipient
  | .noMediaType | .invalidMediaType _ | .invalidMediaParameter _ => .contentTypeParse
  | .unsupportedContentType => .unsupportedContentType
  | .unreadableMessage _ | .unreadableBody => .bodyRead
  | .emptyBoundary | .missingParts => .multipartRead
  | .noPlainTextPart => .noPlainTextPart
  | .invalidEncodedWord .. => .headerDecode
  | .busRefused .. | .publisherFailed .. => .publish
  | .reported c _ => c

def message (e : GatewayError) : Text :=
  match e with
  | .noAddress => "mail: no address"
  | .invalidAddressList value => "mail: invalid address list " ++ value.quoted
  | .noMediaType => "mime: no media type"
  | .invalidMediaType value => "mime: invalid media type " ++ value.quoted
  | .invalidMediaParameter value => "mime: invalid media parameter in " ++ value.quoted
  | .unreadableMessage fault => "Invalid MIME message: " ++ fault.message
  | .unreadableBody => "Message body is not readable"
  | .emptyBoundary => "multipart: boundary is empty"
  | .missingParts => "multipart: NextPart: EOF"
  | .invalidEncodedWord subject cause =>
    "mime: invalid encoded word in " ++ subject.quoted ++ ": " ++ cause.message
  | .busRefused channel reason => "redis publish to " ++ channel ++ " failed: " ++ reason
  | .publisherFailed topic reason =>
    "publish to topic " ++ topic.quoted ++ " failed: " ++ reason
  | .reported _ text => text
  | .tooManyRecipients | .invalidDomain | .invalidAddress | .invalidTopic | .noRecipient
  | .unsupportedContentType | .noPlainTextPart => e.errorClass.defaultText

end GatewayError

/-- Who an error from outside belongs to: one of the gateway's classes, the message bus, or anybody
else. -/
inductive FailureKind where
  | gateway (c : ErrorClass)
  | bus (name : Text)
  | other (name : Text)
deriving DecidableEq, Repr

/-- An error from outside: what a publisher, a subscriber or a server reports. -/
structure Failure where
  kind : FailureKind
  text : Text
deriving DecidableEq, Repr

namespace Failure

/-- The wording of a failure.  A missing key is shown in quotes. -/
def message (f : Failure) : Text :=
  if f.kind = .other "KeyError" then f.text.quoted else f.text

def isBus (f : Failure) : Bool :=
  match f.kind with
  | .bus _ => true
  | _ => false

end Failure

/-- What is wrong with the settings of a backend. -/
inductive ConfigError where
  | emptyDomain
  | limitNotPositive
  | invalidPattern (e : Pattern.Error)
  | unreadablePattern (e : Pattern.Error)
deriving DecidableEq, Repr

def ConfigError.message : ConfigError → Text
  | .emptyDomain => "SMTP server domain must not be empty"
  | .limitNotPositive => "message limit must be a positive integer"
  | .invalidPattern e => "invalid topic pattern: " ++ e.message
  | .unreadablePattern e => e.message

inductive Fault where
  | gateway (e : GatewayError)
  | field (fault : Mail.FieldFault)
  | charset (e : Charset.Error)
  | charsetName (name : Text)
  | pattern (e : Pattern.Error)
  | config (e : ConfigError)
  | unsupported (owner operation : Text)
  | external (f : Failure)
deriving DecidableEq, Repr

namespace Fault

def message : Fault → Text
  | .gateway e => e.message
  | .field fault => fault.message
  | .charset e => e.message
  | .charsetName name => name
  | .pattern e => e.message
  | .config e => e.message
  | .unsupported owner operation =>
    "'" ++ owner ++ "' object has no attribute '" ++ operation ++ "'"
  | .external f => f.message

/-- The fault that a failure from outside is: one in a class of the gateway is an error of the
gateway. -/
def ofFailure (f : Failure) : Fault :=
  match f.kind with
  | .gateway c => .gateway (.reported c f.text)
  | _ => .external f

end Fault

end MailGateway
