import MailGateway.Error
import MailGateway.Mail.Address
import MailGateway.Pattern.Matcher

/-!
# From recipients to topics

A recipient is an address list with exactly one address.  Its domain has to be that of the gateway,
its local part has to start with the configured prefix, and the remainder is the topic if it matches
the topic pattern as a whole.  The stages are checked in this order, and the first that fails gives
the error.
-/

namespace MailGateway.Topic

/-- The pattern of topics unless another one is configured: one to sixty-four ASCII letters, digits,
hyphens and underscores. -/
def defaultPattern : Text := "^[-_A-Za-z0-9]\x7b1,64\x7d$"

def addresses (value : Option Text) : Except GatewayError (List Text) :=
  match value with
  | none => .error .noAddress
  | some text =>
    if (Text.trim text).isEmpty then .error .noAddress
    else match Mail.Address.list? text with
      | some addresses => .ok addresses
      | none => .error (.invalidAddressList text)

def localPart (domain address : Text) : Except GatewayError Text :=
  match Text.before? ('@' :: domain) address with
  | some name => .ok name
  | none => .error .invalidDomain

/-- A local part without the prefix.  No prefix and an empty one ask for nothing. -/
def withoutPrefix (start : Option Text) (name : Text) : Except GatewayError Text :=
  match Text.after? (start.getD []) name with
  | some topic => .ok topic
  | none => .error .invalidAddress

variable [Platform]

/-- The topic if it matches the pattern as a whole. -/
def checked (pattern : Option Text) (topic : Text) : Except Fault Text :=
  match Pattern.read (pattern.getD defaultPattern) with
  | .error e => .error (.pattern e)
  | .ok pattern =>
    if pattern.fullMatch topic then .ok topic else .error (.gateway .invalidTopic)

def resolve (recipient : Option Text) (domain : Text) (start : Option Text)
    (pattern : Option Text) : Except Fault Text := do
  let addresses ← (addresses recipient).mapError Fault.gateway
  match addresses with
  | [address] =>
    let name ← (localPart domain address).mapError Fault.gateway
    let topic ← (withoutPrefix start name).mapError Fault.gateway
    checked pattern topic
  | _ => throw (.gateway .tooManyRecipients)

end MailGateway.Topic
