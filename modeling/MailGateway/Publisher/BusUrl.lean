import MailGateway.Publisher.Basic
import MailGateway.Text.Word

/-!
# Addresses of message buses

A bus is reached under a URL with one of three schemes.  Host and port are only checked as far as a
connection needs them: brackets have to match, and a port is a number of sixteen bits.

The client library of the bus decides this.  It only matters for whether a backend can be built from
settings, and the theorems about starting hold for whatever is accepted here.
-/

namespace MailGateway.Publisher.BusUrl

/-- What is wrong with the URL of a bus. -/
inductive Error where
  | scheme
  | brackets
  | portNotANumber (port : Text)
  | portTooLarge
deriving DecidableEq, Repr

def Error.message : Error → Text
  | .scheme =>
    "Redis URL must specify one of the following schemes (redis://, rediss://, unix://)"
  | .brackets => "Invalid IPv6 URL"
  | .portNotANumber port => "Port could not be cast to integer value as " ++ port.quoted
  | .portTooLarge => "Port out of range 0-65535"

/-- The text behind the last occurrence of a character, or the whole text. -/
def behindLast (c : Char) (text : Text) : Text :=
  (text.reverse.takeWhile (· != c)).reverse

/-- The text behind the first occurrence of a character, if there is one. -/
def behindFirst (c : Char) (text : Text) : Text :=
  ((Text.cut (· == c) text).2).getD []

/-- The port of the authority of a URL, empty if there is none. -/
def portOf (authority : Text) : Text :=
  let host := behindLast '@' authority
  if host.contains '[' then behindFirst ':' (behindFirst ']' (behindFirst '[' host))
  else behindFirst ':' host

def checkPort (port : Text) : Except Error Unit :=
  if port.isEmpty then .ok ()
  else if !port.all Char.isDigit then .error (.portNotANumber port)
  else if 65535 < Nat.ofDigitChars 10 port 0 then .error .portTooLarge
  else .ok ()

def check (url : Text) : Except Error Unit :=
  let authorityBehind (scheme : String) : Option Text :=
    (Text.after? scheme.toList url).map fun rest ↦
      rest.takeWhile fun c ↦ !(c == '/' || c == '?' || c == '#')
  let network := match authorityBehind "redis://" with
    | some authority => some authority
    | none => authorityBehind "rediss://"
  match network, authorityBehind "unix://" with
  | none, none => .error .scheme
  | some authority, _ =>
    if authority.contains '[' != authority.contains ']' then .error .brackets
    else checkPort (portOf authority)
  | none, some authority =>
    if authority.contains '[' != authority.contains ']' then .error .brackets else .ok ()

end MailGateway.Publisher.BusUrl
