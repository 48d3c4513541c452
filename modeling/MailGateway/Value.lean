import MailGateway.Number.Binary64
import MailGateway.Platform
import MailGateway.Text.Printable

/-!
# Values

Structured data: what a publication, a log line or an answer of the service consists of.  A value is
written as JSON, with or without characters outside ASCII, and in the notation of log texts.
-/

namespace MailGateway

inductive Value where
  | null
  | bool (b : Bool)
  | int (n : Int)
  | float (x : Binary64)
  | text (t : Text)
  | list (items : List Value)
  | object (fields : List (Text × Value))
deriving Repr, Inhabited

namespace Value

/-- Whether the value counts as true: neither nothing nor zero nor empty. -/
def isTrue : Value → Bool
  | .null => false
  | .bool b => b
  | .int n => n != 0
  | .float x => !x.isZero
  | .text t => !t.isEmpty
  | .list items => !items.isEmpty
  | .object fields => !fields.isEmpty

/-- One character of a JSON text, in ASCII if `ascii` holds. -/
def jsonChar (ascii : Bool) (c : Char) : Text :=
  if c == '"' then "\\\""
  else if c == '\\' then "\\\\"
  else if c == '\n' then "\\n"
  else if c == '\r' then "\\r"
  else if c == '\t' then "\\t"
  else if c.toNat = 8 then "\\b"
  else if c.toNat = 12 then "\\f"
  else if c.toNat < 0x20 then "\\u" ++ Text.hex 4 c.toNat
  else if !ascii || c.toNat < 0x7f then [c]
  else if c.toNat < 0x10000 then "\\u" ++ Text.hex 4 c.toNat
  else
    let offset := c.toNat - 0x10000
    "\\u" ++ Text.hex 4 (0xd800 + offset / 0x400) ++ "\\u" ++ Text.hex 4 (0xdc00 + offset % 0x400)

def jsonText (ascii : Bool) (text : Text) : Text :=
  '"' :: text.flatMap (jsonChar ascii) ++ ['"']

def separator : Text := ", "

mutual

def json (ascii : Bool) : Value → Text
  | .null => "null"
  | .bool true => "true"
  | .bool false => "false"
  | .int n => Text.ofInt n
  | .float x => x.toText
  | .text t => jsonText ascii t
  | .list items => '[' :: Text.join separator (jsonItems ascii items) ++ [']']
  | .object fields => '\x7b' :: Text.join separator (jsonFields ascii fields) ++ ['\x7d']

def jsonItems (ascii : Bool) : List Value → List Text
  | [] => []
  | item :: items => item.json ascii :: jsonItems ascii items

def jsonFields (ascii : Bool) : List (Text × Value) → List Text
  | [] => []
  | (name, value) :: fields =>
    (jsonText ascii name ++ ": " ++ value.json ascii) :: jsonFields ascii fields

end

mutual

/-- Whether no integer in the value has more digits than a limit. -/
def fits (limit : Nat) : Value → Bool
  | .int n => Text.digitCount n ≤ limit
  | .list items => allFit limit items
  | .object fields => fieldsFit limit fields
  | .null | .bool _ | .float _ | .text _ => true

def allFit (limit : Nat) : List Value → Bool
  | [] => true
  | item :: items => item.fits limit && allFit limit items

def fieldsFit (limit : Nat) : List (Text × Value) → Bool
  | [] => true
  | (_, value) :: fields => value.fits limit && fieldsFit limit fields

end

inductive WriteError where
  | integerTooLong (limit : Nat)
deriving DecidableEq, Repr

def WriteError.message : WriteError → Text
  | .integerTooLong limit =>
    "Exceeds the limit (" ++ Text.ofNat limit ++ " digits) for integer string conversion; " ++
      "use sys.set_int_max_str_digits() to increase the limit"

/-- A value in JSON, if the platform can write its integers. -/
def json? [Platform] (ascii : Bool) (value : Value) : Except WriteError Text :=
  match Platform.digitLimit.filter (!value.fits ·) with
  | some limit => .error (.integerTooLong limit)
  | none => .ok (value.json ascii)

mutual

/-- A value in the notation of log texts, where texts stand between quotes. -/
def shown : Value → Text
  | .null => "None"
  | .bool true => "True"
  | .bool false => "False"
  | .int n => Text.ofInt n
  | .float x => x.toText
  | .text t => t.quoted
  | .list items => '[' :: Text.join separator (shownItems items) ++ [']']
  | .object fields => '\x7b' :: Text.join separator (shownFields fields) ++ ['\x7d']

/-- The items of a list in the notation of log texts. -/
def shownItems : List Value → List Text
  | [] => []
  | item :: items => item.shown :: shownItems items

/-- The fields of an object in the notation of log texts. -/
def shownFields : List (Text × Value) → List Text
  | [] => []
  | (name, value) :: fields => (name.quoted ++ ": " ++ value.shown) :: shownFields fields

end

/-- A value as part of a log text: a text of its own stands without quotes. -/
def plain : Value → Text
  | .text t => t
  | value => value.shown

end Value

end MailGateway
