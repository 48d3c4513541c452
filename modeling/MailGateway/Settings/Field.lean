import MailGateway.Backend

/-!
# Fields of settings

A setting comes as text from the environment or as a value from the program.  It is read as text, as a
whole number or as a switch, and then checked.  Numbers in texts are decimal; zeros behind a point and
single underscores between digits do not matter.

How lenient the reading of numbers and switches is follows the library that validates settings.  What
is proved of settings rests on the checks behind it, such as that a limit is positive, and holds for
any reading before them.
-/

namespace MailGateway.Settings

inductive Problem where
  | notAnInteger
  | integerTooLong
  | noInteger
  | fractional
  | notASwitch
  | noSwitch
  | noText
  | emptyDomain
  | notPositive
  | unknownPublisher
  | pattern (e : Pattern.Error)
deriving DecidableEq, Repr

namespace Problem

def kind : Problem → Text
  | .notAnInteger => "int_parsing"
  | .integerTooLong => "int_parsing_size"
  | .noInteger => "int_type"
  | .fractional => "int_from_float"
  | .notASwitch => "bool_parsing"
  | .noSwitch => "bool_type"
  | .noText => "string_type"
  | .emptyDomain | .notPositive | .unknownPublisher | .pattern _ => "value_error"

def message : Problem → Text
  | .notAnInteger =>
    "Input should be a valid integer, unable to parse string as an integer"
  | .integerTooLong => "Unable to parse input string as an integer, exceeded maximum size"
  | .noInteger => "Input should be a valid integer"
  | .fractional => "Input should be a valid integer, got a number with a fractional part"
  | .notASwitch => "Input should be a valid boolean, unable to interpret input"
  | .noSwitch => "Input should be a valid boolean"
  | .noText => "Input should be a valid string"
  | .emptyDomain => "Value error, SMTP_SERVER_DOMAIN must not be empty"
  | .notPositive => "Value error, must be a positive integer"
  | .unknownPublisher => "Value error, PUBLISHER must be 'redis' or 'memory'"
  | .pattern e =>
    match Config.ofPatternError e with
    | .invalidPattern e => "Value error, " ++ (ConfigError.invalidPattern e).message
    | e => "Value error, " ++ e.message

end Problem

/-- Whether the character is white space around a number. -/
def isSpace (c : Char) : Bool :=
  Text.isBlank c && !(0x1c ≤ c.toNat && c.toNat ≤ 0x1f)

/-- The number of digits without a leading zero and without anything else. -/
def plainNatural? (text : Text) : Option Nat :=
  match text with
  | [] => none
  | ['0'] => some 0
  | '0' :: _ => none
  | digits => if digits.all Char.isDigit then some (Nat.ofDigitChars 10 digits 0) else none

/-- The number that a text is without further ado: digits without a leading zero, perhaps with a
minus sign. -/
def plainInteger (text : Text) : Except Problem Int :=
  let digits := match text with
    | '-' :: digits => digits
    | digits => digits
  match plainNatural? digits with
  | none => .error .notAnInteger
  | some n =>
    if Text.maxDigits < digits.length then .error .integerTooLong
    else .ok (if text.head? = some '-' then -(n : Int) else n)

/-- Whether the character may stand among leading zeros. -/
def isFiller (c : Char) : Bool :=
  c == '0' || c == '_'

/-- The text without leading zeros and the underscores among them.  The last of these characters stays
before a point or at the end; there is no such text if something else than a digit follows them. -/
def withoutZeros? (text : Text) : Option Text :=
  match text with
  | '0' :: _ =>
    let kept := (text.takeWhile isFiller).getLast?.toList
    match text.dropWhile isFiller with
    | [] => some kept
    | '.' :: rest => some (kept ++ '.' :: rest)
    | c :: rest => if c.isDigit then some (c :: rest) else none
  | c :: _ => if c.isDigit ∨ c = '-' then some text else none
  | [] => none

/-- The text without single underscores between its characters, if it has underscores of that kind
only. -/
def withoutUnderscores (text : Text) : Text :=
  let pieces := Text.splitAll (· == '_') text
  if pieces.any List.isEmpty then text else pieces.flatten

/-- The plain form of a number: no white space around it, no plus sign, no leading zeros, no zeros
behind a point and no underscores. -/
def plainForm? (text : Text) : Option Text :=
  let text := Text.trimBy isSpace text
  let (signed, text) := match text with
    | '+' :: rest => (true, rest)
    | text => (false, text)
  if signed && text.head? == some '-' then none
  else (withoutZeros? text).map fun text ↦
    let (whole, behind) := Text.cut (· == '.') text
    withoutUnderscores (if (behind.getD []).all (· == '0') then whole else text)

def integerOfText (text : Text) : Except Problem Int :=
  match plainInteger text with
  | .error .notAnInteger =>
    match plainForm? text with
    | some text => plainInteger text
    | none => .error .notAnInteger
  | result => result

def readInteger (value : Value) : Except Problem Int :=
  match value with
  | .int n => .ok n
  | .bool b => .ok (if b then 1 else 0)
  | .float x =>
    let (num, den) := x.absFraction
    if num % den = 0 then .ok x.truncate else .error .fractional
  | .text text => integerOfText text
  | .null | .list _ | .object _ => .error .noInteger

/-- The texts for off. -/
def offTexts : List Text := ["0", "off", "f", "false", "n", "no"].map String.toList

/-- The texts for on. -/
def onTexts : List Text := ["1", "on", "t", "true", "y", "yes"].map String.toList

def readSwitch (value : Value) : Except Problem Bool :=
  let ofInteger (n : Int) : Except Problem Bool :=
    if n = 0 then .ok false else if n = 1 then .ok true else .error .notASwitch
  match value with
  | .bool b => .ok b
  | .int n => ofInteger n
  | .float x =>
    let (num, den) := x.absFraction
    if num % den = 0 then ofInteger x.truncate else .error .noSwitch
  | .text text =>
    let text := text.map Char.toLower
    if offTexts.contains text then .ok false
    else if onTexts.contains text then .ok true
    else .error .notASwitch
  | .null | .list _ | .object _ => .error .noSwitch

def readText (value : Value) : Except Problem Text :=
  match value with
  | .text text => .ok text
  | _ => .error .noText

def readPositive (value : Value) : Except Problem Int :=
  match readInteger value with
  | .ok n => if n ≤ 0 then .error .notPositive else .ok n
  | .error problem => .error problem

/-- Read a domain, without blank characters around it. -/
def readDomain (value : Value) : Except Problem Text :=
  match readText value with
  | .ok text =>
    let domain := Text.trim text
    if domain.isEmpty then .error .emptyDomain else .ok domain
  | .error problem => .error problem

def readPattern [Platform] (value : Value) : Except Problem Text :=
  match readText value with
  | .ok text =>
    match Pattern.read text with
    | .ok _ => .ok text
    | .error e => .error (.pattern e)
  | .error problem => .error problem

inductive PublisherKind where
  | bus
  | memory
deriving DecidableEq, Repr

def PublisherKind.name : PublisherKind → Text
  | .bus => "redis"
  | .memory => "memory"

/-- Read a kind of publishers, letters counting without case. -/
def readPublisher (value : Value) : Except Problem PublisherKind :=
  match readText value with
  | .ok text =>
    let name := Text.lower text
    if name = PublisherKind.bus.name then .ok .bus
    else if name = PublisherKind.memory.name then .ok .memory
    else .error .unknownPublisher
  | .error problem => .error problem

end MailGateway.Settings
