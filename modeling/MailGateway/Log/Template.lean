import MailGateway.Text.Word
import MailGateway.Value

/-!
# Message templates

The message of a log record is a template with directives for its arguments, such as `%s` and `%05.1f`.
A template is read as a list of pieces, and the pieces are filled one after the other, so that the
first thing that is wrong gives the error.
-/

namespace MailGateway.Log

/-- A number in a directive: absent, given, or taken from the arguments. -/
inductive Size where
  | none
  | given (n : Nat)
  | argument
deriving DecidableEq, Repr

structure Flags where
  left : Bool
  plus : Bool
  blank : Bool
  alternate : Bool
  zero : Bool
deriving DecidableEq, Repr

def Flags.none : Flags := ⟨false, false, false, false, false⟩

/-- The flags with one more, if the character is a flag. -/
def Flags.add? (flags : Flags) (c : Char) : Option Flags :=
  match c with
  | '-' => some { flags with left := true }
  | '+' => some { flags with plus := true }
  | ' ' => some { flags with blank := true }
  | '#' => some { flags with alternate := true }
  | '0' => some { flags with zero := true }
  | _ => Option.none

/-- A directive: the name of its argument if it has one, flags, width and precision, and the letter
of the conversion with its position.  The letter is missing at the end of a template. -/
structure Directive where
  key : Option Text
  flags : Flags
  width : Size
  precision : Size
  letter : Option (Char × Nat)
deriving DecidableEq, Repr

inductive Piece where
  | literal (c : Char)
  | directive (d : Directive)
  | openKey
deriving DecidableEq, Repr

inductive TemplateError where
  | tooFewArguments
  | tooManyArguments
  | noMapping
  | missingKey (key : Text)
  | incompleteKey
  | incomplete
  | sizeNotInteger
  | unknownLetter (c : Char) (position : Nat)
  | notReal (c : Char) (kind : Text)
  | notInteger (c : Char) (kind : Text)
  | notFloat (kind : Text)
  | notCharacter
  | characterOutOfRange
deriving DecidableEq, Repr

namespace TemplateError

def message : TemplateError → Text
  | .tooFewArguments => "not enough arguments for format string"
  | .tooManyArguments => "not all arguments converted during string formatting"
  | .noMapping => "format requires a mapping"
  | .missingKey key => key.quoted
  | .incompleteKey => "incomplete format key"
  | .incomplete => "incomplete format"
  | .sizeNotInteger => "* wants int"
  | .unknownLetter c position =>
    "unsupported format character '" ++ [if 31 ≤ c.toNat ∧ c.toNat < 0x7f then c else '?'] ++
      "' (0x" ++ Nat.toDigits 16 c.toNat ++ ") at index " ++ Text.ofNat position
  | .notReal c kind => '%' :: c :: " format: a real number is required, not " ++ kind
  | .notInteger c kind => '%' :: c :: " format: an integer is required, not " ++ kind
  | .notFloat kind => "must be real number, not " ++ kind
  | .notCharacter => "%c requires int or char"
  | .characterOutOfRange => "%c arg not in range(0x110000)"

end TemplateError

namespace Template

/-- The name of an argument up to its closing parenthesis, and the text after it. -/
def readKey (depth : Nat) : Text → Option (Text × Text)
  | [] => none
  | c :: rest =>
    if c = ')' ∧ depth = 0 then some ([], rest)
    else
      let depth := if c = '(' then depth + 1 else if c = ')' then depth - 1 else depth
      (readKey depth rest).map fun (key, rest) ↦ (c :: key, rest)

/-- The flags at the start of a text, and the text after them. -/
def readFlags (flags : Flags) : Text → Flags × Text
  | [] => (flags, [])
  | c :: rest =>
    match flags.add? c with
    | some flags => readFlags flags rest
    | none => (flags, c :: rest)

/-- The size at the start of a text, and the text after it. -/
def readSize (absent : Size) (text : Text) : Size × Text :=
  match text with
  | '*' :: rest => (.argument, rest)
  | text =>
    let digits := text.takeWhile Char.isDigit
    if digits.isEmpty then (absent, text)
    else (.given (Nat.ofDigitChars 10 digits 0), text.dropWhile Char.isDigit)

/-- The directive after a percent sign, and the text after the directive.  `size` is the length of the
whole template. -/
def readDirective (size : Nat) (key : Option Text) (text : Text) : Directive × Text :=
  let (flags, text) := readFlags Flags.none text
  let (width, text) := readSize .none text
  let (precision, text) := match text with
    | '.' :: text => readSize (.given 0) text
    | text => (.none, text)
  let text := match text with
    | c :: text => if c = 'h' ∨ c = 'l' ∨ c = 'L' then text else c :: text
    | [] => []
  match text with
  | [] => (⟨key, flags, width, precision, none⟩, [])
  | c :: text => (⟨key, flags, width, precision, some (c, size - text.length - 1)⟩, text)

/-- The piece at the start of a text, and the text after it. -/
def readPiece (size : Nat) : Text → Option (Piece × Text)
  | [] => none
  | '%' :: '(' :: text =>
    match readKey 0 text with
    | none => some (.openKey, [])
    | some (key, text) =>
      let (d, text) := readDirective size (some key) text
      some (.directive d, text)
  | '%' :: text =>
    let (d, text) := readDirective size none text
    some (.directive d, text)
  | c :: text => some (.literal c, text)

def readFrom (size : Nat) (text : Text) : List Piece :=
  match readPiece size text with
  | none => []
  | some (piece, rest) =>
    if rest.length < text.length then piece :: readFrom size rest else [piece]
termination_by text.length

def read (template : Text) : List Piece :=
  readFrom template.length template

end Template

/-- The arguments of a template: a sequence, or one mapping.  A mapping stands for a single argument
where no name is given. -/
inductive Arguments where
  | sequence (rest : List Value)
  | mapping (fields : List (Text × Value)) (rest : Option Value)
deriving Repr

namespace Arguments

/-- Arguments as they are given with a record: a single object with fields is a mapping. -/
def ofList : List Value → Arguments
  | [.object (field :: fields)] =>
    .mapping (field :: fields) (some (.object (field :: fields)))
  | values => .sequence values

/-- The next argument, and those after it. -/
def next : Arguments → Except TemplateError (Value × Arguments)
  | .sequence (value :: rest) => .ok (value, .sequence rest)
  | .mapping fields (some value) => .ok (value, .mapping fields none)
  | _ => .error .tooFewArguments

/-- The arguments with that of a name as the next one. -/
def select (key : Text) : Arguments → Except TemplateError Arguments
  | .sequence _ => .error .noMapping
  | .mapping fields _ =>
    match fields.lookup key with
    | some value => .ok (.mapping fields (some value))
    | none => .error (.missingKey key)

def isLeft : Arguments → Bool
  | .sequence rest => !rest.isEmpty
  | .mapping .. => false

end Arguments

/-- The name of the kind of a value in error texts. -/
def kindName : Value → Text
  | .null => "NoneType"
  | .bool _ => "bool"
  | .int _ => "int"
  | .float _ => "float"
  | .text _ => "str"
  | .list _ => "list"
  | .object _ => "dict"

def integer? : Value → Option Int
  | .bool b => some (if b then 1 else 0)
  | .int n => some n
  | _ => none

namespace Directive

/-- A width or a precision, and the arguments after it. -/
def sizeOf (size : Size) (arguments : Arguments) :
    Except TemplateError (Option Int × Arguments) :=
  match size with
  | .none => .ok (none, arguments)
  | .given n => .ok (some n, arguments)
  | .argument => do
    let (value, arguments) ← arguments.next
    match integer? value with
    | some n => return (some n, arguments)
    | none => throw .sizeNotInteger

/-- What a conversion gives: digits with a sign and the mark of their base, or a text. -/
inductive Field where
  | number (negative : Bool) (mark digits : Text)
  | text (text : Text)
deriving DecidableEq, Repr

def asciiOnly (text : Text) : Text :=
  text.flatMap fun c ↦
    if c.toNat < 0x80 then [c]
    else if c.toNat < 0x100 then "\\x" ++ Text.hex 2 c.toNat
    else if c.toNat < 0x10000 then "\\u" ++ Text.hex 4 c.toNat
    else "\\U" ++ Text.hex 8 c.toNat

def integerField (flags : Flags) (precision : Option Nat) (letter : Char) (n : Int) : Field :=
  let (base, mark) : Nat × Text := match letter with
    | 'o' => (8, "0o")
    | 'x' => (16, "0x")
    | 'X' => (16, "0X")
    | _ => (10, [])
  let digits := Nat.toDigits base n.natAbs
  let digits := if letter = 'X' then digits.map Char.toUpper else digits
  .number (n < 0) (if flags.alternate then mark else [])
    (Text.padLeft '0' (precision.getD 0) digits)

/-- Digits with an exponent or without, whichever is shorter at a number of significant digits. -/
def generalDigits (alternate : Bool) (precision : Nat) (x : Binary64) : Text :=
  let count := max precision 1
  let (digits, exponent) := x.significant count
  let kept := if alternate then digits else (digits.reverse.dropWhile (· == '0')).reverse
  let kept := if kept.isEmpty then ['0'] else kept
  if -4 ≤ exponent ∧ exponent < count then
    if exponent < 0 then "0." ++ List.replicate (exponent.natAbs - 1) '0' ++ kept
    else
      let whole := kept ++ List.replicate (exponent.toNat + 1 - kept.length) '0'
      Binary64.withPoint whole (exponent.toNat + 1)
  else Binary64.withPoint kept 1 ++ 'e' :: Binary64.exponentText exponent

/-- A fraction in one of the notations for fractions. -/
def fractionField (flags : Flags) (precision : Option Nat) (letter : Char) (x : Binary64) : Field :=
  let places := precision.getD 6
  let digits := match letter.toLower with
    | 'e' => x.scientific places
    | 'f' => x.fixed places
    | _ => generalDigits flags.alternate places x
  let pointed := digits.takeWhile (· != 'e')
  let digits :=
    if flags.alternate && !pointed.contains '.' then pointed ++ '.' :: digits.dropWhile (· != 'e')
    else digits
  .number x.negative [] (if letter.isUpper then digits.map Char.toUpper else digits)

def fraction? : Value → Option Binary64
  | .float x => some x
  | value => (integer? value).map fun n ↦ Binary64.ofDecimal (n < 0) n.natAbs 0

/-- The integer of a value that is a number, without the part behind the point. -/
def whole? : Value → Option Int
  | .float x => some x.truncate
  | value => integer? value

def characterOf : Value → Except TemplateError Text
  | .text [c] => .ok [c]
  | .float _ | .text _ | .null | .list _ | .object _ => .error .notCharacter
  | value =>
    match integer? value with
    | some (.ofNat n) =>
      if n < 0x110000 then .ok [Char.ofNat n] else .error .characterOutOfRange
    | _ => .error .characterOutOfRange

def convert (flags : Flags) (precision : Option Nat) (letter : Char) (position : Nat)
    (value : Value) : Except TemplateError Field :=
  let cutTo (text : Text) : Field := .text ((precision.map text.take).getD text)
  if letter = 's' then .ok (cutTo value.plain)
  else if letter = 'r' then .ok (cutTo value.shown)
  else if letter = 'a' then .ok (cutTo (asciiOnly value.shown))
  else if letter = 'c' then (characterOf value).map .text
  else if letter = 'd' ∨ letter = 'i' ∨ letter = 'u' then
    match whole? value with
    | some n => .ok (integerField flags precision letter n)
    | none => .error (.notReal letter (kindName value))
  else if letter = 'o' ∨ letter = 'x' ∨ letter = 'X' then
    match integer? value with
    | some n => .ok (integerField flags precision letter n)
    | none => .error (.notInteger letter (kindName value))
  else if "eEfFgG".toList.contains letter then
    match fraction? value with
    | some x => .ok (fractionField flags precision letter x)
    | none => .error (.notFloat (kindName value))
  else .error (.unknownLetter letter position)

/-- A field at a width.  Numbers are filled with zeros behind the sign if the flags say so. -/
def laidOut (flags : Flags) (width : Nat) : Field → Text
  | .text text =>
    let gap := List.replicate (width - text.length) ' '
    if flags.left then text ++ gap else gap ++ text
  | .number negative mark digits =>
    let sign : Text :=
      if negative then ['-'] else if flags.plus then ['+'] else if flags.blank then [' '] else []
    let missing := width - (sign.length + mark.length + digits.length)
    let gap := List.replicate missing ' '
    if flags.left then sign ++ mark ++ digits ++ gap
    else if flags.zero then sign ++ mark ++ List.replicate missing '0' ++ digits
    else gap ++ sign ++ mark ++ digits

/-- Fill a directive: its text, and the arguments after it. -/
def fill (d : Directive) (arguments : Arguments) : Except TemplateError (Text × Arguments) := do
  let arguments ← match d.key with
    | some key => arguments.select key
    | none => pure arguments
  let (width, arguments) ← sizeOf d.width arguments
  let (precision, arguments) ← sizeOf d.precision arguments
  let width := width.getD 0
  let flags := if width < 0 then { d.flags with left := true } else d.flags
  match d.letter with
  | none => throw .incomplete
  | some ('%', _) => return (['%'], arguments)
  | some (letter, position) =>
    let (value, arguments) ← arguments.next
    let field ← convert flags (precision.map Int.toNat) letter position value
    return (laidOut flags width.natAbs field, arguments)

end Directive

namespace Template

def fillPieces (arguments : Arguments) : List Piece → Except TemplateError Text
  | [] => if arguments.isLeft then .error .tooManyArguments else .ok []
  | .literal c :: pieces => (fillPieces arguments pieces).map (c :: ·)
  | .openKey :: _ =>
    match arguments with
    | .sequence _ => .error .noMapping
    | .mapping .. => .error .incompleteKey
  | .directive d :: pieces => do
    let (text, arguments) ← d.fill arguments
    let rest ← fillPieces arguments pieces
    return text ++ rest

/-- Fill a template.  Without arguments it is left as it is. -/
def fill (template : Text) (arguments : List Value) : Except TemplateError Text :=
  if arguments.isEmpty then .ok template
  else fillPieces (Arguments.ofList arguments) (read template)

end Template

end MailGateway.Log
