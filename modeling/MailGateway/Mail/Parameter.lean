import MailGateway.Mail.FieldToken
import MailGateway.Text.Printable

/-!
# Parameters of structured fields

A parameter is a name and a value, as in `charset=utf-8`.  A long value may be split into numbered
sections, and an extended value names its charset and writes bytes with percent signs.  Reading is
lenient: what is no parameter is skipped, and everything irregular is reported as a flaw.
-/

namespace MailGateway.Mail

/-- Why the value of a structured field cannot be read, or not be shown. -/
inductive FieldFault where
  | endAfterMarker
  | noValueTokens
  | numberTooLong (limit digits : Nat)
  | notNumber (text : Text)
  | charset (e : Charset.Error)
  | surrogates (first : Fin 0x800) (position count : Nat)
deriving DecidableEq, Repr

def FieldFault.message : FieldFault → Text
  | .endAfterMarker => "string index out of range"
  | .noValueTokens => "list index out of range"
  | .numberTooLong limit digits =>
    "Exceeds the limit (" ++ Text.ofNat limit ++
      " digits) for integer string conversion: value has " ++ Text.ofNat digits ++
      " digits; use sys.set_int_max_str_digits() to increase the limit"
  | .notNumber text => "invalid literal for int() with base 10: " ++ text.quoted
  | .charset e => e.message
  | .surrogates first position count =>
    let place : Text :=
      if count = 1 then
        "character '\\u" ++ Text.hex 4 (0xd800 + first.val) ++ "' in position " ++
          Text.ofNat position
      else
        "characters in position " ++ Text.ofNat position ++ "-" ++
          Text.ofNat (position + count - 1)
    "'utf-8' codec can't encode " ++ place ++ ": surrogates not allowed"

/-- Whether a missing symbol and not a wrong value is the cause. -/
def FieldFault.isIndex : FieldFault → Bool
  | .endAfterMarker | .noValueTokens => true
  | _ => false

/-- A parameter as it was read.  There is no value when a quoted extended value holds only its
charset. -/
structure Parameter where
  name : List Symbol
  number : Option Nat
  extended : Bool
  charset : List Symbol
  value : Option (List Symbol)
  flawed : Bool

namespace Parameter

/-- The number of the section, zero for a parameter without sections. -/
def sectionNumber (p : Parameter) : Nat :=
  p.number.getD 0

def sectionValue [Platform] (digits : Text) : Except FieldFault Nat :=
  let decimals := digits.takeWhile Text.isDecimal
  match Platform.digitLimit.filter (· < decimals.length) with
  | some limit => .error (.numberTooLong limit decimals.length)
  | none =>
    if decimals.length < digits.length then .error (.notNumber digits)
    else .ok (digits.foldl (fun n c ↦ n * 10 + (Text.decimalValue? c).getD 0) 0)

/-- The digits of a section number after its asterisk. -/
def sectionDigits : List Symbol → Text
  | .scalar c :: rest => if Text.isDigit c then c :: sectionDigits rest else []
  | _ => []

/-- The section number after a name, if there is one, whether it is flawed, and the symbols after
it. -/
def readSection [Platform] (symbols : List Symbol) :
    Except FieldFault (Option Nat × Bool × List Symbol) :=
  match symbols with
  | s :: rest =>
    let digits := sectionDigits rest
    if s.eq '*' && !digits.isEmpty then
      (sectionValue digits).map fun n ↦
        (some n, digits.head? == some '0' && digits != ['0'], rest.drop digits.length)
    else .ok (none, false, symbols)
  | [] => .ok (none, false, [])

/-- Whether the content of a quoted extended value may be read as if it were not quoted. -/
def isSemiValid (p : Parameter) (content : List Symbol) : Option Bool :=
  match content with
  | [] => if p.sectionNumber = 0 then none else some false
  | s :: rest =>
    if p.sectionNumber = 0 then
      if s.eq '\'' then some true
      else if Field.endsName s then none
      else match rest.dropWhile (!Field.endsName ·) with
        | t :: _ => some (t.eq '\'')
        | [] => some false
    else some (!Field.endsValue s && (rest.dropWhile (!Field.endsValue ·)).isEmpty)

/-- The rest of the content of a quoted extended value, gaps as single spaces. -/
def quotedRest (symbols : List Symbol) : List Symbol :=
  match symbols with
  | [] => []
  | s :: rest =>
    if isSpacing s then
      .scalar ' ' :: quotedRest (rest.dropWhile isBlankSymbol)
    else if s.eq '"' then s :: quotedRest rest
    else
      let (run, after) := Field.quotedRun (s :: rest)
      if after.length ≤ rest.length then run ++ quotedRest after else run
termination_by symbols.length
decreasing_by
  all_goals have := (rest.dropWhile_suffix isBlankSymbol).length_le
  all_goals simp only [List.length_cons]; omega

/-- The symbols after the language of an extended value and the quote that follows it. -/
def afterLanguage? (symbols : List Symbol) : Option (List Symbol) :=
  match symbols with
  | [] => some []
  | s :: rest =>
    if s.eq '\'' then some rest
    else if Field.endsName s then none
    else match rest.dropWhile (!Field.endsName ·) with
      | t :: after => if t.eq '\'' then some after else none
      | [] => none

variable [Platform]

/-- Read the value of a parameter after its equals sign.  `outside` holds the symbols after the
quoted string if the value is the content of one. -/
def readValue (p : Parameter) (value : List Symbol) (outside : Option (List Symbol)) :
    Option (Parameter × List Symbol) :=
  let quoteFirst (symbols : List Symbol) : Bool := match symbols with
    | s :: _ => s.eq '\''
    | [] => false
  let finish (p : Parameter) (value : List Symbol) : Option (Parameter × List Symbol) :=
    match outside with
    | some after =>
      some ({ p with value := if value.isEmpty then none else some (quotedRest value) }, after)
    | none => (Field.value? value).map fun word ↦
      ({ p with value := some word.content, flawed := p.flawed || word.flawed }, word.rest)
  let delimited (p : Parameter) (rest : List Symbol) : Option (Parameter × List Symbol) :=
    match rest with
    | [] => none
    | s :: rest =>
      if s.eq '\'' then
        match afterLanguage? rest with
        | some value => finish p value
        | none => none
      else none
  let initial := p.extended && p.sectionNumber = 0
  if quoteFirst value then delimited { p with flawed := p.flawed || !initial } value
  else match Field.value? value with
    | none => none
    | some word =>
      let p := { p with flawed := p.flawed || word.flawed }
      if !initial && !quoteFirst word.rest then
        some ({ p with value := some word.content }, outside.getD word.rest)
      else if word.rest.isEmpty then
        some ({ p with value := some word.content, flawed := true }, outside.getD [])
      else delimited { p with charset := word.value, flawed := p.flawed || !initial } word.rest

/-- Read the value of an extended parameter that may be quoted. -/
def readQuotable (p : Parameter) (value : List Symbol) : Option (Parameter × List Symbol) :=
  match value with
  | s :: _ =>
    if p.extended && s.eq '"' then
      let word := Field.quotedString value
      match p.isSemiValid word.content with
      | none => none
      | some true => readValue { p with flawed := true } word.content (some word.rest)
      | some false => readValue { p with flawed := true } value none
    else readValue p value none
  | [] => readValue p value none

def readMarked (name : Field.Word) : Except FieldFault (Option (Parameter × List Symbol)) :=
  let plain : Parameter :=
    { name := Text.trimBy isBlankSymbol name.content
      number := none
      extended := false
      charset := Symbol.ofText "us-ascii"
      value := some []
      flawed := name.flawed }
  match name.rest with
  | [] => .ok (some ({ plain with flawed := true }, []))
  | s :: _ =>
    if s.eq ';' then .ok (some ({ plain with flawed := true }, name.rest))
    else
      match readSection name.rest with
      | .error e => .error e
      | .ok (number, flawed, symbols) =>
        let p := { plain with number := number, flawed := plain.flawed || flawed }
        match symbols with
        | [] => .ok none
        | s :: rest =>
          let extended := s.eq '*'
          let p := { p with extended := extended }
          match if extended then rest else s :: rest with
          | [] => .error .endAfterMarker
          | s :: rest =>
            if s.eq '=' then
              let gap := Field.gap rest
              .ok (readQuotable { p with flawed := p.flawed || gap.flawed } gap.rest)
            else .ok none

/-- The parameter at the start, if there is one, and the symbols after it. -/
def read? (symbols : List Symbol) : Except FieldFault (Option (Parameter × List Symbol)) :=
  match Field.name? symbols with
  | none => .ok none
  | some name => readMarked name

structure Many where
  parameters : List Parameter
  flawed : Bool

/-- One entry of a list of parameters: the parameter if it is one, whether the entry is flawed, and
the symbols from the next semicolon on. -/
def readEntry (symbols : List Symbol) :
    Except FieldFault (Option Parameter × Bool × List Symbol) :=
  match read? symbols with
  | .error e => .error e
  | .ok (some (p, rest)) =>
    let (_, after) := Field.junk (Symbol.eq ';') rest
    .ok (some p, after.length < rest.length, after)
  | .ok none =>
    let gap := Field.gap symbols
    match gap.rest with
    | [] => .ok (none, gap.flawed, [])
    | rest => .ok (none, true, (Field.junk (Symbol.eq ';') rest).2)

def readAll (symbols : List Symbol) : Except FieldFault Many :=
  match symbols with
  | [] => .ok ⟨[], false⟩
  | s :: rest =>
    match readEntry (s :: rest) with
    | .error e => .error e
    | .ok (p?, flawed, after) =>
      if after.length ≤ rest.length + 1 then
        match readAll (after.drop 1) with
        | .error e => .error e
        | .ok more =>
          .ok ⟨p?.toList ++ more.parameters,
            flawed || (p?.map Parameter.flawed).getD false || more.flawed⟩
      else .ok ⟨p?.toList, true⟩
termination_by symbols.length

/-- The bytes of a text in which percent signs with two hexadecimal digits stand for bytes. -/
def percentDecode : List UInt8 → List UInt8
  | 37 :: a :: b :: rest =>
    match Transfer.QuotedPrintable.hexPair? a b with
    | some byte => byte :: percentDecode rest
    | none => 37 :: percentDecode (a :: b :: rest)
  | b :: rest => b :: percentDecode rest
  | [] => []

/-- Symbols in which percent signs with two hexadecimal digits stand for Latin characters. -/
def percentLatin : List Symbol → List Symbol
  | s :: .scalar a :: .scalar b :: rest =>
    match s.eq '%', Text.hexValue? a, Text.hexValue? b with
    | true, some high, some low => .scalar (Char.ofNat (high * 16 + low)) :: percentLatin rest
    | _, _, _ => s :: percentLatin (.scalar a :: .scalar b :: rest)
  | s :: rest => s :: percentLatin rest
  | [] => []

/-- The text of an extended value.  Unknown charsets are read as ASCII, and undecodable bytes are
kept. -/
def extendedValue (charset value : List Symbol) : Except FieldFault (List Symbol) :=
  match Symbol.toText? value with
  | none => .ok (percentLatin value)
  | some text =>
    let bytes := percentDecode text.utf8
    match Symbol.toText? charset with
    | none => .ok (asciiSymbols bytes)
    | some name =>
      match Charset.decodeKeeping name bytes with
      | .ok symbols => .ok symbols
      | .error (.unknown _) | .error (.transformation _) => .ok (asciiSymbols bytes)
      | .error e => .error (.charset e)

/-- The value of sections in order, and whether their numbers are flawed.  `next` is the number that
comes next; a section out of order counts only if it is extended. -/
def joinSections (charset : List Symbol) (next : Nat) :
    List Parameter → Except FieldFault (List Symbol × Bool)
  | [] => .ok ([], false)
  | p :: rest => do
    let misplaced := p.sectionNumber != next
    if misplaced && !p.extended then
      let (value, _) ← joinSections charset next rest
      return (value, true)
    else
      let value ← match p.value with
        | some value => pure value
        | none => .error .noValueTokens
      let value ← if p.extended then extendedValue charset value else pure value
      let (more, flawed) ← joinSections charset (next + 1) rest
      return (value ++ more, misplaced || flawed)

/-- The value of all parameters of one name, and whether they are flawed.  Of several parameters
without sections the first counts. -/
def joined (parameters : List Parameter) : Except FieldFault (List Symbol × Bool) :=
  match parameters.mergeSort fun p q ↦ p.sectionNumber ≤ q.sectionNumber with
  | [] => .ok ([], false)
  | first :: second :: rest =>
    if !first.extended && second.sectionNumber = 0 then
      (joinSections first.charset 0 [first]).map fun (value, _) ↦ (value, true)
    else joinSections first.charset 0 (first :: second :: rest)
  | [first] => joinSections first.charset 0 [first]

/-- The different names in order of their first use. -/
def names (parameters : List Parameter) : List (List Symbol) :=
  (parameters.map Parameter.name).eraseDups

/-- The names and values of parameters, and whether any of them are flawed. -/
def values (parameters : List Parameter) :
    Except FieldFault (List (List Symbol × List Symbol) × Bool) := do
  let found ← (names parameters).mapM fun name ↦ do
    let (value, flawed) ← joined (parameters.filter (·.name == name))
    return ((name, value), flawed)
  return (found.map Prod.fst, found.any Prod.snd)

/-- How names and values are shown: values in quotes, and empty ones not at all. -/
def render (values : List (List Symbol × List Symbol)) : List Symbol :=
  let one : List Symbol × List Symbol → List Symbol := fun (name, value) ↦
    if value.isEmpty then name else name ++ .scalar '=' :: Field.requote value
  match values with
  | [] => []
  | values => .scalar ' ' :: List.intercalate (Symbol.ofText "; ") (values.map one)

end Parameter

end MailGateway.Mail
