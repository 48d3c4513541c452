import MailGateway.Mail.StructuredField

/-!
# Parameters of shown fields

Boundaries and charsets are looked up in a field as it is shown.  There the parameters are separated
by semicolons outside of quotes, a quote after a backslash not counting as one.  A value is plain
text, or it has a charset and a language of its own when its name ends in an asterisk.
-/

namespace MailGateway.Mail.ShownField

/-- The text up to the semicolon that ends a parameter, and the text after it.  `escaped` says that
a backslash comes just before, `open_` that a quote is open. -/
def cutParameter (escaped isOpen : Bool) : Text → Text × Option Text
  | [] => ([], none)
  | c :: rest =>
    if c == ';' && !isOpen then ([], some rest)
    else
      let (first, after) := cutParameter (c == '\\') (if c == '"' && !escaped then !isOpen else isOpen) rest
      (c :: first, after)

def pieces (fuel : Nat) (text : Text) : List Text :=
  match fuel with
  | 0 => []
  | fuel + 1 =>
    match cutParameter false false text with
    | (first, some rest) => first :: pieces fuel rest
    | (first, none) => [first]

/-- A parameter split into its name in lower case and its value as it is written. -/
def nameAndValue (piece : Text) : Text × Text :=
  match Text.cut (· == '=') piece with
  | (name, some value) => (Text.lower (Text.trim name), Text.trim value)
  | (name, none) => (Text.trim name, [])

/-- Remove quotes or angle brackets around a text, and the escapes between quotes. -/
def unquote (text : Text) : Text :=
  let inner := (text.drop 1).dropLast
  if text.length < 2 then text
  else if text.head? = some '"' ∧ text.getLast? = some '"' then unescapeQuote (unescapeSlash inner)
  else if text.head? = some '<' ∧ text.getLast? = some '>' then inner
  else text
where
  /-- Doubled backslashes as one. -/
  unescapeSlash : Text → Text
    | '\\' :: '\\' :: rest => '\\' :: unescapeSlash rest
    | c :: rest => c :: unescapeSlash rest
    | [] => []
  /-- Quotes without the backslash before them. -/
  unescapeQuote : Text → Text
    | '\\' :: '"' :: rest => '"' :: unescapeQuote rest
    | c :: rest => c :: unescapeQuote rest
    | [] => []

/-- Write backslashes and quotes with a backslash before them. -/
def escape (text : Text) : Text :=
  text.flatMap fun c ↦ if c == '\\' || c == '"' then ['\\', c] else [c]

/-- The value of a parameter: text, or text with the charset that its bytes are in. -/
inductive Value where
  | plain (text : Text)
  | extended (charset : Option Text) (text : Text)
deriving DecidableEq, Repr

/-- A section of a value: its number if it has one, its text, and whether percent signs stand for
bytes. -/
structure Section where
  number : Option Nat
  text : Text
  encoded : Bool
deriving DecidableEq, Repr

/-- Order of sections by number, then by text. -/
def Section.le (a b : Section) : Bool :=
  let key (n : Option Nat) : Nat := match n with
    | some n => n + 1
    | none => 0
  if key a.number ≠ key b.number then key a.number < key b.number
  else if a.text ≠ b.text then Text.le a.text b.text
  else !a.encoded || b.encoded

/-- The name and the section that a name with an asterisk stands for. -/
def sectionOf? (name value : Text) : Option (Text × Section) :=
  let isWordChar (c : Char) : Bool := c.isAlphanum || c == '_'
  let word := name.takeWhile isWordChar
  let encoded := name.getLast? == some '*'
  match word, name.dropWhile isWordChar with
  | [], _ => none
  | _, '*' :: rest =>
    let digits := rest.takeWhile Char.isDigit
    match digits, rest.dropWhile Char.isDigit with
    | [], [] => some (word, ⟨none, value, encoded⟩)
    | _ :: _, [] | _ :: _, ['*'] =>
      some (word, ⟨some (digits.foldl (fun n c ↦ n * 10 + (c.toNat - 48)) 0), value, encoded⟩)
    | _, _ => none
  | _, _ => none

def Section.decoded (s : Section) : Text :=
  if s.encoded then Symbol.toText (Parameter.percentLatin (Symbol.ofText s.text)) else s.text

def joinSections (sections : List Section) : Value :=
  let sections := sections.mergeSort Section.le
  let text := sections.flatMap Section.decoded
  if sections.any (·.encoded) then
    let (charset, rest) := Text.cut (· == '\'') (escape text)
    match rest.map (Text.cut (· == '\'')) with
    | some (_, some value) => .extended (some charset) (unquote ('"' :: value ++ ['"']))
    | _ => .extended none (unquote ('"' :: escape text ++ ['"']))
  else .plain text

/-- The parameters of a field, the media type itself being the first of them.  Values in sections
come last. -/
def parameters (shown : Text) : List (Text × Value) :=
  match (pieces (shown.length + 1) shown).map nameAndValue with
  | [] => []
  | (name, value) :: rest =>
    let plain := rest.filter fun (name, value) ↦ (sectionOf? name (unquote value)).isNone
    let sections := rest.filterMap fun (name, value) ↦ sectionOf? name (unquote value)
    let names := (sections.map Prod.fst).eraseDups
    (name, .plain (unquote value)) ::
      plain.map (fun (name, value) ↦ (name, .plain (unquote value))) ++
      names.map fun name ↦
        (name, joinSections ((sections.filter (·.1 == name)).map Prod.snd))

def parameter? (name shown : Text) : Option Value :=
  ((parameters shown).find? fun (n, _) ↦ Text.lower n == name).map Prod.snd

variable [Platform]

/-- The boundary between the parts of a multipart message. -/
def boundary? (shown : Text) : Except Charset.Error (Option Text) :=
  match parameter? "boundary" shown with
  | none => .ok none
  | some (.plain text) => .ok (some (Text.dropTail Text.isBlank (unquote text)))
  | some (.extended charset text) =>
    match Charset.decodeLossy (charset.getD "us-ascii") (Text.latinBytes text) with
    | .ok text => .ok (some (Text.dropTail Text.isBlank text))
    | .error e =>
      if e.isLookup then .ok (some (Text.dropTail Text.isBlank (unquote text))) else .error e

/-- The name of the charset, if it is given and ASCII. -/
def charset? (shown : Text) : Except Charset.Error (Option Text) :=
  let ascii (text : Text) : Option Text :=
    if text.all fun c ↦ c.toNat < 0x80 then some (Text.lower text) else none
  match parameter? "charset" shown with
  | none => .ok none
  | some (.plain text) => .ok (ascii text)
  | some (.extended charset text) =>
    let name := match charset with
      | none | some [] => "us-ascii".toList
      | some name => name
    match Charset.decodeStrict name (Text.latinBytes text) with
    | .ok symbols => .ok (ascii (Symbol.display symbols))
    | .error .nulInName => .error .nulInName
    | .error _ => .ok (ascii text)

end MailGateway.Mail.ShownField
