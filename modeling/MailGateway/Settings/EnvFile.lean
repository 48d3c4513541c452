import MailGateway.Text.Blank

/-!
# Environment files

A file of settings has one binding per line, such as `MESSAGE_LIMIT=512`.  Values may be quoted, quoted
ones may run over several lines, and `${NAME}` in a value stands for an earlier setting or a
variable of the environment.  A line that is no binding is left out.

This follows the library that reads the file.  Nothing that is proved of settings rests on it: the
theorems hold for settings from any bindings.
-/

namespace MailGateway.Settings.EnvFile

abbrev Binding := Text × Option Text

def withLineFeeds : Text → Text
  | [] => []
  | '\r' :: '\n' :: rest => '\n' :: withLineFeeds rest
  | c :: rest => (if c = '\r' then '\n' else c) :: withLineFeeds rest

/-- Whether the character is blank and ends no line. -/
def isGap (c : Char) : Bool :=
  Text.isBlank c && c != '\n'

/-- The text without blank characters at the start of its first line. -/
def skipGap (text : Text) : Text :=
  text.dropWhile isGap

def skipLine (text : Text) : Text :=
  (text.dropWhile (· != '\n')).drop 1

/-- The text without a leading `export` and the gap behind it. -/
def skipExport (text : Text) : Text :=
  match Text.after? "export".toList text with
  | none => text
  | some rest => if rest.head?.any isGap then skipGap rest else text

/-- Whether the character may stand in a name without quotes. -/
def isNameChar (c : Char) : Bool :=
  !(c == '=' || c == '#' || Text.isBlank c)

/-- The name at the start of a text, and the text after it. -/
def takeName? (text : Text) : Option (Text × Text) :=
  let (name, rest) := match text with
    | '\'' :: text => (text.takeWhile (· != '\''), (text.dropWhile (· != '\'')).drop 1)
    | text => (text.takeWhile isNameChar, text.dropWhile isNameChar)
  let closed := match text with
    | '\'' :: text => text.contains '\''
    | _ => true
  if name.isEmpty || !closed then none else some (name, rest)

/-- The content of a quoted value, and the text after the closing quote.  A backslash before a quote
hides it, unless no further quote closes the value. -/
def takeQuoted? (quote : Char) : Text → Option (Text × Text)
  | [] => none
  | [c] => if c = quote then some ([], []) else none
  | c :: d :: rest =>
    if c = quote then some ([], d :: rest)
    else if c = '\\' ∧ d = quote then
      match takeQuoted? quote rest with
      | some (content, after) => some (c :: d :: content, after)
      | none => some ([c], rest)
    else (takeQuoted? quote (d :: rest)).map fun (content, after) ↦ (c :: content, after)

/-- The character that a letter after a backslash stands for between double quotes. -/
def escaped (letter : Char) : Char :=
  match letter with
  | 'a' => '\x07'
  | 'b' => '\x08'
  | 'f' => '\x0c'
  | 'n' => '\n'
  | 'r' => '\r'
  | 't' => '\t'
  | 'v' => '\x0b'
  | c => c

def unescape (letters : Text) : Text → Text
  | [] => []
  | [c] => [c]
  | c :: d :: rest =>
    if c = '\\' ∧ letters.contains d then escaped d :: unescape letters rest
    else c :: unescape letters (d :: rest)

/-- A value without the comment at its end, which starts with a blank and a number sign. -/
def withoutComment (afterBlank : Bool) : Text → Text
  | [] => []
  | c :: rest =>
    if c = '#' ∧ afterBlank then [] else c :: withoutComment (Text.isBlank c) rest

/-- The value after an equals sign, and the text after it. -/
def takeValue? (text : Text) : Option (Text × Text) :=
  match text with
  | '\'' :: rest =>
    (takeQuoted? '\'' rest).map fun (content, rest) ↦ (unescape ['\\', '\''] content, rest)
  | '"' :: rest =>
    (takeQuoted? '"' rest).map fun (content, rest) ↦
      (unescape "\\'\"abfnrtv".toList content, rest)
  | text =>
    let line := text.takeWhile (· != '\n')
    some (Text.dropTail Text.isBlank (withoutComment false line), text.dropWhile (· != '\n'))

/-- The text after the end of a line, on which at most a comment may stand. -/
def takeLineEnd? (text : Text) : Option Text :=
  let text := skipGap text
  let text := if text.head? = some '#' then text.dropWhile (· != '\n') else text
  match text with
  | [] => some []
  | '\n' :: rest => some rest
  | _ => none

/-- The binding at the start of a text if there is one, and the text after it. -/
def takeBinding (text : Text) : Option Binding × Text :=
  let text := skipExport (Text.trimLeft text)
  if text.head? = some '#' then (none, skipLine text)
  else match takeName? text with
    | none => (none, skipLine text)
    | some (name, text) =>
      let text := skipGap text
      let (value, text) := match text with
        | '=' :: text =>
          match takeValue? (skipGap text) with
          | some (value, rest) => (some (some value), rest)
          | none => (none, skipGap text)
        | text => (some none, text)
      match value, takeLineEnd? text with
      | some value, some rest => (some (name, value), rest)
      | _, _ => (none, skipLine text)

def bindings (text : Text) : List Binding :=
  let (binding, rest) := takeBinding text
  if rest.length < text.length then binding.toList ++ bindings rest else binding.toList
termination_by text.length

/-- A reference to a variable at the start of a text: its name, the default, and the text after it. -/
def takeReference? (text : Text) : Option (Text × Text × Text) :=
  match text with
  | '$' :: '\x7b' :: text =>
    let name := text.takeWhile fun c ↦ c != '\x7d' && c != ':'
    match text.dropWhile fun c ↦ c != '\x7d' && c != ':' with
    | '\x7d' :: rest => some (name, [], rest)
    | ':' :: '-' :: text =>
      match text.dropWhile (· != '\x7d') with
      | _ :: rest => some (name, text.takeWhile (· != '\x7d'), rest)
      | [] => none
    | _ => none
  | _ => none

def interpolate (meaning : Text → Option Text) (text : Text) : Text :=
  match text with
  | [] => []
  | c :: text =>
    match takeReference? (c :: text) with
    | some (name, fallback, rest) =>
      let value := (meaning name).getD fallback
      if rest.length < text.length + 1 then value ++ interpolate meaning rest else value
    | none => c :: interpolate meaning text
termination_by text.length
decreasing_by
  · simpa using ‹rest.length < text.length + 1›
  · simp

/-- The value of a name in bindings, the last one counting. -/
def lookup (name : Text) (bindings : List Binding) : Option (Option Text) :=
  bindings.reverse.lookup name

/-- Bindings with references replaced, from first to last. -/
def resolve (environment : List (Text × Text)) : List Binding → List Binding → List Binding
  | done, [] => done
  | done, (name, value) :: rest =>
    let meaning (other : Text) : Option Text :=
      match lookup other done with
      | some value => some (value.getD [])
      | none => environment.lookup other
    resolve environment (done ++ [(name, value.map (interpolate meaning))]) rest

def read (environment : List (Text × Text)) (file : Text) : List Binding :=
  resolve environment [] (bindings (withLineFeeds file))

end MailGateway.Settings.EnvFile
