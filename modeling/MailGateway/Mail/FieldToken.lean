import MailGateway.Mail.EncodedWord
import MailGateway.Text.Word

/-!
# Tokens of structured fields

Structured field values are made of tokens, quoted strings and phrases with white space and comments
around them.  Every reader here takes what it names from the start of a value and returns how that is
shown, together with the rest of the value.  Showing a value removes needless escapes and decodes
encoded words; reading never fails silently, for `flawed` reports what no writer should have sent.
-/

namespace MailGateway.Mail.Field

/-- Characters with a meaning in structured fields. -/
def specials : Text := "()<>@,:;.\\\"[]"

def endsAtom (s : Symbol) : Bool :=
  s.is fun c ↦ specials.contains c || c == ' ' || c == '\t'

def endsPhrase (s : Symbol) : Bool :=
  s.is fun c ↦ specials.contains c && c != '.' && c != '"' && c != '('

/-- Whether the symbol ends a token: a dot does not, a slash, a question mark and an equals sign
do. -/
def endsToken (s : Symbol) : Bool :=
  s.is fun c ↦
    (specials.contains c && c != '.') || c == '/' || c == '?' || c == '=' || c == ' ' || c == '\t'

/-- Whether the symbol ends the name of a parameter. -/
def endsName (s : Symbol) : Bool :=
  endsToken s || s.is fun c ↦ c == '*' || c == '\'' || c == '%'

/-- Whether the symbol ends the value of a parameter: a percent sign does not. -/
def endsValue (s : Symbol) : Bool :=
  endsToken s || s.is fun c ↦ c == '*' || c == '\''

/-- What a reader found: how it is shown, whether it is flawed, and the symbols after it. -/
structure Found where
  shown : List Symbol
  flawed : Bool
  rest : List Symbol

def Found.shownAfter (found : Found) (symbols : List Symbol) : Found :=
  ⟨symbols ++ found.shown, found.flawed, found.rest⟩

@[simp]
theorem Found.rest_shownAfter (found : Found) (symbols : List Symbol) :
    (found.shownAfter symbols).rest = found.rest := rfl

/-- The symbols as they are written between parentheses. -/
def inComment (s : Symbol) : List Symbol :=
  if s.is fun c ↦ c == '\\' || c == '(' || c == ')' then [.scalar '\\', s] else [s]

/-- The rest of a comment, given how many comments are open around it.  Comments that never close
are closed, and flawed. -/
def comment : Nat → List Symbol → Found
  | depth, [] => ⟨List.replicate (depth + 1) (.scalar ')'), true, []⟩
  | depth, s :: rest =>
    if s.eq '\\' then
      match rest with
      | [] => comment depth []
      | t :: more =>
        if isSpacing t then comment depth (t :: more)
        else (comment depth more).shownAfter (inComment t)
    else if s.eq ')' then
      match depth with
      | 0 => ⟨[s], false, rest⟩
      | outer + 1 => (comment outer rest).shownAfter [s]
    else if s.eq '(' then (comment (depth + 1) rest).shownAfter [s]
    else (comment depth rest).shownAfter [s]

theorem length_comment_le (depth : Nat) (symbols : List Symbol) :
    (comment depth symbols).rest.length ≤ symbols.length := by
  fun_induction comment depth symbols <;> simp_all <;> omega

/-- Whether white space or a comment starts with the symbol. -/
def startsGap (s : Symbol) : Bool :=
  isSpacing s || s.eq '('

def gap : List Symbol → Found
  | [] => ⟨[], false, []⟩
  | s :: rest =>
    if isSpacing s then
      (gap (rest.dropWhile isBlankSymbol)).shownAfter (s :: rest.takeWhile isBlankSymbol)
    else if s.eq '(' then
      let found := (gap (comment 0 rest).rest).shownAfter (s :: (comment 0 rest).shown)
      ⟨found.shown, (comment 0 rest).flawed || found.flawed, (gap (comment 0 rest).rest).rest⟩
    else ⟨[], false, s :: rest⟩
termination_by symbols => symbols.length
decreasing_by
  · have := (rest.dropWhile_suffix isBlankSymbol).length_le
    simp only [List.length_cons]; omega
  · have := length_comment_le 0 rest
    simp only [List.length_cons]; omega

/-- Quoted characters up to white space or a quote, without escapes. -/
def quotedRun : List Symbol → List Symbol × List Symbol
  | [] => ([], [])
  | s :: rest =>
    if isSpacing s || s.eq '"' then ([], s :: rest)
    else if s.eq '\\' then
      match rest with
      | [] => ([], [])
      | t :: more =>
        if isSpacing t then ([], t :: more)
        else
          let (run, after) := quotedRun more
          (t :: run, after)
    else
      let (run, after) := quotedRun rest
      (s :: run, after)

inductive Piece where
  | blank (symbols : List Symbol)
  | word (symbols : List Symbol)
  | run (symbols : List Symbol)

/-- Add an encoded word to pieces in reverse.  White space between two encoded words does not
count. -/
def pushWord (word : List Symbol) : List Piece → List Piece
  | .blank _ :: .word w :: pieces => .word word :: .blank [] :: .word w :: pieces
  | pieces => .word word :: pieces

def piecesContent (pieces : List Piece) : List Symbol :=
  pieces.reverse.flatMap fun
    | .blank symbols | .word symbols | .run symbols => symbols

variable [Platform]

/-- The content of a quoted string from after its opening quote.  An encoded word inside, or a
missing closing quote, is a flaw. -/
def quotedContent (pieces : List Piece) (flawed : Bool) (symbols : List Symbol) : Found :=
  match symbols with
  | [] => ⟨piecesContent pieces, true, []⟩
  | s :: rest =>
    if s.eq '"' then ⟨piecesContent pieces, flawed, rest⟩
    else if isSpacing s then
      quotedContent (.blank (s :: rest.takeWhile isBlankSymbol) :: pieces) flawed
        (rest.dropWhile isBlankSymbol)
    else
      let plain : Unit → Found := fun _ ↦
        let (run, after) := quotedRun (s :: rest)
        if after.length ≤ rest.length then quotedContent (.run run :: pieces) flawed after
        else ⟨piecesContent pieces, flawed, after⟩
      match EncodedWord.take? (s :: rest) with
      | some (word, _, after) =>
        if after.length ≤ rest.length then quotedContent (pushWord word pieces) true after
        else plain ()
      | none => plain ()
termination_by symbols.length
decreasing_by
  all_goals have := (rest.dropWhile_suffix isBlankSymbol).length_le
  all_goals simp only [List.length_cons]; omega

/-- The content between quotes, as it is written. -/
def requote (content : List Symbol) : List Symbol :=
  .scalar '"' ::
    content.flatMap (fun s ↦
      if s.is fun c ↦ c == '\\' || c == '"' then [.scalar '\\', s] else [s]) ++ [.scalar '"']

/-- A word of a value: how it is shown, its content, its value with gaps as single spaces, whether
it is flawed, and the symbols after it. -/
structure Word where
  shown : List Symbol
  content : List Symbol
  value : List Symbol
  flawed : Bool
  rest : List Symbol

/-- A gap as a value: a single space, or nothing if there is no gap. -/
def gapValue (symbols : List Symbol) : List Symbol :=
  match symbols with
  | s :: _ => if startsGap s then [.scalar ' '] else []
  | [] => []

/-- A quoted string, from its opening quote on, with the gap after it. -/
def quotedString (symbols : List Symbol) : Word :=
  let inner := quotedContent [] false (symbols.drop 1)
  let after := gap inner.rest
  { shown := requote inner.shown ++ after.shown
    content := inner.shown
    value := inner.shown ++ gapValue inner.rest
    flawed := inner.flawed || after.flawed
    rest := after.rest }

/-- The symbols up to one that ends the word, with the gaps around them.  There is no such word if
the first symbol after the gap ends words. -/
def wordUpTo? (ends : Symbol → Bool) (symbols : List Symbol) : Option Word :=
  let before := gap symbols
  match before.rest with
  | [] => none
  | s :: rest =>
    if ends s then none
    else
      let content := s :: rest.takeWhile (!ends ·)
      let after := gap (rest.dropWhile (!ends ·))
      some
        { shown := before.shown ++ content ++ after.shown
          content := content
          value := gapValue symbols ++ content ++ gapValue (rest.dropWhile (!ends ·))
          flawed := before.flawed || after.flawed
          rest := after.rest }

def token? (symbols : List Symbol) : Option Word :=
  wordUpTo? endsToken symbols

def name? (symbols : List Symbol) : Option Word :=
  wordUpTo? endsName symbols

/-- The value of a parameter: a quoted string or plain symbols. -/
def value? (symbols : List Symbol) : Option Word :=
  let before := gap symbols
  match before.rest with
  | [] => none
  | s :: rest =>
    let word? := if s.eq '"' then some (quotedString (s :: rest)) else wordUpTo? endsValue (s :: rest)
    word?.map fun word ↦
      { word with
        shown := before.shown ++ word.shown
        value := gapValue symbols ++ word.value
        flawed := before.flawed || word.flawed }

/-- A word of a phrase and the gaps around it: a quoted string, an encoded word or an atom. -/
def phraseWord? (symbols : List Symbol) : Option (List Symbol × List Symbol) :=
  let before := gap symbols
  match before.rest with
  | [] => none
  | s :: rest =>
    if s.eq '"' then
      let word := quotedString (s :: rest)
      some (before.shown ++ word.shown, word.rest)
    else if endsAtom s then none
    else
      let (shown, after) := match EncodedWord.take? (s :: rest) with
        | some (text, _, after) => (text, after)
        | none => (s :: rest.takeWhile (!endsAtom ·), rest.dropWhile (!endsAtom ·))
      let gap := gap after
      some (before.shown ++ shown ++ gap.shown, gap.rest)

/-- How the words, dots and gaps up to the end of a phrase are shown, and the symbols after them. -/
def phraseRest (symbols : List Symbol) : List Symbol × List Symbol :=
  match symbols with
  | [] => ([], [])
  | s :: rest =>
    if endsPhrase s then ([], s :: rest)
    else
      let (shown, after) :=
        if s.eq '.' then ([s], rest)
        else match phraseWord? (s :: rest) with
          | some found => found
          | none => ((gap (s :: rest)).shown, (gap (s :: rest)).rest)
      if after.length ≤ rest.length then
        let (more, after) := phraseRest after
        (shown ++ more, after)
      else (shown, after)
termination_by symbols.length

/-- How a phrase is shown, and the symbols after it. -/
def phrase (symbols : List Symbol) : List Symbol × List Symbol :=
  match phraseWord? symbols with
  | some (shown, after) =>
    let (more, after) := phraseRest after
    (shown ++ more, after)
  | none => phraseRest symbols

/-- How everything up to a symbol that satisfies `stop` is shown, and the symbols from it on.
Specials that end phrases stand for themselves. -/
def junk (stop : Symbol → Bool) (symbols : List Symbol) : List Symbol × List Symbol :=
  match symbols with
  | [] => ([], [])
  | s :: rest =>
    if stop s then ([], s :: rest)
    else
      let (shown, after) := if endsPhrase s then ([s], rest) else phrase (s :: rest)
      if after.length ≤ rest.length then
        let (more, after) := junk stop after
        (shown ++ more, after)
      else (shown, after)
termination_by symbols.length

end MailGateway.Mail.Field
