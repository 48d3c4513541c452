import MailGateway.Value

/-!
# A reader of JSON

Blanks between tokens, texts with every kind of escape, numbers with or without a fraction, lists, and
objects whose fields keep their order.  The reader takes one token after the other and remembers which
lists and objects are open.  Every token shortens the text that is left.
-/

namespace MailGateway.Json

/-! ## Texts -/

/-- Whether a code unit is the first half of a character. -/
def isHigh (unit : Nat) : Bool :=
  0xd800 ≤ unit && unit < 0xdc00

/-- Whether a code unit is the second half of a character. -/
def isLow (unit : Nat) : Bool :=
  0xdc00 ≤ unit && unit < 0xe000

theorem isHigh_iff {unit : Nat} : isHigh unit = true ↔ 0xd800 ≤ unit ∧ unit < 0xdc00 := by
  simp only [isHigh, Bool.and_eq_true, decide_eq_true_eq]

theorem isLow_iff {unit : Nat} : isLow unit = true ↔ 0xdc00 ≤ unit ∧ unit < 0xe000 := by
  simp only [isLow, Bool.and_eq_true, decide_eq_true_eq]

/-- A code unit in four hexadecimal digits, and what follows it. -/
def unit? : Text → Option (Nat × Text)
  | a :: b :: c :: d :: rest => do
    let digits ← [a, b, c, d].mapM Text.hexValue?
    return (digits.foldl (fun unit digit ↦ 16 * unit + digit) 0, rest)
  | _ => none

def secondHalf? (high : Nat) (text : Text) : Option (Char × Text) := do
  let text ← Text.after? ['\\', 'u'] text
  let (low, rest) ← unit? text
  if isLow low then some (Char.ofNat (0x10000 + 0x400 * (high - 0xd800) + (low - 0xdc00)), rest)
  else none

/-- The characters that may stand alone behind a backslash, and their meaning. -/
def escapes : List (Char × Char) :=
  [('"', '"'), ('\\', '\\'), ('/', '/'), ('b', '\x08'), ('f', '\x0c'), ('n', '\n'), ('r', '\r'),
    ('t', '\t')]

/-- The character that is written with a backslash, given what follows the backslash. -/
def escape? : Text → Option (Char × Text)
  | [] => none
  | 'u' :: text => do
    let (unit, rest) ← unit? text
    if isHigh unit then secondHalf? unit rest
    else if isLow unit then none
    else some (Char.ofNat unit, rest)
  | c :: text => (escapes.lookup c).map fun d ↦ (d, text)

theorem length_of_unit? {text rest : Text} {unit : Nat} (h : unit? text = some (unit, rest)) :
    rest.length < text.length := by
  unfold unit? at h
  split at h
  · obtain ⟨digits, -, heq⟩ := Option.bind_eq_some_iff.mp h
    cases heq
    simp only [List.length_cons]
    omega
  · cases h

theorem length_of_secondHalf? {high : Nat} {text rest : Text} {c : Char}
    (h : secondHalf? high text = some (c, rest)) : rest.length < text.length := by
  obtain ⟨escaped, hafter, h⟩ := Option.bind_eq_some_iff.mp h
  obtain ⟨⟨low, rest'⟩, hunit, h⟩ := Option.bind_eq_some_iff.mp h
  have := Text.length_of_after? hafter
  have := length_of_unit? hunit
  dsimp only at h
  split at h
  · obtain ⟨-, rfl⟩ := Prod.mk.inj (Option.some.inj h)
    omega
  · cases h

theorem length_of_escape? {text rest : Text} {c : Char} (h : escape? text = some (c, rest)) :
    rest.length < text.length := by
  unfold escape? at h
  split at h
  · cases h
  next text =>
    obtain ⟨⟨unit, rest'⟩, hunit, h⟩ := Option.bind_eq_some_iff.mp h
    have := length_of_unit? hunit
    simp only [List.length_cons]
    dsimp only at h
    split at h
    · have := length_of_secondHalf? h
      omega
    split at h
    · cases h
    · cases h
      omega
  next =>
    obtain ⟨d, -, heq⟩ := Option.map_eq_some_iff.mp h
    cases heq
    simp

/-- The text up to the closing quote, and what follows this quote. -/
def text? : Text → Option (Text × Text)
  | [] => none
  | c :: text =>
    if c = '"' then some ([], text)
    else if c = '\\' then
      match _h : escape? text with
      | none => none
      | some (d, rest) => (text? rest).map fun (t, rest) ↦ (d :: t, rest)
    else if c.toNat < 0x20 then none
    else (text? text).map fun (t, rest) ↦ (c :: t, rest)
termination_by text => text.length
decreasing_by
  · have := length_of_escape? _h
    simp only [List.length_cons]
    omega
  · simp

theorem length_of_text? {text rest t : Text} (h : text? text = some (t, rest)) :
    rest.length < text.length := by
  fun_induction text? text generalizing t with
  | case1 => cases h
  | case2 text =>
    cases h
    simp
  | case3 => cases h
  | case4 text d more hescape _ ih =>
    obtain ⟨⟨t', rest'⟩, htext, heq⟩ := Option.map_eq_some_iff.mp h
    cases heq
    have := length_of_escape? hescape
    have := ih htext
    simp only [List.length_cons]
    omega
  | case5 => cases h
  | case6 c text _ _ _ ih =>
    obtain ⟨⟨t', rest'⟩, htext, heq⟩ := Option.map_eq_some_iff.mp h
    cases heq
    have := ih htext
    simp only [List.length_cons]
    omega

/-! ## Numbers -/

def natural? (digits : Text) : Option Nat :=
  if digits.isEmpty || !digits.all Char.isDigit then none else some (Nat.ofDigitChars 10 digits 0)

/-- Whether there is a minus sign, and the text without it. -/
def minus : Text → Bool × Text
  | '-' :: text => (true, text)
  | text => (false, text)

def signed (negative : Bool) (n : Nat) : Int :=
  if negative then -n else n

/-- The power of ten behind the letter `e`. -/
def power? : Text → Option Int
  | '+' :: digits => (natural? digits).map (signed false)
  | text => (natural? (minus text).2).map (signed (minus text).1)

/-- A number: an integer, unless it has a point or a power of ten. -/
def number? (word : Text) : Option Value := do
  let (mantissa, power) := Text.cut (fun c ↦ c == 'e' || c == 'E') word
  let (whole, places) := Text.cut (· == '.') mantissa
  let (negative, digits) := minus whole
  let n ← natural? digits
  if digits.head? = some '0' ∧ digits ≠ ['0'] then none
  else if places.isNone && power.isNone then return .int (signed negative n)
  else
    let places := places.getD ['0']
    let _ ← natural? places
    let n ← natural? (digits ++ places)
    let power ← power? (power.getD ['0'])
    return .float (Binary64.ofDecimal negative n (power - places.length))

/-! ## Tokens -/

/-- A token of JSON. -/
inductive Token where
  | openList
  | closeList
  | openObject
  | closeObject
  | comma
  | colon
  | scalar (v : Value)

def marks : List (Char × Token) :=
  [('[', .openList), (']', .closeList), ('\x7b', .openObject), ('\x7d', .closeObject), (',', .comma),
    (':', .colon)]

def words : List (Text × Value) :=
  [("null".toList, .null), ("true".toList, .bool true), ("false".toList, .bool false)]

/-- Whether the character may stand between tokens. -/
def isBlank (c : Char) : Bool :=
  c == ' ' || c == '\t' || c == '\n' || c == '\r'

/-- Whether the character ends a word or a number. -/
def isDelimiter (c : Char) : Bool :=
  isBlank c || (marks.lookup c).isSome || c == '"'

/-- A value that is written as a word or a number. -/
def scalar? (word : Text) : Option Value :=
  words.lookup word <|> number? word

/-- The token at the start of a text, and what follows it. -/
def token? : Text → Option (Token × Text)
  | [] => none
  | c :: text =>
    match marks.lookup c with
    | some mark => some (mark, text)
    | none =>
      if c = '"' then (text? text).map fun (t, rest) ↦ (.scalar (.text t), rest)
      else (scalar? (c :: text.takeWhile fun d ↦ !isDelimiter d)).map fun v ↦
        (.scalar v, text.dropWhile fun d ↦ !isDelimiter d)

theorem length_of_token? {text rest : Text} {token : Token} (h : token? text = some (token, rest)) :
    rest.length < text.length := by
  unfold token? at h
  split at h
  · cases h
  next c text =>
    rw [List.length_cons]
    split at h
    · cases h
      omega
    split at h
    · obtain ⟨⟨t, rest'⟩, htext, heq⟩ := Option.map_eq_some_iff.mp h
      cases heq
      have := length_of_text? htext
      omega
    · obtain ⟨v, -, heq⟩ := Option.map_eq_some_iff.mp h
      cases heq
      have := (List.dropWhile_sublist (l := text) fun d ↦ !isDelimiter d).length_le
      omega

/-! ## Values -/

/-- A list or an object that is open, with what has been read of it. -/
inductive Frame where
  | item (items : List Value)
  | field (fields : List (Text × Value)) (key : Text)

/-- What is expected next: a value, the name of a field, the colon behind a name, or what may follow the
value that has been read.  `mayClose` says that the list or the object may end instead. -/
inductive State where
  | value (mayClose : Bool) (frames : List Frame)
  | name (mayClose : Bool) (fields : List (Text × Value)) (frames : List Frame)
  | colon (fields : List (Text × Value)) (key : Text) (frames : List Frame)
  | done (v : Value) (frames : List Frame)

def State.step : State → Token → Option State
  | .value _ frames, .scalar v => some (.done v frames)
  | .value _ frames, .openList => some (.value true (.item [] :: frames))
  | .value _ frames, .openObject => some (.name true [] frames)
  | .value true (.item items :: frames), .closeList => some (.done (.list items) frames)
  | .name _ fields frames, .scalar (.text key) => some (.colon fields key frames)
  | .name true fields frames, .closeObject => some (.done (.object fields) frames)
  | .colon fields key frames, .colon => some (.value false (.field fields key :: frames))
  | .done v (.item items :: frames), .comma => some (.value false (.item (items ++ [v]) :: frames))
  | .done v (.item items :: frames), .closeList => some (.done (.list (items ++ [v])) frames)
  | .done v (.field fields key :: frames), .comma => some (.name false (fields ++ [(key, v)]) frames)
  | .done v (.field fields key :: frames), .closeObject =>
    some (.done (.object (fields ++ [(key, v)])) frames)
  | _, _ => none

def run (state : State) : Text → Option State
  | [] => some state
  | c :: text =>
    if isBlank c then run state text
    else
      match _h : token? (c :: text) with
      | none => none
      | some (token, rest) => (state.step token).bind fun state ↦ run state rest
termination_by text => text.length
decreasing_by
  · simp
  · exact length_of_token? _h

def read (text : Text) : Option Value :=
  match run (.value false []) text with
  | some (.done v []) => some v
  | _ => none

end MailGateway.Json
