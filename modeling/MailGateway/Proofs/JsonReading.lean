import MailGateway.Proofs.FieldWords
import MailGateway.Proofs.JsonReader

/-!
# Reading what is written as JSON

A value without fractions that is written as JSON, in ASCII or not, is read as this value.  A character
is read from each of its escapes, an integer from its digits, and a list or an object token by token: the
lemma about a value holds in any state that expects a value and before any text that ends a number.
-/

namespace MailGateway

/-! ## Hexadecimal digits -/

/-- The last of several hexadecimal digits. -/
theorem Text.hex_succ (k n : Nat) :
    Text.hex (k + 2) n = Text.hex (k + 1) (n / 16) ++ [(n % 16).digitChar] := by
  rw [hex, hex, padLeft, padLeft]
  by_cases h : n < 16
  · rw [Nat.toDigits_of_lt_base h, Nat.div_eq_of_lt h, Nat.mod_eq_of_lt h, Nat.toDigits_zero,
      List.append_assoc]
    exact (congrArg (· ++ [n.digitChar]) (List.replicate_succ' (n := k))).trans (List.append_assoc ..)
  · have hwidth (length : Nat) : k + 2 - (length + 1) = k + 1 - length := by omega
    rw [Nat.toDigits_of_base_le (by decide) (by omega), List.length_append, List.length_singleton,
      hwidth, List.append_assoc]

/-- The four hexadecimal digits of a code unit. -/
theorem Text.hex_four {n : Nat} (h : n < 0x10000) :
    Text.hex 4 n = [(n / 16 / 16 / 16).digitChar, (n / 16 / 16 % 16).digitChar, (n / 16 % 16).digitChar,
      (n % 16).digitChar] := by
  have hfirst : Text.hex 1 (n / 16 / 16 / 16) = [(n / 16 / 16 / 16).digitChar] := by
    rw [Text.hex, Nat.toDigits_of_lt_base (by omega)]
    rfl
  rw [Text.hex_succ, Text.hex_succ, Text.hex_succ, hfirst]
  rfl

namespace Json

/-! ## Texts that are written -/

theorem unit?_hex {n : Nat} (h : n < 0x10000) (rest : Text) :
    unit? (Text.hex 4 n ++ rest) = some (n, rest) := by
  have hdigit : ∀ d < 16, Text.hexValue? d.digitChar = some d := by decide
  have hlast (n : Nat) : Text.hexValue? (n % 16).digitChar = some (n % 16) :=
    hdigit _ (Nat.mod_lt _ (by decide))
  have hvalue : 16 * (16 * (16 * (16 * 0 + n / 16 / 16 / 16) + n / 16 / 16 % 16) + n / 16 % 16) +
      n % 16 = n := by omega
  rw [Text.hex_four h]
  simp only [List.cons_append, List.nil_append, unit?, List.mapM_cons, List.mapM_nil, hlast,
    hdigit (n / 16 / 16 / 16) (by omega), Option.bind_some, Option.pure_def, Option.bind_eq_bind,
    List.foldl_cons, List.foldl_nil, hvalue]

/-- A character of one code unit is read from its escape. -/
theorem escape?_unit {n : Nat} (h : n < 0xd800 ∨ 0xe000 ≤ n ∧ n < 0x10000) (rest : Text) :
    escape? ('u' :: (Text.hex 4 n ++ rest)) = some (Char.ofNat n, rest) := by
  have hhigh : ¬isHigh n = true := by
    rw [isHigh_iff]
    omega
  have hlow : ¬isLow n = true := by
    rw [isLow_iff]
    omega
  rw [escape?, unit?_hex (by omega)]
  simp only [Option.bind_eq_bind, Option.bind_some]
  rw [if_neg hhigh, if_neg hlow]

/-- A character of two code units is read from both of its escapes. -/
theorem escape?_pair (high low : Nat) (hhigh : 0xd800 ≤ high ∧ high < 0xdc00)
    (hlow : 0xdc00 ≤ low ∧ low < 0xe000) (rest : Text) :
    escape? ('u' :: (Text.hex 4 high ++ '\\' :: 'u' :: (Text.hex 4 low ++ rest))) =
      some (Char.ofNat (0x10000 + 0x400 * (high - 0xd800) + (low - 0xdc00)), rest) := by
  have hafter (text : Text) : Text.after? ['\\', 'u'] ('\\' :: 'u' :: text) = some text := rfl
  rw [escape?, unit?_hex (by omega)]
  simp only [Option.bind_eq_bind, Option.bind_some]
  rw [if_pos (isHigh_iff.mpr hhigh), secondHalf?, hafter]
  simp only [Option.bind_eq_bind, Option.bind_some, unit?_hex (show low < 0x10000 by omega)]
  rw [if_pos (isLow_iff.mpr hlow)]

section Characters

variable {c d : Char} {text rest : Text}

theorem text?_quote (rest : Text) : text? ('"' :: rest) = some ([], rest) := by
  rw [text?, if_pos rfl]

theorem text?_plain (hquote : c ≠ '"') (hslash : c ≠ '\\') (hvisible : 0x20 ≤ c.toNat) :
    text? (c :: rest) = (text? rest).map fun (t, rest) ↦ (c :: t, rest) := by
  rw [text?, if_neg hquote, if_neg hslash, if_neg (by omega)]

theorem text?_escape (h : escape? text = some (d, rest)) :
    text? ('\\' :: text) = (text? rest).map fun (t, rest) ↦ (d :: t, rest) := by
  rw [text?, if_neg (by decide), if_pos rfl]
  split
  · next hnone =>
    rw [hnone] at h
    cases h
  · next hsome =>
    rw [hsome] at h
    cases h
    rfl

/-- The characters that are written as a backslash and a single character. -/
def shortlyEscaped : List Char :=
  ['"', '\\', '\n', '\r', '\t', '\x08', '\x0c']

theorem text?_jsonChar_of_mem (ascii : Bool) (h : c ∈ shortlyEscaped) (rest : Text) :
    text? (Value.jsonChar ascii c ++ rest) = (text? rest).map fun (t, rest) ↦ (c :: t, rest) := by
  simp only [shortlyEscaped, List.mem_cons, List.not_mem_nil, or_false] at h
  rcases h with rfl | rfl | rfl | rfl | rfl | rfl | rfl
  all_goals exact text?_escape rfl

/-- A character without a short escape stands as it is, or it is one or two code units. -/
theorem jsonChar_of_not_mem (ascii : Bool) (h : c ∉ shortlyEscaped) :
    Value.jsonChar ascii c =
      if c.toNat < 0x20 then "\\u" ++ Text.hex 4 c.toNat
      else if !ascii || c.toNat < 0x7f then [c]
      else if c.toNat < 0x10000 then "\\u" ++ Text.hex 4 c.toNat
      else "\\u" ++ Text.hex 4 (0xd800 + (c.toNat - 0x10000) / 0x400) ++
        "\\u" ++ Text.hex 4 (0xdc00 + (c.toNat - 0x10000) % 0x400) := by
  have hne {d : Char} (hd : d ∈ shortlyEscaped) : ¬(c == d) = true :=
    fun heq ↦ h (eq_of_beq heq ▸ hd)
  have hcode {n : Nat} (hn : Char.ofNat n ∈ shortlyEscaped) : ¬c.toNat = n := by
    rintro rfl
    exact h (c.ofNat_toNat ▸ hn)
  rw [Value.jsonChar, if_neg (hne (d := '"') (by decide)), if_neg (hne (d := '\\') (by decide)),
    if_neg (hne (d := '\n') (by decide)), if_neg (hne (d := '\r') (by decide)),
    if_neg (hne (d := '\t') (by decide)), if_neg (hcode (n := 8) (by decide)),
    if_neg (hcode (n := 12) (by decide))]

/-- A character is read from how it is written. -/
theorem text?_jsonChar (ascii : Bool) (c : Char) (rest : Text) :
    text? (Value.jsonChar ascii c ++ rest) = (text? rest).map fun (t, rest) ↦ (c :: t, rest) := by
  by_cases hshort : c ∈ shortlyEscaped
  · exact text?_jsonChar_of_mem ascii hshort rest
  have hvalid : c.toNat < 0xd800 ∨ 0xdfff < c.toNat ∧ c.toNat < 0x110000 := c.valid
  have hunit (h : c.toNat < 0x10000) :
      text? ('\\' :: 'u' :: (Text.hex 4 c.toNat ++ rest)) =
        (text? rest).map fun (t, rest) ↦ (c :: t, rest) := by
    have hescape := escape?_unit (n := c.toNat) (by omega) rest
    rw [Char.ofNat_toNat] at hescape
    exact text?_escape hescape
  rw [jsonChar_of_not_mem ascii hshort]
  by_cases hcontrol : c.toNat < 0x20
  · rw [if_pos hcontrol]
    exact hunit (by omega)
  rw [if_neg hcontrol]
  by_cases hraw : (!ascii || decide (c.toNat < 0x7f)) = true
  · rw [if_pos hraw]
    have hne {d : Char} (hd : d ∈ shortlyEscaped) : c ≠ d := fun heq ↦ hshort (heq ▸ hd)
    exact text?_plain (hne (by decide)) (hne (by decide)) (by omega)
  rw [if_neg hraw]
  by_cases hplane : c.toNat < 0x10000
  · rw [if_pos hplane]
    exact hunit hplane
  · -- What is above the first 65536 characters has twenty bits, ten for each surrogate.
    have hescape := escape?_pair (0xd800 + (c.toNat - 0x10000) / 0x400)
      (0xdc00 + (c.toNat - 0x10000) % 0x400) (by omega) (by omega) rest
    have hvalue : 0x10000 + 0x400 * (0xd800 + (c.toNat - 0x10000) / 0x400 - 0xd800) +
        (0xdc00 + (c.toNat - 0x10000) % 0x400 - 0xdc00) = c.toNat := by omega
    have hwritten (high low : Text) : "\\u".toList ++ high ++ "\\u" ++ low ++ rest =
        '\\' :: 'u' :: (high ++ '\\' :: 'u' :: (low ++ rest)) := by
      simp [List.append_assoc]
    rw [hvalue, Char.ofNat_toNat] at hescape
    rw [if_neg hplane, hwritten]
    exact text?_escape hescape

end Characters

theorem text?_flatMap_jsonChar (ascii : Bool) (text rest : Text) :
    text? (text.flatMap (Value.jsonChar ascii) ++ '"' :: rest) = some (text, rest) := by
  induction text with
  | nil => exact text?_quote rest
  | cons c text ih =>
    rw [List.flatMap_cons, List.append_assoc, text?_jsonChar, ih]
    rfl

/-! ## Numbers that are written -/

/-- Only zero starts with a zero. -/
theorem eq_zero_of_head?_ofNat {n : Nat} (h : (Text.ofNat n).head? = some '0') : n = 0 := by
  -- Without its last digit a longer number still starts with the zero.
  induction n using Nat.strongRecOn with
  | ind n ih =>
    rw [Text.ofNat] at h
    by_cases hn : n < 10
    · rw [Nat.toDigits_of_lt_base hn] at h
      have hdigit : ∀ d < 10, [d.digitChar].head? = some '0' → d = 0 := by decide
      exact hdigit n hn h
    · rw [Nat.toDigits_of_base_le (by decide) (by omega), List.head?_append,
        Option.or_of_isSome (List.isSome_head?.mpr Nat.toDigits_ne_nil)] at h
      have := ih (n / 10) (by omega) h
      omega

theorem isDigit_of_mem_ofNat {n : Nat} {c : Char} (h : c ∈ Text.ofNat n) : c.isDigit = true :=
  Nat.isDigit_of_mem_toDigits (by decide) (by decide) h

theorem natural?_ofNat (n : Nat) : natural? (Text.ofNat n) = some n := by
  have hdigits : (Text.ofNat n).all Char.isDigit = true :=
    List.all_eq_true.mpr fun _ ↦ isDigit_of_mem_ofNat
  have hne : (Text.ofNat n).isEmpty = false := List.isEmpty_eq_false_iff.mpr Nat.toDigits_ne_nil
  rw [natural?, hdigits, hne]
  exact congrArg some (Nat.ofDigitChars_toDigits (by decide) (by decide))

/-- Whether the character is part of an integer. -/
def isNumeral (c : Char) : Bool :=
  c.isDigit || c == '-'

theorem isNumeral_spec {c : Char} (h : isNumeral c = true) :
    (marks.lookup c).isNone = true ∧ c ≠ '"' ∧ isDelimiter c = false ∧
      (c == 'e' || c == 'E') = false ∧ (c == '.') = false ∧ (c ≠ 'n' ∧ c ≠ 't' ∧ c ≠ 'f') := by
  have hlt {c : Char} (h : isNumeral c = true) : c.toNat < 128 := by
    apply Mail.Field.isNameChar_lt
    rcases Bool.or_eq_true_iff.mp h with h | h
    · simp [Mail.Field.isNameChar, Char.isAlphanum, h]
    · simp [Mail.Field.isNameChar, h]
  apply Mail.Field.forall_ascii hlt _ h
  decide

theorem isNumeral_of_mem_ofInt {n : Int} {c : Char} (h : c ∈ Text.ofInt n) : isNumeral c = true := by
  have hdigit {n : Nat} (h : c ∈ Text.ofNat n) : isNumeral c = true := by
    rw [isNumeral, isDigit_of_mem_ofNat h, Bool.true_or]
  cases n with
  | ofNat n => exact hdigit h
  | negSucc n =>
    rcases List.mem_cons.mp h with rfl | h
    · rfl
    · exact hdigit h

theorem minus_ofInt (n : Int) :
    ∃ negative size, minus (Text.ofInt n) = (negative, Text.ofNat size) ∧
      signed negative size = n := by
  cases n with
  | ofNat n =>
    refine ⟨false, n, ?_, rfl⟩
    rw [Text.ofInt]
    unfold minus
    split
    · next heq =>
      have hminus : '-' ∈ Text.ofNat n := heq ▸ List.mem_cons_self
      cases isDigit_of_mem_ofNat hminus
    · rfl
  | negSucc n => exact ⟨true, n + 1, rfl, rfl⟩

theorem number?_ofInt (n : Int) : number? (Text.ofInt n) = some (.int n) := by
  obtain ⟨negative, size, hminus, hsigned⟩ := minus_ofInt n
  have hspec {c : Char} (h : c ∈ Text.ofInt n) := isNumeral_spec (isNumeral_of_mem_ofInt h)
  have hpower : Text.cut (fun c ↦ c == 'e' || c == 'E') (Text.ofInt n) = (Text.ofInt n, none) :=
    Text.cut_eq fun c hc ↦ (hspec hc).2.2.2.1
  have hplaces : Text.cut (· == '.') (Text.ofInt n) = (Text.ofInt n, none) :=
    Text.cut_eq fun c hc ↦ (hspec hc).2.2.2.2.1
  have hzero : ¬((Text.ofNat size).head? = some '0' ∧ Text.ofNat size ≠ ['0']) := by
    rintro ⟨hhead, hne⟩
    rw [eq_zero_of_head?_ofNat hhead] at hne
    exact hne rfl
  rw [number?, hpower]
  dsimp only
  rw [hplaces]
  dsimp only
  rw [hminus]
  dsimp only
  rw [natural?_ofNat, Option.bind_eq_bind, Option.bind_some, if_neg hzero]
  exact (if_pos rfl).trans (congrArg (fun n ↦ some (Value.int n)) hsigned)

/-! ## Tokens that are written -/

/-- If the text goes on, a word or a number before it has ended. -/
def IsEnded (rest : Text) : Prop :=
  ∀ c ∈ rest.head?, isDelimiter c = true

section Tokens

variable {c : Char} {text rest : Text} {v : Value} {state next : State} {token : Token}

theorem run_blank (h : isBlank c = true) : run state (c :: text) = run state text := by
  rw [run, if_pos h]

theorem run_token (hblank : isBlank c = false) (h : token? (c :: text) = some (token, rest))
    (hstep : state.step token = some next) : run state (c :: text) = run next rest := by
  rw [run, if_neg (Bool.eq_false_iff.mp hblank)]
  split
  · next hnone =>
    rw [hnone] at h
    cases h
  · next hsome =>
    rw [hsome] at h
    cases h
    rw [hstep, Option.bind_some]

theorem run_mark (hblank : isBlank c = false) (h : marks.lookup c = some token)
    (hstep : state.step token = some next) : run state (c :: text) = run next text := by
  have htoken : token? (c :: text) = some (token, text) := by rw [token?, h]
  exact run_token hblank htoken hstep

theorem token?_word {word : Text} (hmark : marks.lookup c = none) (hquote : c ≠ '"')
    (hword : ∀ d ∈ word, isDelimiter d = false) (hrest : IsEnded rest)
    (h : scalar? (c :: word) = some v) : token? (c :: (word ++ rest)) = some (.scalar v, rest) := by
  obtain ⟨htake, hdrop⟩ := Text.takeWhile_until hword hrest
  rw [token?, hmark]
  dsimp only
  rw [if_neg hquote, htake, hdrop, h]
  rfl

theorem token?_jsonText (ascii : Bool) (t rest : Text) :
    token? (Value.jsonText ascii t ++ rest) = some (.scalar (.text t), rest) := by
  have hwritten : Value.jsonText ascii t ++ rest =
      '"' :: (t.flatMap (Value.jsonChar ascii) ++ '"' :: rest) := by
    simp [Value.jsonText]
  have hmark : marks.lookup '"' = none := rfl
  rw [hwritten, token?, hmark]
  dsimp only
  rw [if_pos rfl, text?_flatMap_jsonChar]
  rfl

end Tokens

/-! ## Values that are written -/

/-- The text is read as the value wherever a value is expected. -/
def Reads (text : Text) (v : Value) : Prop :=
  ∀ mayClose frames rest, IsEnded rest →
    run (.value mayClose frames) (text ++ rest) = run (.done v frames) rest

theorem reads_word {c : Char} {word : Text} {v : Value} (hmark : (marks.lookup c).isNone = true)
    (hquote : c ≠ '"') (hword : (c :: word).all (fun d ↦ !isDelimiter d) = true)
    (h : scalar? (c :: word) = some v) : Reads (c :: word) v := by
  have hword (d : Char) (hd : d ∈ c :: word) : isDelimiter d = false := by
    simpa using List.all_eq_true.mp hword d hd
  have hblank : isBlank c = false := by
    have hc := hword c List.mem_cons_self
    rw [isDelimiter, Bool.or_eq_false_iff, Bool.or_eq_false_iff] at hc
    exact hc.1.1
  intro mayClose frames rest hrest
  have htoken : token? (c :: (word ++ rest)) = some (.scalar v, rest) :=
    token?_word (Option.isNone_iff_eq_none.mp hmark) hquote
      (fun d hd ↦ hword d (List.mem_cons_of_mem _ hd)) hrest h
  exact run_token hblank htoken rfl

theorem reads_null : Reads "null" .null :=
  reads_word rfl (by decide) rfl rfl

theorem reads_bool (ascii b : Bool) : Reads ((Value.bool b).json ascii) (.bool b) := by
  cases b with
  | true => exact reads_word rfl (by decide) rfl rfl
  | false => exact reads_word rfl (by decide) rfl rfl

theorem reads_int (n : Int) : Reads (Text.ofInt n) (.int n) := by
  have hspec {c : Char} (h : c ∈ Text.ofInt n) := isNumeral_spec (isNumeral_of_mem_ofInt h)
  have hall : (Text.ofInt n).all (fun d ↦ !isDelimiter d) = true :=
    List.all_eq_true.mpr fun c hc ↦ by simp [(hspec hc).2.2.1]
  have hnumber := number?_ofInt n
  cases hword : Text.ofInt n with
  | nil =>
    rw [hword] at hnumber
    cases hnumber
  | cons c word =>
    rw [hword] at hspec hall hnumber
    obtain ⟨hmark, hquote, -, -, -, hletters⟩ := hspec List.mem_cons_self
    have hwords : words.lookup (c :: word) = none := by
      rw [List.lookup_eq_none_iff]
      simp [words, hletters]
    have hscalar : scalar? (c :: word) = some (.int n) := by
      rw [scalar?, hwords, hnumber]
      rfl
    exact reads_word hmark hquote hall hscalar

/-- Texts are read as they are written, in ASCII or not. -/
theorem reads_text (ascii : Bool) (t : Text) : Reads (Value.jsonText ascii t) (.text t) := by
  intro mayClose frames rest _
  exact run_token (c := '"') rfl (token?_jsonText ascii t rest) rfl

variable {ascii : Bool} {frames : List Frame}

theorem isEnded_mark {c : Char} (h : isDelimiter c = true) (rest : Text) : IsEnded (c :: rest) := by
  rintro d ⟨⟩
  exact h

/-! ### Lists -/

theorem join_jsonItems (v w : Value) (items : List Value) (rest : Text) :
    Text.join Value.separator (Value.jsonItems ascii (v :: w :: items)) ++ rest =
      v.json ascii ++ ',' :: ' ' ::
        (Text.join Value.separator (Value.jsonItems ascii (w :: items)) ++ rest) := by
  simp [Value.jsonItems, Text.join, List.intercalate_cons_cons, Value.separator]

/-- The items of a list are read one by one. -/
theorem run_items {v : Value} {items : List Value} (h : ∀ w ∈ v :: items, Reads (w.json ascii) w)
    (mayClose : Bool) (before : List Value) (rest : Text) :
    run (.value mayClose (.item before :: frames))
      (Text.join Value.separator (Value.jsonItems ascii (v :: items)) ++ ']' :: rest) =
      run (.done (.list (before ++ v :: items)) frames) rest := by
  have hv := h v List.mem_cons_self
  -- By induction on the items after the first: the ones that have been read move into the frame.
  induction items generalizing v before mayClose with
  | nil =>
    have hjoin : Text.join Value.separator (Value.jsonItems ascii [v]) = v.json ascii := by
      simp [Value.jsonItems, Text.join]
    rw [hjoin, hv _ _ _ (isEnded_mark rfl rest)]
    exact run_mark rfl rfl rfl
  | cons w items ih =>
    have htail : ∀ u ∈ w :: items, Reads (u.json ascii) u :=
      fun u hu ↦ h u (List.mem_cons_of_mem _ hu)
    have hcomma (text : Text) : run (.done v (.item before :: frames)) (',' :: ' ' :: text) =
        run (.value false (.item (before ++ [v]) :: frames)) text :=
      (run_mark rfl rfl rfl).trans (run_blank rfl)
    rw [join_jsonItems, hv _ _ _ (isEnded_mark rfl _), hcomma,
      ih htail false (before ++ [v]) (htail w List.mem_cons_self), List.append_assoc,
      List.singleton_append]

theorem reads_list {items : List Value} (h : ∀ v ∈ items, Reads (v.json ascii) v) :
    Reads ((Value.list items).json ascii) (.list items) := by
  intro mayClose frames rest _
  have hopen (text : Text) :
      run (.value mayClose frames) ('[' :: text) = run (.value true (.item [] :: frames)) text :=
    run_mark rfl rfl rfl
  rw [Value.json, List.cons_append, List.cons_append, List.append_assoc, List.singleton_append, hopen]
  cases items with
  | nil => exact run_mark (c := ']') rfl rfl rfl
  | cons v items => exact run_items h true [] rest

/-! ### Objects -/

theorem join_jsonFields (key other : Text) (v w : Value) (fields : List (Text × Value)) (rest : Text) :
    Text.join Value.separator (Value.jsonFields ascii ((key, v) :: (other, w) :: fields)) ++ rest =
      Value.jsonText ascii key ++ ':' :: ' ' :: (v.json ascii ++ ',' :: ' ' ::
        (Text.join Value.separator (Value.jsonFields ascii ((other, w) :: fields)) ++ rest)) := by
  simp [Value.jsonFields, Text.join, List.intercalate_cons_cons, Value.separator]

/-- The name of a field, the colon and the value are read one by one. -/
theorem run_field {key : Text} {v : Value} (h : Reads (v.json ascii) v) (mayClose : Bool)
    (before : List (Text × Value)) {rest : Text} (hrest : IsEnded rest) :
    run (.name mayClose before frames)
      (Value.jsonText ascii key ++ ':' :: ' ' :: (v.json ascii ++ rest)) =
      run (.done v (.field before key :: frames)) rest := by
  have hname (text : Text) : run (.name mayClose before frames) (Value.jsonText ascii key ++ text) =
      run (.colon before key frames) text :=
    run_token (c := '"') rfl (token?_jsonText ascii key text) rfl
  have hcolon (text : Text) : run (.colon before key frames) (':' :: ' ' :: text) =
      run (.value false (.field before key :: frames)) text :=
    (run_mark rfl rfl rfl).trans (run_blank rfl)
  rw [hname, hcolon, h _ _ _ hrest]

/-- The fields of an object are read one by one. -/
theorem run_fields {key : Text} {v : Value} {fields : List (Text × Value)}
    (h : ∀ field ∈ (key, v) :: fields, Reads (field.2.json ascii) field.2) (mayClose : Bool)
    (before : List (Text × Value)) (rest : Text) :
    run (.name mayClose before frames)
      (Text.join Value.separator (Value.jsonFields ascii ((key, v) :: fields)) ++ '\x7d' :: rest) =
      run (.done (.object (before ++ (key, v) :: fields)) frames) rest := by
  have hv := h (key, v) List.mem_cons_self
  induction fields generalizing key v before mayClose with
  | nil =>
    have hjoin : Text.join Value.separator (Value.jsonFields ascii [(key, v)]) ++ '\x7d' :: rest =
        Value.jsonText ascii key ++ ':' :: ' ' :: (v.json ascii ++ '\x7d' :: rest) := by
      simp [Value.jsonFields, Text.join]
    rw [hjoin, run_field hv _ _ (isEnded_mark rfl rest)]
    exact run_mark rfl rfl rfl
  | cons field fields ih =>
    obtain ⟨other, w⟩ := field
    have htail : ∀ field ∈ (other, w) :: fields, Reads (field.2.json ascii) field.2 :=
      fun field hfield ↦ h field (List.mem_cons_of_mem _ hfield)
    have hcomma (text : Text) :
        run (.done v (.field before key :: frames)) (',' :: ' ' :: text) =
          run (.name false (before ++ [(key, v)]) frames) text :=
      (run_mark rfl rfl rfl).trans (run_blank rfl)
    rw [join_jsonFields, run_field hv _ _ (isEnded_mark rfl _), hcomma,
      ih htail false (before ++ [(key, v)]) (htail (other, w) List.mem_cons_self), List.append_assoc,
      List.singleton_append]

theorem reads_object {fields : List (Text × Value)}
    (h : ∀ field ∈ fields, Reads (field.2.json ascii) field.2) :
    Reads ((Value.object fields).json ascii) (.object fields) := by
  intro mayClose frames rest _
  have hopen (text : Text) :
      run (.value mayClose frames) ('\x7b' :: text) = run (.name true [] frames) text :=
    run_mark rfl rfl rfl
  rw [Value.json, List.cons_append, List.cons_append, List.append_assoc, List.singleton_append, hopen]
  cases fields with
  | nil => exact run_mark (c := '\x7d') rfl rfl rfl
  | cons field fields => exact run_fields h true [] rest

end Json

namespace Value

/-- Whether there is no fraction in a value. -/
inductive IsWhole : Value → Prop
  | null : IsWhole .null
  | bool (b : Bool) : IsWhole (.bool b)
  | int (n : Int) : IsWhole (.int n)
  | text (t : Text) : IsWhole (.text t)
  | list {items : List Value} (h : ∀ v ∈ items, IsWhole v) : IsWhole (.list items)
  | object {fields : List (Text × Value)} (h : ∀ field ∈ fields, IsWhole field.2) :
    IsWhole (.object fields)

/-- By induction on the value: every kind of value is read as it is written. -/
theorem IsWhole.reads {v : Value} (h : v.IsWhole) (ascii : Bool) : Json.Reads (v.json ascii) v := by
  induction h with
  | null => exact Json.reads_null
  | bool b => exact Json.reads_bool ascii b
  | int n => exact Json.reads_int n
  | text t => exact Json.reads_text ascii t
  | list _ ih => exact Json.reads_list ih
  | object _ ih => exact Json.reads_object ih

/-- What is written for a value is read as this value. -/
theorem IsWhole.read_json {v : Value} (h : v.IsWhole) (ascii : Bool) :
    Json.read (v.json ascii) = some v := by
  have hrun := h.reads ascii false [] [] nofun
  rw [List.append_nil] at hrun
  rw [Json.read, hrun, Json.run]

theorem fieldsFit_iff {limit : Nat} {fields : List (Text × Value)} :
    fieldsFit limit fields = true ↔ ∀ field ∈ fields, field.2.fits limit = true := by
  induction fields with
  | nil => simp [fieldsFit]
  | cons field fields ih => simp [fieldsFit, ih]

section Limits

variable [Platform] {v : Value} {ascii : Bool}

/-- A value is written if all its integers are within the limit. -/
theorem json?_of_fits (h : ∀ limit ∈ Platform.digitLimit, v.fits limit = true) :
    v.json? ascii = .ok (v.json ascii) := by
  have hnone : Platform.digitLimit.filter (fun limit ↦ !v.fits limit) = none := by
    simpa [Option.filter_eq_none_iff] using h
  rw [json?, hnone]

/-- A value with an integer beyond the limit is not written at all. -/
theorem json?_of_not_fits {limit : Nat} (hlimit : Platform.digitLimit = some limit)
    (h : v.fits limit = false) : v.json? ascii = .error (.integerTooLong limit) := by
  rw [json?, hlimit, Option.filter_some, if_pos (by rw [h]; rfl)]

end Limits

example : (Json.read "[ \"\\uD83D\\ude00\\/\" , -2.5e1,true ]\n").map (json true) =
    some "[\"\\ud83d\\ude00/\", -25.0, true]".toList := by
  decide +kernel

end Value

end MailGateway
