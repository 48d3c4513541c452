import MailGateway.Mail.MediaType
import MailGateway.Proofs.TextParts

/-!
# Words of structured fields

How the readers of structured fields take the words that a plain writer puts: tokens, parameter names,
and values with or without quotes.  The characters of these words are ASCII, so what the readers ask
about them is decided for all of them at once.
-/

namespace MailGateway

/-! ## Texts -/

namespace Text

/-- In ASCII lower case is taken character by character. -/
theorem lower_ascii {text : Text} (h : ∀ c ∈ text, c.toNat < 128) :
    lower text = text.map Char.toLower := by
  rw [lower, if_pos (by simpa using h)]

end Text

namespace Symbol

theorem ofText_append (a b : Text) : ofText (a ++ b) = ofText a ++ ofText b :=
  List.map_append

theorem ofText_cons (c : Char) (text : Text) : ofText (c :: text) = .scalar c :: ofText text := rfl

end Symbol

namespace Mail

namespace Field

/-! ## Words without gaps -/

theorem gap_eq {symbols : List Symbol} (h : ∀ s ∈ symbols.head?, startsGap s = false) :
    gap symbols = ⟨[], false, symbols⟩ := by
  cases symbols with
  | nil => simp [gap]
  | cons s rest =>
    have hs : isSpacing s = false ∧ s.eq '(' = false := by simpa [startsGap] using h s rfl
    rw [gap]
    simp [hs]

/-- Blanks from a space or a tab on are a gap. -/
theorem gap_blanks {s : Symbol} {blanks rest : List Symbol} (hs : isSpacing s = true)
    (hblanks : ∀ t ∈ blanks, isBlankSymbol t = true)
    (hblank : ∀ t ∈ rest.head?, isBlankSymbol t = false)
    (hgap : ∀ t ∈ rest.head?, startsGap t = false) :
    gap (s :: (blanks ++ rest)) = ⟨s :: blanks, false, rest⟩ := by
  have htake : rest.takeWhile isBlankSymbol = [] := by
    cases rest with
    | nil => rfl
    | cons t rest => exact List.takeWhile_cons_of_neg (by simp [hblank t rfl])
  rw [gap, if_pos hs, List.takeWhile_append_of_pos hblanks, List.dropWhile_append_of_pos hblanks, htake,
    Text.dropWhile_eq hblank, gap_eq hgap]
  simp [Found.shownAfter]

/-- A single space is a gap. -/
theorem gap_space {symbols : List Symbol} (h : ∀ s ∈ symbols.head?, isBlankSymbol s = false)
    (h' : ∀ s ∈ symbols.head?, startsGap s = false) :
    gap (.scalar ' ' :: symbols) = ⟨[.scalar ' '], false, symbols⟩ :=
  gap_blanks rfl (List.forall_mem_nil _) h h'

variable {ends : Symbol → Bool} {content rest : List Symbol}

theorem gapValue_eq {symbols : List Symbol} (h : ∀ s ∈ symbols.head?, startsGap s = false) :
    gapValue symbols = [] := by
  cases symbols with
  | nil => rfl
  | cons s rest => simp [gapValue, h s rfl]

/-- A word between two gaps. -/
theorem wordUpTo?_gap {symbols lead trail more : List Symbol}
    (hlead : gap symbols = ⟨lead, false, content ++ more⟩) (hne : content ≠ [])
    (hcontent : ∀ s ∈ content, ends s = false) (hends : ∀ s ∈ more.head?, ends s = true)
    (htrail : gap more = ⟨trail, false, rest⟩) :
    wordUpTo? ends symbols =
      some ⟨lead ++ (content ++ trail), content, gapValue symbols ++ (content ++ gapValue more), false,
        rest⟩ := by
  cases content with
  | nil => exact absurd rfl hne
  | cons s content =>
    obtain ⟨htake, hdrop⟩ := Text.takeWhile_until
      (fun t ht ↦ hcontent t (List.mem_cons_of_mem _ ht)) hends
    simp only [wordUpTo?, hlead, List.cons_append, hcontent s List.mem_cons_self, htake, hdrop, htrail]
    simp

/-- A word after a gap, up to a symbol that ends it. -/
theorem wordUpTo?_eq {symbols lead : List Symbol} (hgap : gap symbols = ⟨lead, false, content ++ rest⟩)
    (hne : content ≠ []) (hcontent : ∀ s ∈ content, ends s = false)
    (hends : ∀ s ∈ rest.head?, ends s = true) (hrest : ∀ s ∈ rest.head?, startsGap s = false) :
    wordUpTo? ends symbols =
      some ⟨lead ++ content, content, gapValue symbols ++ content, false, rest⟩ := by
  rw [wordUpTo?_gap hgap hne hcontent hends (gap_eq hrest), gapValue_eq hrest, List.append_nil]

/-! ## Characters of tokens -/

/-- What is true of the characters of a condition that only ASCII satisfies can be decided. -/
theorem forall_ascii {condition : Char → Bool} {P : Char → Prop}
    (hascii : ∀ {c}, condition c = true → c.toNat < 128)
    (h : ∀ n < 128, condition (Char.ofNat n) = true → P (Char.ofNat n)) {c : Char}
    (hc : condition c = true) : P c := by
  have hdecided := h c.toNat (hascii hc)
  rw [Char.ofNat_toNat] at hdecided
  exact hdecided hc

/-- Whether the character may stand in a token: it can be seen, it is ASCII, and it does not end
tokens. -/
def isPlain (c : Char) : Bool :=
  33 ≤ c.toNat && c.toNat ≤ 126 && !endsToken (.scalar c)

/-- Whether the character is a letter or a digit of ASCII, or a hyphen. -/
def isNameChar (c : Char) : Bool :=
  c.isAlphanum || c == '-'

theorem isPlain_lt {c : Char} (h : isPlain c = true) : c.toNat < 128 := by
  simp only [isPlain, Bool.and_eq_true, decide_eq_true_eq] at h
  omega

theorem isAlphanum_lt {c : Char} (h : c.isAlphanum = true) : c.toNat < 128 := by
  change ((decide ('A'.val ≤ c.val ∧ c.val ≤ 'Z'.val) ||
    (decide ('a'.val ≤ c.val) && decide (c.val ≤ 'z'.val))) ||
    (decide ('0'.val ≤ c.val) && decide (c.val ≤ '9'.val))) = true at h
  simp only [Bool.or_eq_true, Bool.and_eq_true, decide_eq_true_eq, UInt32.le_iff_toNat_le] at h
  have hupper : 'Z'.val.toNat = 90 := rfl
  have hlower : 'z'.val.toNat = 122 := rfl
  have hdigit : '9'.val.toNat = 57 := rfl
  change c.val.toNat < 128
  omega

theorem isTokenChar_lt {c : Char} (h : MediaType.isTokenChar c = true) : c.toNat < 128 := by
  rcases Bool.or_eq_true_iff.mp h with h | h
  · exact isAlphanum_lt h
  · have hall : ("!#$%&'*+.^_`|~-" : Text).all (fun d ↦ d.toNat < 128) = true := by decide
    simpa using List.all_eq_true.mp hall c (List.contains_iff_mem.mp h)

theorem isNameChar_lt {c : Char} (h : isNameChar c = true) : c.toNat < 128 := by
  rcases Bool.or_eq_true_iff.mp h with h | h
  · exact isAlphanum_lt h
  · rw [beq_iff_eq.mp h]
    decide

theorem isPlain_of_isTokenChar {c : Char} (h : MediaType.isTokenChar c = true) :
    isPlain c = true := by
  apply forall_ascii isTokenChar_lt _ h
  decide

theorem isNameChar_spec {c : Char} (h : isNameChar c = true) :
    isPlain c = true ∧ endsName (.scalar c) = false ∧ endsValue (.scalar c) = false := by
  apply forall_ascii isNameChar_lt _ h
  decide

theorem isNameChar_other {c : Char} (h : isNameChar c = true) :
    isSpacing (.scalar c) = false ∧ Symbol.eq '"' (.scalar c) = false ∧
      Symbol.eq '\\' (.scalar c) = false ∧ c ≠ '=' := by
  apply forall_ascii isNameChar_lt _ h
  decide

theorem isPlain_spec {c : Char} (h : isPlain c = true) :
    endsToken (.scalar c) = false ∧ startsGap (.scalar c) = false ∧
      isBlankSymbol (.scalar c) = false := by
  apply forall_ascii isPlain_lt _ h
  decide

/-! ## Words of plain characters -/

/-- The text is not empty, and all of its characters satisfy the condition. -/
def IsWordOf (condition : Char → Bool) (text : Text) : Prop :=
  text ≠ [] ∧ ∀ c ∈ text, condition c = true

instance (condition : Char → Bool) (text : Text) : Decidable (IsWordOf condition text) :=
  decidable_of_iff (text ≠ [] ∧ text.all condition = true) (by rw [List.all_eq_true, IsWordOf])

section Words

variable {text : Text}

theorem IsWordOf.mono {p q : Char → Bool} (h : IsWordOf p text)
    (hpq : ∀ {c}, p c = true → q c = true) : IsWordOf q text :=
  ⟨h.1, fun c hc ↦ hpq (h.2 c hc)⟩

theorem IsWordOf.ofText_ne_nil {p : Char → Bool} (h : IsWordOf p text) : Symbol.ofText text ≠ [] := by
  simpa [Symbol.ofText] using h.1

theorem forall_ofText {P : Symbol → Prop} (h : ∀ c ∈ text, P (.scalar c)) :
    ∀ s ∈ Symbol.ofText text, P s := by
  intro s hs
  obtain ⟨c, hc, rfl⟩ := List.mem_map.mp hs
  exact h c hc

theorem IsWordOf.gap_append (h : IsWordOf isPlain text) (rest : List Symbol) :
    gap (Symbol.ofText text ++ rest) = ⟨[], false, Symbol.ofText text ++ rest⟩ := by
  apply gap_eq
  cases text with
  | nil => exact absurd rfl h.1
  | cons c text =>
    rintro s ⟨⟩
    exact (isPlain_spec (h.2 c List.mem_cons_self)).2.1

theorem IsWordOf.gap_space_append (h : IsWordOf isPlain text) (rest : List Symbol) :
    gap (.scalar ' ' :: (Symbol.ofText text ++ rest)) =
      ⟨[.scalar ' '], false, Symbol.ofText text ++ rest⟩ := by
  cases text with
  | nil => exact absurd rfl h.1
  | cons c text =>
    have hc := isPlain_spec (h.2 c List.mem_cons_self)
    apply gap_space
    · rintro s ⟨⟩
      exact hc.2.2
    · rintro s ⟨⟩
      exact hc.2.1

theorem IsWordOf.gapValue_append (h : IsWordOf isPlain text) (rest : List Symbol) :
    gapValue (Symbol.ofText text ++ rest) = [] := by
  apply gapValue_eq
  cases text with
  | nil => exact absurd rfl h.1
  | cons c text =>
    rintro s ⟨⟩
    exact (isPlain_spec (h.2 c List.mem_cons_self)).2.1

theorem IsWordOf.trimBy_ofText (h : IsWordOf isPlain text) :
    Text.trimBy isBlankSymbol (Symbol.ofText text) = Symbol.ofText text := by
  have hblank : ∀ s ∈ Symbol.ofText text, isBlankSymbol s = false :=
    forall_ofText fun c hc ↦ (isPlain_spec (h.2 c hc)).2.2
  exact Text.trimBy_of_ends (fun s hs ↦ hblank s (List.mem_of_head? hs))
    fun s hs ↦ hblank s (List.mem_of_getLast? hs)

/-- A token up to a symbol that ends it. -/
theorem token?_eq (h : IsWordOf isPlain text) (rest : List Symbol)
    (hends : ∀ s ∈ rest.head?, endsToken s = true) (hrest : ∀ s ∈ rest.head?, startsGap s = false) :
    token? (Symbol.ofText text ++ rest) =
      some ⟨Symbol.ofText text, Symbol.ofText text, Symbol.ofText text, false, rest⟩ := by
  have hcontent : ∀ s ∈ Symbol.ofText text, endsToken s = false :=
    forall_ofText fun c hc ↦ (isPlain_spec (h.2 c hc)).1
  rw [token?, wordUpTo?_eq (h.gap_append rest) h.ofText_ne_nil hcontent hends hrest,
    h.gapValue_append]
  rfl

/-- Of the blanks, only a space and a tab end tokens. -/
theorem endsToken_of_isBlank {s : Symbol} (h : isBlankSymbol s = true) :
    endsToken s = isSpacing s := by
  cases s with
  | byte | surrogate => cases h
  | scalar c =>
    cases hends : endsToken (.scalar c) with
    | false =>
      have hspacing : isSpacing (.scalar c) ≠ true := by
        intro hspacing
        rcases (by simpa [isSpacing, Symbol.is] using hspacing : c = ' ' ∨ c = '\t') with rfl | rfl
        all_goals cases hends
      exact (eq_false_of_ne_true hspacing).symm
    | true =>
      have hc : c ∈ specials ++ ['/', '?', '=', ' ', '\t'] := by
        simp only [endsToken, Symbol.is, Bool.or_eq_true, Bool.and_eq_true, List.contains_iff_mem,
          beq_iff_eq] at hends
        simp only [List.mem_append, List.mem_cons]
        tauto
      have hall : (specials ++ ['/', '?', '=', ' ', '\t']).all
          (fun d ↦ !isBlankSymbol (.scalar d) || isSpacing (.scalar d)) = true := by decide
      have hspacing := List.all_eq_true.mp hall c hc
      rw [h] at hspacing
      exact hspacing.symm

/-- A token with blanks after it.  Those before the first space or tab count as a part of it, but its
trimmed content is the token. -/
theorem token?_blanks {blanks : Text} {rest : List Symbol} (h : IsWordOf isPlain text)
    (hblanks : ∀ c ∈ blanks, Text.isBlank c = true) (hends : ∀ s ∈ rest.head?, endsToken s = true)
    (hblank : ∀ s ∈ rest.head?, isBlankSymbol s = false)
    (hgap : ∀ s ∈ rest.head?, startsGap s = false) :
    ∃ word, token? (Symbol.ofText text ++ (Symbol.ofText blanks ++ rest)) = some word ∧
      Text.trimBy isBlankSymbol word.content = Symbol.ofText text ∧ word.rest = rest := by
  have hsymbols : ∀ s ∈ Symbol.ofText blanks, isBlankSymbol s = true := forall_ofText hblanks
  generalize Symbol.ofText blanks = symbols at hsymbols
  obtain ⟨kept, dropped, rfl, hkept, hdropped⟩ : ∃ kept dropped, symbols = kept ++ dropped ∧
      (∀ s ∈ kept, isSpacing s = false) ∧ ∀ s ∈ dropped.head?, isSpacing s = true := by
    refine ⟨symbols.takeWhile (!isSpacing ·), symbols.dropWhile (!isSpacing ·),
      List.takeWhile_append_dropWhile.symm, ?_, ?_⟩
    · intro s hs
      simpa using List.mem_takeWhile_imp hs
    · intro s hs
      simpa using Text.head?_dropWhile hs
  rw [List.forall_mem_append] at hsymbols
  have hcontent : ∀ s ∈ Symbol.ofText text ++ kept, endsToken s = false := by
    rw [List.forall_mem_append]
    refine ⟨forall_ofText fun c hc ↦ (isPlain_spec (h.2 c hc)).1, fun s hs ↦ ?_⟩
    rw [endsToken_of_isBlank (hsymbols.1 s hs), hkept s hs]
  have hmore : ∀ s ∈ (dropped ++ rest).head?, endsToken s = true := by
    cases dropped with
    | nil => exact hends
    | cons s dropped =>
      rintro s ⟨⟩
      rw [endsToken_of_isBlank (hsymbols.2 s List.mem_cons_self), hdropped s rfl]
  obtain ⟨trail, htrail⟩ : ∃ trail, gap (dropped ++ rest) = ⟨trail, false, rest⟩ := by
    cases dropped with
    | nil => exact ⟨[], gap_eq hgap⟩
    | cons s dropped =>
      exact ⟨_, gap_blanks (hdropped s rfl) (fun t ht ↦ hsymbols.2 t (List.mem_cons_of_mem _ ht))
        hblank hgap⟩
  have hlead := h.gap_append (kept ++ (dropped ++ rest))
  rw [← List.append_assoc] at hlead
  have hne : Symbol.ofText text ++ kept ≠ [] := List.append_ne_nil_of_left_ne_nil h.ofText_ne_nil kept
  rw [List.append_assoc kept, ← List.append_assoc]
  refine ⟨_, wordUpTo?_gap hlead hne hcontent hmore htrail, ?_, rfl⟩
  exact (Text.trimBy_append_right hsymbols.1 _).trans h.trimBy_ofText

/-- A name is read up to the equals sign, with the blank before it. -/
theorem name?_eq (h : IsWordOf isNameChar text) (rest : List Symbol) :
    name? (.scalar ' ' :: (Symbol.ofText text ++ .scalar '=' :: rest)) =
      some ⟨.scalar ' ' :: Symbol.ofText text, Symbol.ofText text, .scalar ' ' :: Symbol.ofText text,
        false, .scalar '=' :: rest⟩ := by
  have hplain : IsWordOf isPlain text := h.mono fun hc ↦ (isNameChar_spec hc).1
  have hcontent : ∀ s ∈ Symbol.ofText text, endsName s = false :=
    forall_ofText fun c hc ↦ (isNameChar_spec (h.2 c hc)).2.1
  rw [name?, wordUpTo?_eq (hplain.gap_space_append _) hplain.ofText_ne_nil hcontent]
  · rfl
  · rintro s ⟨⟩
    rfl
  · rintro s ⟨⟩
    rfl

def quoted (text : Text) : Text :=
  '"' :: text ++ ['"']

theorem quotedRun_eq (h : ∀ c ∈ text, isNameChar c = true) (rest : List Symbol) :
    quotedRun (Symbol.ofText text ++ .scalar '"' :: rest) =
      (Symbol.ofText text, .scalar '"' :: rest) := by
  induction text with
  | nil =>
    change quotedRun (.scalar '"' :: rest) = _
    rw [quotedRun.eq_def]
    rfl
  | cons c text ih =>
    obtain ⟨hspace, hquote, hslash, -⟩ := isNameChar_other (h c List.mem_cons_self)
    change quotedRun (.scalar c :: (Symbol.ofText text ++ .scalar '"' :: rest)) = _
    rw [quotedRun.eq_def]
    simp only [hspace, hquote, hslash, Bool.or_self, Bool.false_eq_true, if_false,
      ih fun d hd ↦ h d (List.mem_cons_of_mem _ hd)]
    rfl

theorem take?_eq_none [Platform] {c : Char} (h : isNameChar c = true) (rest : List Symbol) :
    EncodedWord.take? (.scalar c :: rest) = none := by
  have hne : ¬('=' = c) := fun heq ↦ (isNameChar_other h).2.2.2 heq.symm
  have hafter : Text.after? (Symbol.ofText "=?") (.scalar c :: rest) = none := by
    simp [Symbol.ofText, Text.after?, hne]
  rw [EncodedWord.take?, EncodedWord.inner?, hafter]

theorem quotedContent_eq [Platform] (h : IsWordOf isNameChar text) (rest : List Symbol) :
    quotedContent [] false (Symbol.ofText text ++ .scalar '"' :: rest) =
      ⟨Symbol.ofText text, false, rest⟩ := by
  have hrun := quotedRun_eq h.2 rest
  cases text with
  | nil => exact absurd rfl h.1
  | cons c text =>
    have hc := h.2 c List.mem_cons_self
    obtain ⟨hspace, hquote, -, -⟩ := isNameChar_other hc
    change quotedContent [] false (.scalar c :: (Symbol.ofText text ++ .scalar '"' :: rest)) = _
    rw [quotedContent]
    change quotedRun (.scalar c :: (Symbol.ofText text ++ .scalar '"' :: rest)) = _ at hrun
    simp only [hspace, hquote, take?_eq_none hc, hrun, Bool.false_eq_true, if_false]
    rw [if_pos (by simp [Symbol.ofText]), quotedContent]
    simp [Symbol.eq, Symbol.is, piecesContent]

theorem requote_eq (h : ∀ c ∈ text, isNameChar c = true) :
    requote (Symbol.ofText text) = Symbol.ofText (quoted text) := by
  have hflat : (Symbol.ofText text).flatMap (fun s ↦
      if s.is fun c ↦ c == '\\' || c == '"' then [.scalar '\\', s] else [s]) = Symbol.ofText text := by
    induction text with
    | nil => rfl
    | cons c text ih =>
      obtain ⟨-, hquote, hslash, -⟩ := isNameChar_other (h c List.mem_cons_self)
      have hc : Symbol.is (fun c ↦ c == '\\' || c == '"') (.scalar c) = false := by
        simp only [Symbol.eq, Symbol.is] at hquote hslash
        simp [Symbol.is, hquote, hslash]
      simp only [Symbol.ofText, List.map_cons, List.flatMap_cons, hc, Bool.false_eq_true, if_false]
      rw [Symbol.ofText] at ih
      rw [ih fun d hd ↦ h d (List.mem_cons_of_mem _ hd)]
      rfl
  rw [requote, hflat]
  simp [quoted, Symbol.ofText]

variable {value : Text}

/-- A value as it may be written, bare or between quotes. -/
def writtenValue (quotes : Bool) (value : Text) : Text :=
  if quotes then quoted value else value

theorem ofText_quoted (text : Text) :
    Symbol.ofText (quoted text) = .scalar '"' :: (Symbol.ofText text ++ [.scalar '"']) := by
  rw [quoted, List.cons_append, Symbol.ofText_cons, Symbol.ofText_append]
  rfl

theorem gap_nil : gap [] = ⟨[], false, []⟩ := by
  rw [gap]

theorem quotedString_eq [Platform] (h : IsWordOf isNameChar value) :
    quotedString (Symbol.ofText (quoted value)) =
      ⟨Symbol.ofText (quoted value), Symbol.ofText value, Symbol.ofText value, false, []⟩ := by
  have hcontent := quotedContent_eq h []
  rw [quotedString, ofText_quoted, List.drop_succ_cons, List.drop_zero]
  simp only [hcontent, gap_nil, requote_eq h.2, ofText_quoted, gapValue, List.append_nil, Bool.or_self]

theorem value?_eq [Platform] (h : IsWordOf isNameChar value) (quotes : Bool) :
    ∃ shown, value? (Symbol.ofText (writtenValue quotes value)) =
      some ⟨shown, Symbol.ofText value, Symbol.ofText value, false, []⟩ := by
  cases quotes with
  | true =>
    have hgap : gap (Symbol.ofText (quoted value)) = ⟨[], false, Symbol.ofText (quoted value)⟩ := by
      apply gap_eq
      rintro s ⟨⟩
      rfl
    have hstring := quotedString_eq h
    have hvalue : gapValue (Symbol.ofText (quoted value)) = [] := rfl
    rw [ofText_quoted] at hgap hstring hvalue
    refine ⟨Symbol.ofText (quoted value), ?_⟩
    rw [writtenValue, if_pos rfl, ofText_quoted, value?, hgap]
    simp [Symbol.eq, Symbol.is, hstring, hvalue]
  | false =>
    have hplain : IsWordOf isPlain value := h.mono fun hc ↦ (isNameChar_spec hc).1
    have hgap := hplain.gap_append []
    have hvalue := hplain.gapValue_append []
    have hcontent : ∀ s ∈ Symbol.ofText value, endsValue s = false :=
      forall_ofText fun c hc ↦ (isNameChar_spec (h.2 c hc)).2.2
    have hword := wordUpTo?_eq hgap hplain.ofText_ne_nil hcontent (by simp) (by simp)
    rw [List.append_nil] at hgap hvalue hword
    cases value with
    | nil => exact absurd rfl h.1
    | cons c value =>
      have hquote := (isNameChar_other (h.2 c List.mem_cons_self)).2.1
      rw [Symbol.ofText_cons] at hgap hvalue hword
      refine ⟨Symbol.ofText (c :: value), ?_⟩
      rw [writtenValue, if_neg (by decide), Symbol.ofText_cons, value?, hgap]
      simp [hquote, hword, hvalue]

end Words

end Field

end Mail

end MailGateway
