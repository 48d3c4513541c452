import MailGateway.Proofs.FieldWords
import MailGateway.Proofs.Utf8
import MailGateway.Mail.Message

/-!
# Reading written media types

A `Content-Type` value that is a media type with at most one parameter is read as it was written: it is
shown in one normal form, the strict reading of this form finds the media type and the parameter, and
the lenient readings that look for a boundary, a charset or the structure of the message agree with the
strict one.
-/

namespace MailGateway.Mail

open Mail.Field

/-! ## Parameters -/

/-- Texts can always be shown. -/
theorem checkShowable_ofText (text : Text) (position : Nat) :
    checkShowable position (Symbol.ofText text) = .ok () := by
  induction text generalizing position with
  | nil => rfl
  | cons c text ih => exact ih (position + 1)

theorem ContentType.check_ofTexts {contentType : ContentType} {parameters : List (Text × Text)}
    {shown : Text} (hparameters : contentType.parameters =
      parameters.map fun (name, value) ↦ (Symbol.ofText name, Symbol.ofText value))
    (hshown : contentType.shown = Symbol.ofText shown) : contentType.check = .ok () := by
  have hall : (parameters.map fun (name, value) ↦ (Symbol.ofText name, Symbol.ofText value)).forM
      checkParameter = .ok () := by
    clear hparameters
    induction parameters with
    | nil => rfl
    | cons parameter parameters ih =>
      rw [List.map_cons, List.forM_eq_forM, List.forM_cons, ← List.forM_eq_forM, ih, checkParameter,
        checkShowable_ofText, checkShowable_ofText]
      rfl
  rw [check, hparameters, hshown, hall]
  exact checkShowable_ofText shown 0

section Parameters

variable {name value : Text}

/-- A parameter without flaws. -/
def Parameter.ofTexts (name value : Text) : Parameter where
  name := Symbol.ofText name
  number := none
  extended := false
  charset := Symbol.ofText "us-ascii"
  value := some (Symbol.ofText value)
  flawed := false

/-- A parameter as it may be written, after a space. -/
def writtenParameter (quotes : Bool) (name value : Text) : Text :=
  ' ' :: (name ++ '=' :: writtenValue quotes value)

theorem readValue_eq [Platform] (p : Parameter) (h : IsWordOf isNameChar value) (quotes : Bool)
    (hextended : p.extended = false) (hflawed : p.flawed = false) :
    p.readValue (Symbol.ofText (writtenValue quotes value)) none =
      some ({ p with value := some (Symbol.ofText value) }, []) := by
  obtain ⟨shown, hvalue⟩ := value?_eq h quotes
  obtain ⟨s, rest, hwritten, hs⟩ : ∃ s rest,
      Symbol.ofText (writtenValue quotes value) = s :: rest ∧ s.eq '\'' = false := by
    cases quotes with
    | true => exact ⟨_, _, rfl, rfl⟩
    | false =>
      cases value with
      | nil => exact absurd rfl h.1
      | cons c value =>
        have hc := h.2 c List.mem_cons_self
        have hquote : Symbol.eq '\'' (.scalar c) = false := by
          apply forall_ascii isNameChar_lt _ hc
          decide
        exact ⟨_, _, rfl, hquote⟩
  rw [hwritten] at hvalue ⊢
  simp [Parameter.readValue, hs, hvalue, hextended, hflawed]

/-- A parameter is read from its name, the equals sign and its value. -/
theorem readEntry_eq [Platform] (hname : IsWordOf isNameChar name) (hvalue : IsWordOf isNameChar value)
    (quotes : Bool) :
    Parameter.readEntry (Symbol.ofText (writtenParameter quotes name value)) =
      .ok (some (Parameter.ofTexts name value), false, []) := by
  have hread (charset : List Symbol) :=
    readValue_eq ⟨Symbol.ofText name, none, false, charset, some [], false⟩ hvalue quotes rfl rfl
  obtain ⟨s, rest, hwritten, hgap⟩ : ∃ s rest, Symbol.ofText (writtenValue quotes value) = s :: rest ∧
      startsGap s = false := by
    cases quotes with
    | true => exact ⟨_, _, rfl, rfl⟩
    | false =>
      cases value with
      | nil => exact absurd rfl hvalue.1
      | cons c value =>
        exact ⟨_, _, rfl, (isPlain_spec (isNameChar_spec (hvalue.2 c List.mem_cons_self)).1).2.1⟩
  rw [hwritten] at hread
  have hgap : gap (s :: rest) = ⟨[], false, s :: rest⟩ := by
    apply gap_eq
    rintro t ⟨⟩
    exact hgap
  have htrim : Text.trimBy isBlankSymbol (Symbol.ofText name) = Symbol.ofText name :=
    (hname.mono fun hc ↦ (isNameChar_spec hc).1).trimBy_ofText
  have hsection : Parameter.readSection (.scalar '=' :: s :: rest) =
      .ok (none, false, .scalar '=' :: s :: rest) := by
    simp [Parameter.readSection, Symbol.eq, Symbol.is]
  rw [writtenParameter, Symbol.ofText_cons, Symbol.ofText_append, Symbol.ofText_cons, hwritten,
    Parameter.readEntry, Parameter.read?, name?_eq hname]
  simp [Parameter.readMarked, hsection, htrim, Symbol.eq, Symbol.is, hgap, Parameter.readQuotable,
    hread, junk, Parameter.ofTexts]

theorem readAll_eq [Platform] (hname : IsWordOf isNameChar name) (hvalue : IsWordOf isNameChar value)
    (quotes : Bool) :
    Parameter.readAll (Symbol.ofText (writtenParameter quotes name value)) =
      .ok ⟨[Parameter.ofTexts name value], false⟩ := by
  have hentry := readEntry_eq hname hvalue quotes
  rw [writtenParameter, Symbol.ofText_cons] at hentry ⊢
  rw [Parameter.readAll, hentry]
  simp [Parameter.readAll, Parameter.ofTexts]

theorem values_eq [Platform] (name value : Text) :
    Parameter.values [Parameter.ofTexts name value] =
      .ok ([(Symbol.ofText name, Symbol.ofText value)], false) := by
  have hjoined : Parameter.joined [Parameter.ofTexts name value] =
      .ok (Symbol.ofText value ++ [], false) := by
    simp only [Parameter.joined, List.mergeSort_singleton]
    rfl
  rw [List.append_nil] at hjoined
  have hnames : Parameter.names [Parameter.ofTexts name value] = [Symbol.ofText name] := by
    simp [Parameter.names, Parameter.ofTexts, List.eraseDups_cons]
  have hfilter : [Parameter.ofTexts name value].filter (·.name == Symbol.ofText name) =
      [Parameter.ofTexts name value] := by
    simp [Parameter.ofTexts]
  rw [Parameter.values, hnames]
  simp only [List.mapM_cons, hfilter, hjoined]
  rfl

theorem render_eq (hvalue : IsWordOf isNameChar value) (name : Text) :
    Parameter.render [(Symbol.ofText name, Symbol.ofText value)] =
      Symbol.ofText (writtenParameter true name value) := by
  have hne := hvalue.ofText_ne_nil
  simp [Parameter.render, hne, requote_eq hvalue.2, writtenParameter, writtenValue, Symbol.ofText_cons,
    Symbol.ofText_append, List.intercalate]

/-- One parameter is added to a media type, and the shown field ends with it. -/
theorem withParameters_eq [Platform] (hname : IsWordOf isNameChar name) (hvalue : IsWordOf isNameChar value)
    (quotes : Bool) (major minor shown : List Symbol) :
    ContentType.withParameters major minor shown false
        (Symbol.ofText (writtenParameter quotes name value)) =
      .ok ⟨major, minor, [(Symbol.ofText name, Symbol.ofText value)],
        shown ++ Symbol.ofText (writtenParameter true name value), false⟩ := by
  rw [ContentType.withParameters, readAll_eq hname hvalue quotes, ← render_eq hvalue]
  simp only [bind, Except.bind, values_eq]
  rfl

end Parameters

/-! ## Media types -/

/-- A media type as it is written, with at most one parameter, whose value may stand between
quotes. -/
structure MediaType.Written where
  major : Text
  minor : Text
  parameter : Option (Text × Text)
  quotes : Bool
  isWord_major : IsWordOf MediaType.isTokenChar major
  isWord_minor : IsWordOf MediaType.isTokenChar minor
  isWord_parameter : ∀ p ∈ parameter, IsWordOf isNameChar p.1 ∧ IsWordOf isNameChar p.2

namespace MediaType.Written

variable (written : Written)

def halves : Text :=
  written.major ++ '/' :: written.minor

/-- The media type and its parameter, if the value is written like that. -/
def textWith (quotes : Bool) : Text :=
  written.halves ++ match written.parameter with
    | none => []
    | some (name, value) => ';' :: writtenParameter quotes name value

def text : Text :=
  written.textWith written.quotes

/-- How the media type and its parameter are shown. -/
def shown : Text :=
  written.textWith true

/-- The parameters by their names in lower case. -/
def parameters : List (Text × Text) :=
  written.parameter.toList.map fun (name, value) ↦ (Text.lower (Text.lower name), value)

def mediaType : MediaType where
  name := Text.lower written.halves
  parameters := written.parameters

theorem read_textWith [Platform] (quotes : Bool) :
    ContentType.read (Symbol.ofText (written.textWith quotes)) =
      .ok ⟨Symbol.ofText written.major, Symbol.ofText written.minor,
        written.parameter.toList.map fun (name, value) ↦ (Symbol.ofText name, Symbol.ofText value),
        Symbol.ofText written.shown, false⟩ := by
  have hmajor := written.isWord_major.mono isPlain_of_isTokenChar
  have hminor := written.isWord_minor.mono isPlain_of_isTokenChar
  have hslash (rest : List Symbol) := token?_eq hmajor (.scalar '/' :: rest)
    (by rintro s ⟨⟩; rfl) (by rintro s ⟨⟩; rfl)
  rw [ContentType.read]
  cases hparameter : written.parameter with
  | none =>
    have hend := token?_eq hminor [] (by simp) (by simp)
    rw [List.append_nil] at hend
    simp [textWith, shown, halves, hparameter, Symbol.ofText_append, Symbol.ofText_cons, hslash, hend,
      Symbol.eq, Symbol.is, hmajor.trimBy_ofText, hminor.trimBy_ofText]
  | some parameter =>
    obtain ⟨name, value⟩ := parameter
    obtain ⟨hname, hvalue⟩ := written.isWord_parameter _ hparameter
    have hsemi (rest : List Symbol) := token?_eq hminor (.scalar ';' :: rest)
      (by rintro s ⟨⟩; rfl) (by rintro s ⟨⟩; rfl)
    have hmany := withParameters_eq hname hvalue quotes
    simp [textWith, shown, halves, hparameter, Symbol.ofText_append, Symbol.ofText_cons, hslash, hsemi,
      Symbol.eq, Symbol.is, hmajor.trimBy_ofText, hminor.trimBy_ofText, hmany]

theorem readShowable_textWith [Platform] (quotes : Bool) :
    ContentType.readShowable (Symbol.ofText (written.textWith quotes)) =
      .ok ⟨Symbol.ofText written.major, Symbol.ofText written.minor,
        written.parameter.toList.map fun (name, value) ↦ (Symbol.ofText name, Symbol.ofText value),
        Symbol.ofText written.shown, false⟩ := by
  rw [ContentType.readShowable, read_textWith]
  change ContentType.check _ >>= _ = _
  rw [ContentType.check_ofTexts rfl rfl]
  rfl

/-! ### Characters of a media type -/

variable {written}

theorem halves_spec {c : Char} (h : c ∈ written.halves) :
    c.toNat < 128 ∧ c ≠ ';' ∧ c ≠ '"' ∧ c ≠ '\\' ∧ c ≠ '=' ∧ Text.isBlank c = false := by
  have htoken (h : isTokenChar c = true) : c.toNat < 128 ∧ c ≠ ';' ∧ c ≠ '"' ∧ c ≠ '\\' ∧ c ≠ '=' ∧
      Text.isBlank c = false := by
    apply forall_ascii isTokenChar_lt _ h
    decide
  rcases List.mem_append.mp h with h | h
  · exact htoken (written.isWord_major.2 c h)
  rcases List.mem_cons.mp h with rfl | h
  · decide
  · exact htoken (written.isWord_minor.2 c h)

theorem halves_ne_nil (written : Written) : written.halves ≠ [] := by
  simp [halves]

theorem isMediaType_halves : isMediaType written.halves = true := by
  have hslash : ∀ c ∈ written.major, (c == '/') = false := by
    intro c hc
    apply forall_ascii isTokenChar_lt _ (written.isWord_major.2 c hc)
    decide
  rw [isMediaType, halves, Text.cut_append hslash (by decide)]
  simp [written.isWord_major.1, written.isWord_minor.1, List.all_eq_true.mpr written.isWord_major.2,
    List.all_eq_true.mpr written.isWord_minor.2]

variable (written)

/-- What is shown is the media type, alone or with a semicolon behind it. -/
theorem cut_shown : (Text.cut (· == ';') written.shown).1 = written.halves := by
  have hsemi : ∀ c ∈ written.halves, (c == ';') = false := fun c hc ↦ by
    simpa using (halves_spec hc).2.1
  rw [shown, textWith]
  cases written.parameter with
  | none => rw [List.append_nil, Text.cut_eq hsemi]
  | some parameter => rw [Text.cut_append hsemi (by decide)]

theorem shown_head {c : Char} (h : c ∈ written.shown.head?) : Text.isBlank c = false := by
  obtain ⟨d, rest, hhalves⟩ := List.exists_cons_of_ne_nil written.halves_ne_nil
  have hd : d ∈ written.halves := hhalves ▸ List.mem_cons_self
  rw [shown, textWith, hhalves] at h
  obtain rfl := Option.some.inj h
  exact (halves_spec hd).2.2.2.2.2

theorem shown_last {c : Char} (h : c ∈ written.shown.getLast?) :
    c ≠ ';' ∧ Text.isBlank c = false := by
  rw [shown, textWith] at h
  cases hparameter : written.parameter with
  | none =>
    rw [hparameter, List.append_nil] at h
    have hc := halves_spec (List.mem_of_getLast? h)
    exact ⟨hc.2.1, hc.2.2.2.2.2⟩
  | some parameter =>
    have hlast : (written.halves ++ ';' :: writtenParameter true parameter.1 parameter.2).getLast? =
        some '"' := by
      simp [writtenParameter, writtenValue, quoted, List.getLast?_append, List.getLast?_cons]
    rw [hparameter, hlast] at h
    obtain rfl := Option.some.inj h
    decide

/-- There are no blanks around a media type as it is shown. -/
theorem trim_shown : Text.trim written.shown = written.shown :=
  Text.trimBy_of_ends (fun _ ↦ written.shown_head) fun _ h ↦ (written.shown_last h).2

theorem trim_halves : Text.trim written.halves = written.halves :=
  Text.trimBy_of_ends (fun _ h ↦ (halves_spec (List.mem_of_head? h)).2.2.2.2.2)
    fun _ h ↦ (halves_spec (List.mem_of_getLast? h)).2.2.2.2.2

/-! ### What is read from a shown media type -/

theorem parse_shown [Platform] : MediaType.parse (some written.shown) = .ok written.mediaType := by
  have hempty : written.shown.isEmpty = false := by simp [shown, textWith, halves]
  have hdrop : Text.dropTail (· == ';') written.shown = written.shown :=
    Text.dropTail_eq fun c h ↦ by simpa using (written.shown_last h).1
  have hhalves : Symbol.ofText written.major ++ .scalar '/' :: Symbol.ofText written.minor =
      Symbol.ofText written.halves := by
    rw [halves, Symbol.ofText_append, Symbol.ofText_cons]
  rw [MediaType.parse, Option.getD_some, trim_shown, hempty, cut_shown, trim_halves,
    isMediaType_halves, hdrop]
  simp only [Bool.false_eq_true, if_false, Bool.not_true]
  rw [shown, readShowable_textWith]
  simp only [Bool.false_eq_true, if_false, hhalves, Symbol.toText_ofText]
  cases hparameter : written.parameter with
  | none => simp [mediaType, parameters, hparameter]
  | some parameter =>
    simp [mediaType, parameters, hparameter, setParameter, Symbol.toText_ofText]

theorem lower_halves : Text.lower written.halves =
    Text.lower written.major ++ '/' :: Text.lower written.minor := by
  have hascii {c : Char} (h : c ∈ written.halves) := (halves_spec h).1
  rw [Text.lower_ascii fun c ↦ hascii, Text.lower_ascii, Text.lower_ascii]
  · simp [halves]
  · exact fun c h ↦ hascii (by simp [halves, h])
  · exact fun c h ↦ hascii (by simp [halves, h])

end MediaType.Written

namespace ShownField

/-! ## Shown parameters -/

theorem cutParameter_eq {text : Text} (h : ∀ c ∈ text, c ≠ ';' ∧ c ≠ '"' ∧ c ≠ '\\') (rest : Text) :
    cutParameter false false (text ++ rest) =
      (text ++ (cutParameter false false rest).1, (cutParameter false false rest).2) := by
  induction text with
  | nil => rfl
  | cons c text ih =>
    obtain ⟨hsemi, hquote, hslash⟩ := h c List.mem_cons_self
    rw [List.cons_append, cutParameter]
    simp [hsemi, hquote, beq_false_of_ne hslash, ih fun d hd ↦ h d (List.mem_cons_of_mem _ hd)]

theorem cutParameter_quoted (value : Text) (h : ∀ c ∈ value, c ≠ '"' ∧ c ≠ '\\') :
    cutParameter false true (value ++ ['"']) = (value ++ ['"'], none) := by
  induction value with
  | nil => rfl
  | cons c value ih =>
    obtain ⟨hquote, hslash⟩ := h c List.mem_cons_self
    rw [List.cons_append, cutParameter]
    simp [hquote, beq_false_of_ne hslash, ih fun d hd ↦ h d (List.mem_cons_of_mem _ hd)]

theorem unquote_quoted {value : Text} (h : ∀ c ∈ value, c ≠ '\\') : unquote (quoted value) = value := by
  have hslash (text : Text) (h : ∀ c ∈ text, c ≠ '\\') :
      unquote.unescapeSlash text = text ∧ unquote.unescapeQuote text = text := by
    induction text with
    | nil => exact ⟨rfl, rfl⟩
    | cons c text ih =>
      obtain ⟨ihSlash, ihQuote⟩ := ih fun d hd ↦ h d (List.mem_cons_of_mem _ hd)
      have hc := h c List.mem_cons_self
      constructor
      · rw [unquote.unescapeSlash.eq_def]
        split
        · next heq => exact absurd (List.cons.inj heq).1 hc
        · next heq => obtain ⟨rfl, rfl⟩ := List.cons.inj heq; rw [ihSlash]
        · next heq => cases heq
      · rw [unquote.unescapeQuote.eq_def]
        split
        · next heq => exact absurd (List.cons.inj heq).1 hc
        · next heq => obtain ⟨rfl, rfl⟩ := List.cons.inj heq; rw [ihQuote]
        · next heq => cases heq
  have hinner : ((quoted value).drop 1).dropLast = value := by simp [quoted]
  have hlength : ¬(quoted value).length < 2 := by simp [quoted]
  have hends : (quoted value).head? = some '"' ∧ (quoted value).getLast? = some '"' := by
    simp [quoted, List.getLast?_cons, List.getLast?_append]
  rw [unquote, if_neg hlength, if_pos hends, hinner, (hslash value h).1, (hslash value h).2]

theorem unquote_bare {value : Text} (h : ∀ c ∈ value, c ≠ '"' ∧ c ≠ '<') : unquote value = value := by
  have hhead : ¬(value.head? = some '"' ∧ value.getLast? = some '"') :=
    fun heq ↦ (h _ (List.mem_of_head? heq.1)).1 rfl
  have hhead' : ¬(value.head? = some '<' ∧ value.getLast? = some '>') :=
    fun heq ↦ (h _ (List.mem_of_head? heq.1)).2 rfl
  rw [unquote, if_neg hhead, if_neg hhead']
  split <;> rfl

end ShownField

namespace MediaType.Written

variable (written : Written)

theorem ne_of_isNameChar {c : Char} (h : isNameChar c = true) :
    c ≠ ';' ∧ c ≠ '"' ∧ c ≠ '\\' ∧ c ≠ '=' ∧ c ≠ '<' ∧ c ≠ '/' ∧ c ≠ '*' ∧ Text.isBlank c = false := by
  apply forall_ascii isNameChar_lt _ h
  decide

theorem isNameChar_toLower {c : Char} (h : isNameChar c = true) : isNameChar c.toLower = true := by
  apply forall_ascii isNameChar_lt _ h
  decide

theorem lower_isWord {text : Text} (h : IsWordOf isNameChar text) :
    IsWordOf isNameChar (Text.lower text) := by
  rw [Text.lower_ascii fun c hc ↦ isNameChar_lt (h.2 c hc)]
  refine ⟨by simpa using h.1, fun c hc ↦ ?_⟩
  obtain ⟨d, hd, rfl⟩ := List.mem_map.mp hc
  exact isNameChar_toLower (h.2 d hd)

theorem sectionOf?_eq_none {name : Text} (h : IsWordOf isNameChar name) (value : Text) :
    ShownField.sectionOf? name value = none := by
  have hstar : ∀ c ∈ name.dropWhile fun c ↦ c.isAlphanum || c == '_', c ≠ '*' := fun c hc ↦
    (ne_of_isNameChar (h.2 c ((List.dropWhile_sublist _).subset hc))).2.2.2.2.2.2.1
  rw [ShownField.sectionOf?]
  split
  · rfl
  · next heq _ =>
    rw [heq] at hstar
    exact absurd rfl (hstar '*' List.mem_cons_self)
  · rfl

/-- The pieces of what is shown: the media type, and the parameter behind it. -/
theorem pieces_shown : (ShownField.pieces (written.shown.length + 1) written.shown) =
    written.halves ::
      (written.parameter.map fun (name, value) ↦ writtenParameter true name value).toList := by
  have hhalves : ∀ c ∈ written.halves, c ≠ ';' ∧ c ≠ '"' ∧ c ≠ '\\' := fun c hc ↦
    have h := halves_spec hc
    ⟨h.2.1, h.2.2.1, h.2.2.2.1⟩
  cases hparameter : written.parameter with
  | none =>
    rw [shown, textWith, hparameter, ShownField.pieces, ShownField.cutParameter_eq hhalves]
    simp [ShownField.cutParameter]
  | some parameter =>
    obtain ⟨name, value⟩ := parameter
    obtain ⟨hname, hvalue⟩ := written.isWord_parameter _ hparameter
    have hbefore : ∀ c ∈ ' ' :: (name ++ ['=']), c ≠ ';' ∧ c ≠ '"' ∧ c ≠ '\\' := by
      intro c hc
      rcases List.mem_cons.mp hc with rfl | hc
      · decide
      rcases List.mem_append.mp hc with hc | hc
      · have h := ne_of_isNameChar (hname.2 c hc)
        exact ⟨h.1, h.2.1, h.2.2.1⟩
      · rw [List.mem_singleton.mp hc]
        decide
    have hquoted := ShownField.cutParameter_quoted value fun c hc ↦
      have h := ne_of_isNameChar (hvalue.2 c hc)
      ⟨h.2.1, h.2.2.1⟩
    have hpiece : ShownField.cutParameter false false (writtenParameter true name value) =
        (writtenParameter true name value, none) := by
      have hsplit : writtenParameter true name value =
          (' ' :: (name ++ ['='])) ++ '"' :: (value ++ ['"']) := by
        simp [writtenParameter, writtenValue, quoted]
      rw [hsplit, ShownField.cutParameter_eq hbefore, ShownField.cutParameter]
      simp [hquoted]
    have hfuel : ∃ fuel, written.shown.length = fuel + 1 := by
      rw [shown, textWith, halves]
      exact ⟨_, by simp; rfl⟩
    obtain ⟨fuel, hfuel⟩ := hfuel
    rw [hfuel, shown, textWith, hparameter, ShownField.pieces, ShownField.cutParameter_eq hhalves,
      ShownField.cutParameter]
    simp [ShownField.pieces, hpiece]

theorem nameAndValue_halves : ShownField.nameAndValue written.halves = (written.halves, []) := by
  have hequals : ∀ c ∈ written.halves, (c == '=') = false := fun c hc ↦ by
    simpa using (halves_spec hc).2.2.2.2.1
  rw [ShownField.nameAndValue, Text.cut_eq hequals]
  simp only [trim_halves]

theorem nameAndValue_parameter {name : Text} (hname : IsWordOf isNameChar name) (value : Text) :
    ShownField.nameAndValue (writtenParameter true name value) = (Text.lower name, quoted value) := by
  have hequals : ∀ c ∈ ' ' :: name, (c == '=') = false := by
    intro c hc
    rcases List.mem_cons.mp hc with rfl | hc
    · decide
    · simpa using (ne_of_isNameChar (hname.2 c hc)).2.2.2.1
  have hblank {c : Char} (hc : c ∈ name) : Text.isBlank c = false :=
    (ne_of_isNameChar (hname.2 c hc)).2.2.2.2.2.2.2
  have htrimName : Text.trim (' ' :: name) = name := by
    have hspace : Text.trim (' ' :: name) = Text.trim name := rfl
    rw [hspace]
    exact Text.trimBy_of_ends (fun _ h ↦ hblank (List.mem_of_head? h))
      fun _ h ↦ hblank (List.mem_of_getLast? h)
  have htrimValue : Text.trim (quoted value) = quoted value := by
    apply Text.trimBy_of_ends
    · rintro c ⟨⟩
      decide
    · have hlast : (quoted value).getLast? = some '"' := by
        simp [quoted, List.getLast?_cons, List.getLast?_append]
      intro c hc
      rw [hlast] at hc
      obtain rfl := Option.some.inj hc
      decide
  rw [ShownField.nameAndValue, writtenParameter, ← List.cons_append,
    Text.cut_append hequals (by decide)]
  simp only [writtenValue, if_true, htrimName, htrimValue]

/-- The lenient reading of the shown media type finds the parameters that the strict one finds. -/
theorem parameter?_shown {key : Text} (hkey : '/' ∉ key) :
    ShownField.parameter? key written.shown =
      (written.mediaType.parameter? key).map ShownField.Value.plain := by
  have hhalves : ¬Text.lower written.halves = key := by
    rintro rfl
    exact hkey (by simp [lower_halves])
  rw [ShownField.parameter?, ShownField.parameters, pieces_shown]
  cases hparameter : written.parameter with
  | none =>
    simp [nameAndValue_halves, hhalves, parameter?, mediaType, parameters, hparameter]
  | some parameter =>
    obtain ⟨name, value⟩ := parameter
    obtain ⟨hname, hvalue⟩ := written.isWord_parameter _ hparameter
    have hunquote : ShownField.unquote (quoted value) = value :=
      ShownField.unquote_quoted fun c hc ↦ (ne_of_isNameChar (hvalue.2 c hc)).2.2.1
    have hsection := sectionOf?_eq_none (lower_isWord hname) value
    by_cases hkey : Text.lower (Text.lower name) = key
    · simp [nameAndValue_halves, nameAndValue_parameter hname value, hunquote, hsection, hhalves,
        parameter?, mediaType, parameters, hparameter, hkey]
    · have hkey' : (key == Text.lower (Text.lower name)) = false := by
        simpa using fun h ↦ hkey h.symm
      simp [nameAndValue_halves, nameAndValue_parameter hname value, hunquote, hsection, hhalves,
        parameter?, mediaType, parameters, hparameter, hkey, hkey']

theorem isWord_of_parameter? {key value : Text} (h : written.mediaType.parameter? key = some value) :
    IsWordOf isNameChar value := by
  cases hparameter : written.parameter with
  | none => simp [parameter?, mediaType, parameters, hparameter] at h
  | some parameter =>
    have hvalue : parameter.2 = value := by
      simp only [parameter?, mediaType, parameters, hparameter, Option.toList_some, List.map_cons,
        List.map_nil, List.lookup_cons, List.lookup_nil] at h
      split at h
      · exact Option.some.inj h
      · cases h
    exact hvalue ▸ (written.isWord_parameter _ hparameter).2

/-- The boundary is found in the shown field as it was written. -/
theorem boundary?_shown [Platform] :
    ShownField.boundary? written.shown = .ok (written.mediaType.parameter? "boundary") := by
  rw [ShownField.boundary?, parameter?_shown _ (by decide)]
  cases hfound : written.mediaType.parameter? "boundary" with
  | none => rfl
  | some value =>
    have hvalue := (written.isWord_of_parameter? hfound).2
    have hunquote : ShownField.unquote value = value := ShownField.unquote_bare fun c hc ↦
      have h := ne_of_isNameChar (hvalue c hc)
      ⟨h.2.1, h.2.2.2.2.1⟩
    have hdrop : Text.dropTail Text.isBlank value = value := Text.dropTail_eq fun c hc ↦
      (ne_of_isNameChar (hvalue c (List.mem_of_getLast? hc))).2.2.2.2.2.2.2
    simp only [Option.map_some, hunquote, hdrop]

/-- The charset is found in the shown field in lower case. -/
theorem charset?_shown [Platform] :
    ShownField.charset? written.shown =
      .ok ((written.mediaType.parameter? "charset").map Text.lower) := by
  rw [ShownField.charset?, parameter?_shown _ (by decide)]
  cases hfound : written.mediaType.parameter? "charset" with
  | none => rfl
  | some value =>
    have hvalue := (written.isWord_of_parameter? hfound).2
    have hascii : (value.all fun c ↦ c.toNat < 0x80) = true := by
      simpa using fun c hc ↦ isNameChar_lt (hvalue c hc)
    simp [hascii]

/-! ## What decides how a message is taken apart -/

theorem isTokenChar_lower {text : Text} (h : IsWordOf isTokenChar text) :
    ∀ c ∈ Text.lower text, isTokenChar c = true := by
  rw [Text.lower_ascii fun c hc ↦ isTokenChar_lt (h.2 c hc)]
  intro c hc
  obtain ⟨d, hd, rfl⟩ := List.mem_map.mp hc
  apply forall_ascii isTokenChar_lt _ (h.2 d hd)
  decide

theorem ne_slash {c : Char} (h : isTokenChar c = true) : c ≠ '/' := by
  rintro rfl
  exact absurd h (by decide)

/-- The structural type of a shown field is its media type. -/
theorem structuralType_shown (inDigest : Bool) :
    structuralType inDigest (some written.shown) = Text.lower written.halves := by
  have hcount {text : Text} (h : IsWordOf isTokenChar text) : (Text.lower text).count '/' = 0 :=
    List.count_eq_zero.mpr fun hmem ↦ ne_slash (isTokenChar_lower h _ hmem) rfl
  have hone : (Text.lower written.halves).count '/' = 1 := by
    rw [lower_halves, List.count_append, List.count_cons, hcount written.isWord_major,
      hcount written.isWord_minor]
    rfl
  rw [structuralType, cut_shown, trim_halves]
  simp only [hone, if_true]

theorem majorType_halves : majorType (Text.lower written.halves) = Text.lower written.major := by
  have hslash : ∀ c ∈ Text.lower written.major, (c == '/') = false := fun c hc ↦ by
    simpa using ne_slash (isTokenChar_lower written.isWord_major c hc)
  rw [majorType, lower_halves, Text.cut_append hslash (by decide)]

end MediaType.Written

end MailGateway.Mail
