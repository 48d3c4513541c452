import MailGateway.Proofs.MessageContent
import MailGateway.Proofs.FieldWords

/-!
# Written fields

The lines of a mail as a writer puts them: fields that start with a name and a colon and go on in
continuation lines, an empty line, and what follows.  Splitting bytes into lines undoes writing the
lines one after the other, and the fields that were written are the fields that are read.
-/

namespace MailGateway

theorem Text.utf8EncodeChar_ascii {c : Char} (h : c.toNat < 128) :
    String.utf8EncodeChar c = [UInt8.ofNat c.toNat] := by
  have hc : c.val.toNat ≤ 127 := by
    change c.val.toNat < 128 at h
    omega
  rw [String.utf8EncodeChar]
  simp only [hc, if_true]
  rfl

theorem Text.utf8_ascii {text : Text} (h : ∀ c ∈ text, c.toNat < 128) :
    text.utf8 = text.map fun c ↦ UInt8.ofNat c.toNat := by
  induction text with
  | nil => rfl
  | cons c text ih =>
    rw [List.map_cons, ← ih fun d hd ↦ h d (List.mem_cons_of_mem _ hd)]
    simp [Text.utf8, Text.utf8EncodeChar_ascii (h c List.mem_cons_self)]

namespace Mail

/-! ## Lines -/

namespace Line

def crlf : Line := [13, 10]

/-- No line breaks inside. -/
def IsUnbroken (bytes : List UInt8) : Prop :=
  ∀ b ∈ bytes, b ≠ 10 ∧ b ≠ 13

theorem split_cons {b : UInt8} (h : b ≠ 10 ∧ b ≠ 13) (rest : List UInt8) :
    split (b :: rest) = match split rest with
      | [] => [[b]]
      | line :: lines => (b :: line) :: lines := by
  rw [split]
  · exact (if_neg (by simp [h.1, h.2])).trans rfl
  · rintro _ rfl
    exact absurd rfl h.2

theorem split_unbroken {line : List UInt8} (h : IsUnbroken line) (rest : List UInt8) :
    split (line ++ crlf ++ rest) = (line ++ crlf) :: split rest := by
  induction line with
  | nil => rfl
  | cons b line ih =>
    have ih := ih fun b hb ↦ h b (List.mem_cons_of_mem _ hb)
    rw [List.cons_append, List.cons_append, split_cons (h b List.mem_cons_self), ih]

theorem flatten_split (bytes : List UInt8) : (split bytes).flatten = bytes := by
  fun_induction split bytes with
  | case1 => rfl
  | case2 rest ih => simp [ih]
  | case3 b rest _ _ ih => simp [ih]
  | case4 b rest _ _ h ih => simp_all
  | case5 b rest _ _ line lines h ih =>
    rw [h] at ih
    rw [← ih]
    rfl

theorem split_break {b : UInt8} {rest : List UInt8} (h : b = 10 ∨ b = 13)
    (hrest : b = 13 → rest.head? ≠ some 10) : split (b :: rest) = [b] :: split rest := by
  rw [split]
  · rw [if_pos h]
  · rintro rest rfl rfl
    exact hrest rfl rfl

/-- A line end ends a line, whatever comes before and after. -/
theorem split_append (bytes rest : List UInt8) :
    split (bytes ++ crlf ++ rest) = split (bytes ++ crlf) ++ split rest := by
  fun_induction split bytes with
  | case1 => rfl
  | case2 bytes ih =>
    simp only [List.cons_append, split, ih]
  | case3 b bytes hcrlf hb ih =>
    have hhead (more : List UInt8) : b = 13 → (bytes ++ crlf ++ more).head? ≠ some 10 := by
      rintro rfl hhead
      cases bytes with
      | nil => cases hhead
      | cons c bytes => exact hcrlf bytes rfl (by rw [Option.some.inj hhead])
    have hhead' := hhead []
    rw [List.append_nil] at hhead'
    rw [List.cons_append, List.cons_append, split_break hb (hhead rest), split_break hb hhead', ih,
      List.cons_append]
  | case4 b bytes _ hb h ih | case5 b bytes _ hb line lines h ih =>
    have hb : b ≠ 10 ∧ b ≠ 13 := by simpa using hb
    rw [List.cons_append, List.cons_append, split_cons hb, split_cons hb, ih]
    cases hsplit : split (bytes ++ crlf) with
    | nil =>
      have := flatten_split (bytes ++ crlf)
      rw [hsplit] at this
      simp [crlf] at this
    | cons line lines => rfl

theorem dropEnd_append (bytes : List UInt8) : dropEnd (bytes ++ crlf) = bytes := by
  simp [dropEnd, crlf]

end Line

/-! ## Fields -/

/-- A field as it is written: its name, the rest of its first line after the colon, and the lines that
continue it. -/
structure Field.Written where
  name : List UInt8
  first : List UInt8
  more : List (List UInt8)
  name_ne_nil : name ≠ []
  isFieldNameByte_of_mem : ∀ b ∈ name, isFieldNameByte b = true
  first_isUnbroken : Line.IsUnbroken first
  more_isUnbroken : ∀ line ∈ more, Line.IsUnbroken line
  more_isContinuation : ∀ line ∈ more, Line.isContinuation line = true

namespace Field.Written

def firstLine (field : Written) : Line :=
  field.name ++ 58 :: (field.first ++ Line.crlf)

def moreLines (field : Written) : List Line :=
  field.more.map (· ++ Line.crlf)

def lines (field : Written) : List Line :=
  field.firstLine :: field.moreLines

def field (field : Written) : Field :=
  Field.ofLines field.name (field.first ++ Line.crlf ++ field.moreLines.flatten)

def linesOf (fields : List Written) : List Line :=
  fields.flatMap lines

variable (field : Written)

theorem nameByte_ne {b : UInt8} (h : isFieldNameByte b = true) :
    b ≠ 58 ∧ b ≠ 10 ∧ b ≠ 13 ∧ b ≠ 32 ∧ b ≠ 9 := by
  refine ⟨?_, ?_, ?_, ?_, ?_⟩ <;> rintro rfl <;> exact absurd h (by decide)

theorem split_moreLines {more : List (List UInt8)} (h : ∀ line ∈ more, Line.IsUnbroken line)
    (rest : List UInt8) :
    Line.split ((more.map (· ++ Line.crlf)).flatten ++ rest) =
      more.map (· ++ Line.crlf) ++ Line.split rest := by
  induction more with
  | nil => rfl
  | cons line more ih =>
    have ih := ih fun line hline ↦ h line (List.mem_cons_of_mem _ hline)
    rw [List.map_cons, List.flatten_cons, List.append_assoc,
      Line.split_unbroken (h line List.mem_cons_self), ih, List.cons_append]

theorem split_lines (rest : List UInt8) :
    Line.split (field.lines.flatten ++ rest) = field.lines ++ Line.split rest := by
  have hunbroken : Line.IsUnbroken (field.name ++ 58 :: field.first) := by
    intro b hb
    rcases List.mem_append.mp hb with hb | hb
    · have := nameByte_ne (field.isFieldNameByte_of_mem b hb)
      exact ⟨this.2.1, this.2.2.1⟩
    rcases List.mem_cons.mp hb with rfl | hb
    · decide
    · exact field.first_isUnbroken b hb
  have hfirst : field.firstLine = (field.name ++ 58 :: field.first) ++ Line.crlf := by
    simp [firstLine]
  rw [lines, List.flatten_cons, hfirst, List.append_assoc, Line.split_unbroken hunbroken, moreLines,
    split_moreLines field.more_isUnbroken, List.cons_append]

theorem split_linesOf (fields : List Written) (rest : List UInt8) :
    Line.split ((linesOf fields).flatten ++ rest) = linesOf fields ++ Line.split rest := by
  induction fields with
  | nil => rfl
  | cons field fields ih =>
    rw [linesOf, List.flatMap_cons, List.flatten_append, List.append_assoc, split_lines]
    rw [linesOf] at ih
    rw [ih, List.append_assoc]

/-! ### Recognising the lines of a field -/

theorem dropWhile_firstLine :
    (field.firstLine.dropWhile isFieldNameByte) = 58 :: (field.first ++ Line.crlf) := by
  rw [firstLine, List.dropWhile_append_of_pos field.isFieldNameByte_of_mem,
    List.dropWhile_cons_of_neg (by decide)]

theorem firstLine_isEnvelope : field.firstLine.isEnvelope = false := by
  cases hafter : Text.after? [70, 114, 111, 109, 32] field.firstLine with
  | none => simp [Line.isEnvelope, hafter]
  | some rest =>
    -- The name of the field would stop at the space.
    have hdrop := field.dropWhile_firstLine
    rw [Text.after?_eq_some.mp hafter] at hdrop
    simp [isFieldNameByte] at hdrop

theorem firstLine_isContinuation : field.firstLine.isContinuation = false := by
  unfold firstLine
  cases hname : field.name with
  | nil => exact absurd hname field.name_ne_nil
  | cons b name =>
    have hb := nameByte_ne (field.isFieldNameByte_of_mem b (by simp [hname]))
    simp [Line.isContinuation, hb]

theorem firstLine_isField : field.firstLine.isField = true := by
  simp [Line.isField, dropWhile_firstLine]

theorem name_ne_colon {b : UInt8} (h : b ∈ field.name) : (b != 58) = true := by
  simpa using (nameByte_ne (field.isFieldNameByte_of_mem b h)).1

theorem takeWhile_firstLine : field.firstLine.takeWhile (· != 58) = field.name := by
  rw [firstLine, List.takeWhile_append_of_pos fun b ↦ field.name_ne_colon,
    List.takeWhile_cons_of_neg (by decide), List.append_nil]

theorem dropWhile_firstLine_colon :
    field.firstLine.dropWhile (· != 58) = 58 :: (field.first ++ Line.crlf) := by
  rw [firstLine, List.dropWhile_append_of_pos fun b ↦ field.name_ne_colon,
    List.dropWhile_cons_of_neg (by decide)]

theorem moreLine_isContinuation {line : Line} (h : line ∈ field.moreLines) :
    line.isContinuation = true := by
  obtain ⟨more, hmore, rfl⟩ := List.mem_map.mp h
  have hmore := field.more_isContinuation more hmore
  cases more with
  | nil => cases hmore
  | cons b more => exact hmore

theorem isField_of_mem {fields : List Written} {line : Line} (h : line ∈ linesOf fields) :
    line.isField = true := by
  obtain ⟨field, -, h⟩ := List.mem_flatMap.mp h
  rcases List.mem_cons.mp h with rfl | h
  · exact field.firstLine_isField
  · simp [Line.isField, field.moreLine_isContinuation h]

/-! ### Reading the lines of fields -/

theorem fieldBlock_fields {stops : List Stop} {block : List Line} (hfree : FreeOf stops block)
    (hfield : ∀ line ∈ block, Line.isField line = true) (rest : List Line) :
    fieldBlock stops (block ++ rest) =
      (block ++ (fieldBlock stops rest).1, (fieldBlock stops rest).2) := by
  induction block with
  | nil => rfl
  | cons line block ih =>
    have ih := ih (hfree.sublist (List.sublist_cons_self ..))
      fun line hline ↦ hfield line (List.mem_cons_of_mem _ hline)
    simp only [List.cons_append, fieldBlock, hfree line List.mem_cons_self,
      hfield line List.mem_cons_self, ih]
    rfl

def finished (current : Option (List UInt8 × List UInt8)) : List Field :=
  (current.map fun (name, value) ↦ Field.ofLines name value).toList

theorem ofBlock_more {more : List Line} (h : ∀ line ∈ more, Line.isContinuation line = true)
    (name value : List UInt8) (first : Bool) (rest : List Line) :
    ∃ first', Field.ofBlock first (some (name, value)) (more ++ rest) =
      Field.ofBlock first' (some (name, value ++ more.flatten)) rest := by
  induction more generalizing value first with
  | nil => exact ⟨first, by simp⟩
  | cons line more ih =>
    obtain ⟨first', ih⟩ :=
      ih (fun line hline ↦ h line (List.mem_cons_of_mem _ hline)) (value ++ line) false
    refine ⟨first', ?_⟩
    rw [List.cons_append, Field.ofBlock, if_pos (h line List.mem_cons_self), Option.map_some, ih,
      List.flatten_cons, List.append_assoc]

theorem ofBlock_lines (fields : List Written) (first : Bool)
    (current : Option (List UInt8 × List UInt8)) :
    Field.ofBlock first current (linesOf fields) =
      (finished current ++ fields.map Written.field, []) := by
  induction fields generalizing first current with
  | nil => simp [linesOf, Field.ofBlock, finished]
  | cons field fields ih =>
    obtain ⟨first', hmore⟩ := ofBlock_more (fun _ ↦ field.moreLine_isContinuation) field.name
      (field.first ++ Line.crlf) false (linesOf fields)
    have hname : field.name.isEmpty = false := by simpa using field.name_ne_nil
    rw [linesOf, List.flatMap_cons, lines, List.cons_append, Field.ofBlock,
      field.firstLine_isContinuation, field.firstLine_isEnvelope]
    simp only [field.takeWhile_firstLine, field.dropWhile_firstLine_colon, hname, List.drop_succ_cons,
      List.drop_zero, Bool.false_eq_true, if_false]
    rw [linesOf] at hmore ih
    rw [hmore, ih]
    rfl

/-- The fields that are written are the fields that are read, and reading goes on after the empty line
behind them. -/
theorem splitFields_linesOf {stops : List Stop} {fields : List Written} {lines : List Line}
    (hfree : FreeOf stops (linesOf fields ++ [Line.crlf])) :
    splitFields stops (linesOf fields ++ Line.crlf :: lines) = (fields.map Written.field, lines) := by
  have hblock : fieldBlock stops (Line.crlf :: lines) = ([], lines) := by
    have hcrlf := hfree Line.crlf (by simp)
    simp [fieldBlock, hcrlf, show Line.crlf.isField = false from rfl,
      show Line.crlf.isEmpty = true from rfl]
  rw [splitFields, fieldBlock_fields (hfree.sublist (List.sublist_append_left ..))
    (fun _ ↦ isField_of_mem), hblock, List.append_nil, ofBlock_lines]
  rfl

end Field.Written

open Mail.Field

/-! ## Fields on one line -/

/-- Whether the character is a space or can be seen. -/
def isPrintable (c : Char) : Bool :=
  32 ≤ c.toNat && c.toNat ≤ 126

/-- The text can be written behind the name of a field. -/
structure IsFieldValue (value : Text) : Prop where
  isPrintable_of_mem : ∀ c ∈ value, isPrintable c = true
  head_ne : value.head? ≠ some ' '

theorem isPrintable_lt {c : Char} (h : isPrintable c = true) : c.toNat < 128 := by
  simp only [isPrintable, Bool.and_eq_true, decide_eq_true_eq] at h
  omega

theorem isPrintable_spec {c : Char} (h : isPrintable c = true) : c.toNat < 128 ∧
    UInt8.ofNat c.toNat ≠ 10 ∧ UInt8.ofNat c.toNat ≠ 13 ∧
    Symbol.ofByte (UInt8.ofNat c.toNat) = .scalar c ∧ c ≠ '\n' ∧ c ≠ '\r' := by
  apply forall_ascii isPrintable_lt _ h
  decide

/-- The text can be the name of a field. -/
def IsFieldName (name : Text) : Prop :=
  IsWordOf (fun c ↦ isPrintable c && isFieldNameByte (UInt8.ofNat c.toNat)) name

instance (name : Text) : Decidable (IsFieldName name) :=
  inferInstanceAs (Decidable (IsWordOf _ _))

theorem IsFieldName.utf8_eq {name : Text} (h : IsFieldName name) :
    name.utf8 = name.map fun c ↦ UInt8.ofNat c.toNat :=
  Text.utf8_ascii fun c hc ↦ (isPrintable_spec (Bool.and_eq_true_iff.mp (h.2 c hc)).1).1

theorem IsFieldValue.utf8_eq {value : Text} (h : IsFieldValue value) :
    value.utf8 = value.map fun c ↦ UInt8.ofNat c.toNat :=
  Text.utf8_ascii fun c hc ↦ (isPrintable_spec (h.isPrintable_of_mem c hc)).1

namespace Field.Written

/-- A field that is written on one line. -/
def ofTexts (name value : Text) (hname : IsFieldName name) (hvalue : IsFieldValue value) : Written where
  name := name.utf8
  first := 32 :: value.utf8
  more := []
  name_ne_nil := by
    rw [hname.utf8_eq]
    simpa using hname.1
  isFieldNameByte_of_mem := by
    intro b hb
    rw [hname.utf8_eq] at hb
    obtain ⟨c, hc, rfl⟩ := List.mem_map.mp hb
    exact (Bool.and_eq_true_iff.mp (hname.2 c hc)).2
  first_isUnbroken := by
    intro b hb
    rcases List.mem_cons.mp hb with rfl | hb
    · decide
    rw [hvalue.utf8_eq] at hb
    obtain ⟨c, hc, rfl⟩ := List.mem_map.mp hb
    have hspec := isPrintable_spec (hvalue.isPrintable_of_mem c hc)
    exact ⟨hspec.2.1, hspec.2.2.1⟩
  more_isUnbroken := by simp
  more_isContinuation := by simp

theorem ofTexts_field {name value : Text} (hname : IsFieldName name) (hvalue : IsFieldValue value) :
    (ofTexts name value hname hvalue).field = ⟨name, Symbol.ofText value⟩ := by
  have hnameText : name.utf8.map (fun b ↦ Char.ofNat b.toNat) = name := by
    rw [hname.utf8_eq, List.map_map]
    have hchar : ∀ c ∈ name,
        ((fun b : UInt8 ↦ Char.ofNat b.toNat) ∘ fun c ↦ UInt8.ofNat c.toNat) c = c := by
      intro c hc
      have hlt := (isPrintable_spec (Bool.and_eq_true_iff.mp (hname.2 c hc)).1).1
      simp only [Function.comp_apply, UInt8.toNat_ofNat', Nat.mod_eq_of_lt (show c.toNat < 256 by omega),
        Char.ofNat_toNat]
    rw [List.map_congr_left hchar, List.map_id']
  have hvalueText : value.utf8.map Symbol.ofByte = Symbol.ofText value := by
    rw [hvalue.utf8_eq, List.map_map]
    exact List.map_congr_left fun c hc ↦ (isPrintable_spec (hvalue.isPrintable_of_mem c hc)).2.2.2.1
  have hbytes : ∀ b ∈ value.utf8, (b == 10 || b == 13) = false := by
    rw [hvalue.utf8_eq]
    intro b hb
    obtain ⟨c, hc, rfl⟩ := List.mem_map.mp hb
    have hspec := isPrintable_spec (hvalue.isPrintable_of_mem c hc)
    simp [hspec.2.1, hspec.2.2.1]
  have hhead : ∀ b ∈ (value.utf8 ++ Line.crlf).head?, (b == 32 || b == 9) = false := by
    rw [hvalue.utf8_eq]
    have hne := hvalue.head_ne
    cases value with
    | nil =>
      rintro b ⟨⟩
      decide
    | cons c value =>
      rintro b ⟨⟩
      have hblank : c ≠ ' ' → (UInt8.ofNat c.toNat == 32 || UInt8.ofNat c.toNat == 9) = false := by
        apply forall_ascii isPrintable_lt _ (hvalue.isPrintable_of_mem c List.mem_cons_self)
        decide
      exact hblank fun h ↦ hne (by rw [h]; rfl)
  have hdropHead : (32 :: (value.utf8 ++ Line.crlf)).dropWhile (fun b ↦ b == 32 || b == 9) =
      value.utf8 ++ Line.crlf := by
    rw [List.dropWhile_cons_of_pos (by decide)]
    cases hvalue' : value.utf8 ++ Line.crlf with
    | nil => rfl
    | cons b rest => rw [List.dropWhile_cons_of_neg (by simp [hhead b (by rw [hvalue']; rfl)])]
  have hdropTail :
      Text.dropTail (fun b ↦ b == 10 || b == 13) (value.utf8 ++ Line.crlf) = value.utf8 := by
    have hcrlf : Text.dropTail (fun b ↦ b == 10 || b == 13) (value.utf8 ++ Line.crlf) =
        Text.dropTail (fun b ↦ b == 10 || b == 13) value.utf8 := by
      simp [Text.dropTail, Line.crlf]
    rw [hcrlf, Text.dropTail_eq fun b hb ↦ hbytes b (List.mem_of_getLast? hb)]
  have hlines : (ofTexts name value hname hvalue).first ++ Line.crlf ++
      (ofTexts name value hname hvalue).moreLines.flatten = 32 :: (value.utf8 ++ Line.crlf) := by
    simp [ofTexts, moreLines]
  rw [field, Field.ofLines, hlines, hdropHead, hdropTail, hvalueText]
  exact congrArg (Field.mk · (Symbol.ofText value)) hnameText

end Field.Written

end Mail

end MailGateway
