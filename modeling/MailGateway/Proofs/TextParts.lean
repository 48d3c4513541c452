import MailGateway.Text.Blank
import Mathlib.Data.List.DropRight

/-!
# Parts of texts

What is left of a text that is cut at a mark, trimmed at its ends, or read behind a start that it has, and
how the text is put together again from its parts.
-/

namespace MailGateway.Text

variable {α : Type} {p q : α → Bool}

/-! ## Cuts -/

theorem cut_eq {text : List α} (h : ∀ a ∈ text, p a = false) : cut p text = (text, none) := by
  induction text with
  | nil => rfl
  | cons a text ih =>
    rw [cut, h a List.mem_cons_self, ih fun b hb ↦ h b (List.mem_cons_of_mem _ hb)]
    rfl

theorem cut_append {text : List α} (h : ∀ a ∈ text, p a = false) {a : α} (ha : p a = true)
    (rest : List α) : cut p (text ++ a :: rest) = (text, some rest) := by
  induction text with
  | nil => rw [List.nil_append, cut, if_pos ha]
  | cons b text ih =>
    rw [List.cons_append, cut, h b List.mem_cons_self, ih fun b hb ↦ h b (List.mem_cons_of_mem _ hb)]
    rfl

theorem cut_eq_some {text first rest : List α} :
    cut p text = (first, some rest) ↔
      ∃ a, text = first ++ a :: rest ∧ p a = true ∧ ∀ b ∈ first, p b = false := by
  constructor
  · intro h
    induction text generalizing first with
    | nil => cases h
    | cons b text ih =>
      rw [cut] at h
      split at h
      · next hb =>
        cases h
        exact ⟨b, rfl, hb, List.forall_mem_nil _⟩
      · next hb =>
        obtain ⟨rfl, hrest⟩ := Prod.mk.inj h
        obtain ⟨a, htext, ha, hfirst⟩ := ih (Prod.ext rfl hrest)
        refine ⟨a, congrArg (b :: ·) htext, ha, ?_⟩
        exact List.forall_mem_cons.mpr ⟨eq_false_of_ne_true hb, hfirst⟩
  · rintro ⟨a, rfl, ha, hfirst⟩
    exact cut_append hfirst ha rest

theorem cut_fst (p : α → Bool) (text : List α) : (cut p text).1 = text.takeWhile (!p ·) := by
  induction text with
  | nil => rfl
  | cons a text ih =>
    rw [cut, List.takeWhile_cons]
    cases p a with
    | true => rfl
    | false => exact congrArg (a :: ·) ih

/-! ## Starts and ends that a text has -/

theorem after?_eq_some [BEq α] [LawfulBEq α] {start text rest : List α} :
    after? start text = some rest ↔ text = start ++ rest := by
  induction start generalizing text with
  | nil => simp [after?]
  | cons a start ih =>
    cases text with
    | nil => simp [after?]
    | cons b text =>
      by_cases hab : a = b
      · subst hab
        simp [after?, ih]
      · have hba : ¬b = a := fun h ↦ hab h.symm
        simp [after?, hab, hba]

theorem before?_eq_some [BEq α] [LawfulBEq α] {finish text rest : List α} :
    before? finish text = some rest ↔ text = rest ++ finish := by
  rw [before?, Option.map_eq_some_iff]
  constructor
  · rintro ⟨found, hfound, rfl⟩
    rw [← text.reverse_reverse, after?_eq_some.mp hfound]
    simp
  · rintro rfl
    exact ⟨rest.reverse, after?_eq_some.mpr (by simp), by simp⟩

/-! ## Elements that are dropped at the start -/

theorem dropWhile_eq {text : List α} (h : ∀ a ∈ text.head?, p a = false) :
    text.dropWhile p = text := by
  cases text with
  | nil => rfl
  | cons a text => exact List.dropWhile_cons_of_neg (by simp [h a rfl])

/-- What is left does not start with what is dropped. -/
theorem head?_dropWhile {text : List α} {a : α} (h : a ∈ (text.dropWhile p).head?) : p a = false := by
  have hstop := List.head?_dropWhile_not p text
  rw [Option.mem_def.mp h] at hstop
  exact hstop

theorem dropWhile_append_stop {rest : List α} (h : ∀ a ∈ rest.head?, p a = false) (text : List α) :
    (text ++ rest).dropWhile p = text.dropWhile p ++ rest := by
  rw [List.dropWhile_append, dropWhile_eq h]
  split
  · next hempty => rw [List.isEmpty_iff.mp hempty, List.nil_append]
  · rfl

/-- Dropping fewer elements first makes no difference. -/
theorem dropWhile_dropWhile_append (h : ∀ a, p a = true → q a = true) (text rest : List α) :
    (text.dropWhile p ++ rest).dropWhile q = (text ++ rest).dropWhile q := by
  induction text with
  | nil => rfl
  | cons a text ih =>
    cases ha : p a with
    | true =>
      rw [List.dropWhile_cons_of_pos ha, ih, List.cons_append, List.dropWhile_cons_of_pos (h a ha)]
    | false => rw [List.dropWhile_cons_of_neg (by simp [ha])]

/-- A text is taken up to the first element that stops it. -/
theorem takeWhile_until {text rest : List α} (htext : ∀ a ∈ text, p a = false)
    (hrest : ∀ a ∈ rest.head?, p a = true) :
    (text ++ rest).takeWhile (!p ·) = text ∧ (text ++ rest).dropWhile (!p ·) = rest := by
  have hpos : ∀ a ∈ text, (!p a) = true := fun a ha ↦ by rw [htext a ha]; rfl
  rw [List.takeWhile_append_of_pos hpos, List.dropWhile_append_of_pos hpos]
  cases rest with
  | nil => simp
  | cons a rest => simp [hrest a rfl]

theorem mem_dropWhile {text : List α} {a : α} (hmem : a ∈ text) (ha : p a = false) :
    a ∈ text.dropWhile p := by
  induction text with
  | nil => cases hmem
  | cons b text ih =>
    rw [List.dropWhile_cons]
    split
    · next hb =>
      rcases List.mem_cons.mp hmem with rfl | hmem
      · rw [ha] at hb
        cases hb
      · exact ih hmem
    · exact hmem

/-! ## Elements that are dropped at the end -/

theorem dropTail_append_dropped {rest : List α} (h : ∀ a ∈ rest, p a = true) (text : List α) :
    dropTail p (text ++ rest) = dropTail p text := by
  rw [dropTail, List.reverse_append,
    List.dropWhile_append_of_pos fun a ha ↦ h a (List.mem_reverse.mp ha), dropTail]

/-- Nothing is dropped before an element that stays. -/
theorem dropTail_append_kept {text : List α} (h : ∀ a ∈ text.getLast?, p a = false) (rest : List α) :
    dropTail p (text ++ rest) = text ++ dropTail p rest := by
  rw [List.getLast?_eq_head?_reverse] at h
  rw [dropTail, List.reverse_append, dropWhile_append_stop h, List.reverse_append,
    List.reverse_reverse, dropTail]

theorem dropTail_eq {text : List α} (h : ∀ a ∈ text.getLast?, p a = false) :
    dropTail p text = text := by
  have hkept := dropTail_append_kept h []
  have hnil : dropTail p ([] : List α) = [] := rfl
  rwa [hnil, List.append_nil] at hkept

theorem dropTail_prefix (p : α → Bool) (text : List α) : dropTail p text <+: text :=
  List.rdropWhile_prefix p text

theorem head?_dropTail {text : List α} {a : α} (h : a ∈ (dropTail p text).head?) : a ∈ text.head? := by
  obtain ⟨rest, hkept⟩ := List.head?_eq_some_iff.mp (Option.mem_def.mp h)
  obtain ⟨dropped, hdropped⟩ := dropTail_prefix p text
  rw [← hdropped, hkept]
  rfl

/-! ## Trimmed texts -/

/-- A text that neither starts nor ends with a blank is trimmed. -/
theorem trimBy_of_ends {text : List α} (hhead : ∀ a ∈ text.head?, p a = false)
    (hlast : ∀ a ∈ text.getLast?, p a = false) : trimBy p text = text := by
  rw [trimBy, dropWhile_eq hhead, dropTail_eq hlast]

theorem head?_trimBy {text : List α} {a : α} (h : a ∈ (trimBy p text).head?) : p a = false :=
  head?_dropWhile (head?_dropTail h)

theorem getLast?_trimBy {text : List α} {a : α} (h : a ∈ (trimBy p text).getLast?) : p a = false := by
  rw [trimBy, dropTail, List.getLast?_reverse] at h
  exact head?_dropWhile h

theorem trimBy_append_left {lead : List α} (h : ∀ a ∈ lead, p a = true) (text : List α) :
    trimBy p (lead ++ text) = trimBy p text := by
  rw [trimBy, List.dropWhile_append_of_pos h, trimBy]

theorem trimBy_append_right {trail : List α} (h : ∀ a ∈ trail, p a = true) (text : List α) :
    trimBy p (text ++ trail) = trimBy p text := by
  rw [trimBy, List.dropWhile_append, trimBy]
  split
  · next hempty => rw [List.isEmpty_iff.mp hempty, List.dropWhile_eq_nil_iff.mpr h]
  · rw [dropTail_append_dropped h]

/-- A text is what is left after trimming it, with what was dropped around it. -/
theorem exists_trimBy (p : α → Bool) (text : List α) : ∃ lead trail,
    text = lead ++ (trimBy p text ++ trail) ∧ (∀ a ∈ lead, p a = true) ∧ ∀ a ∈ trail, p a = true := by
  refine ⟨text.takeWhile p, (text.dropWhile p).rtakeWhile p, ?_, ?_, ?_⟩
  · have hrest : trimBy p text ++ (text.dropWhile p).rtakeWhile p = text.dropWhile p :=
      List.rdropWhile_append_rtakeWhile
    rw [hrest, List.takeWhile_append_dropWhile]
  · exact fun a ha ↦ List.mem_takeWhile_imp ha
  · exact fun a ha ↦ List.mem_rtakeWhile_imp ha

theorem trimBy_infix (p : α → Bool) (text : List α) : trimBy p text <:+: text := by
  obtain ⟨lead, trail, htext, -⟩ := exists_trimBy p text
  exact ⟨lead, trail, by rw [List.append_assoc, ← htext]⟩

/-- What is not dropped at an end is left in the trimmed text. -/
theorem mem_trimBy {text : List α} {a : α} (hmem : a ∈ text) (ha : p a = false) :
    a ∈ trimBy p text := by
  rw [trimBy, dropTail, List.mem_reverse]
  exact mem_dropWhile (List.mem_reverse.mpr (mem_dropWhile hmem ha)) ha

/-- A start that goes on over what is dropped may be taken before or after trimming. -/
theorem trimBy_takeWhile_trimBy (hpq : ∀ a, p a = true → q a = true) (text : List α) :
    trimBy p ((trimBy p text).takeWhile q) = trimBy p (text.takeWhile q) := by
  obtain ⟨lead, trail, htext, hlead, htrail⟩ := exists_trimBy p text
  generalize trimBy p text = middle at htext
  rw [htext, List.takeWhile_append_of_pos fun a ha ↦ hpq a (hlead a ha), trimBy_append_left hlead,
    List.takeWhile_append]
  split
  · next hall =>
    have hmiddle : middle.takeWhile q = middle := (List.takeWhile_prefix q).eq_of_length hall
    rw [hmiddle, trimBy_append_right fun a ha ↦ htrail a ((List.takeWhile_prefix q).subset ha)]
  · rfl

end MailGateway.Text
