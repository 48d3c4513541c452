import MailGateway.Mail.Message

/-!
# Reading up to a line that ends a part

A message is read line by line, and a delimiter of it or of a message around it ends what is being read.
None of the readers of lines looks behind such a line: given more lines from there on, each of them finds
the same and leaves these lines as they are.
-/

namespace MailGateway.Mail

open scoped List

/-! ## Lines that end what is being read -/

section Stops

/-- No line of the list ends what is being read. -/
def FreeOf (stops : List Stop) (lines : List Line) : Prop :=
  ∀ line ∈ lines, stops.any (Stop.holds line) = false

/-- Nothing is left, or a line that ends what is being read comes next. -/
def EndsIn (stops : List Stop) (lines : List Line) : Prop :=
  ∀ line ∈ lines.head?, stops.any (Stop.holds line) = true

theorem FreeOf.sublist {stops : List Stop} {lines lines' : List Line} (h : FreeOf stops lines)
    (hsub : lines' <+ lines) : FreeOf stops lines' :=
  fun line hline ↦ h line (hsub.subset hline)

variable {outer : List Stop}

/-- A line that ends nothing outside is only looked at for what ends inside. -/
theorem any_append_of_free (inner : List Stop) {line : Line} (h : outer.any (Stop.holds line) = false) :
    (inner ++ outer).any (Stop.holds line) = inner.any (Stop.holds line) := by
  rw [List.any_append, h, Bool.or_false]

/-- A line that ends something outside ends whatever is read inside. -/
theorem any_append_of_ends (inner : List Stop) {line : Line} (h : outer.any (Stop.holds line) = true) :
    (inner ++ outer).any (Stop.holds line) = true := by
  rw [List.any_append, h, Bool.or_true]

end Stops

/-! ## What the readers of lines leave -/

theorem fieldBlock_sublist (stops : List Stop) (lines : List Line) :
    (fieldBlock stops lines).1 ++ (fieldBlock stops lines).2 <+ lines := by
  fun_induction fieldBlock stops lines with
  | case1 => exact .slnil
  | case2 => exact .refl _
  | case3 line rest _ _ block after hblock ih =>
    rw [hblock] at ih
    exact ih.cons_cons line
  | case4 line rest =>
    dsimp only
    split
    · exact .cons line (.refl _)
    · exact .refl _

theorem linesUntil_sublist (stops : List Stop) (lines : List Line) :
    (linesUntil stops lines).2 <+ lines := by
  fun_induction linesUntil stops lines with
  | case1 => exact .slnil
  | case2 => exact .refl _
  | case3 line rest _ block after hblock ih =>
    rw [hblock] at ih
    exact .cons line ih

theorem preamble_sublist (stops : List Stop) (boundary : Option (List UInt8)) (lines : List Line) :
    (preamble stops boundary lines).2.2 <+ lines := by
  fun_induction preamble stops boundary lines with
  | case1 => exact .slnil
  | case2 => exact .refl _
  | case3 line rest => exact .cons line (.refl _)
  | case4 line rest => exact .cons line (.refl _)
  | case5 line rest _ _ _ after hblock _ _ ih =>
    rw [hblock] at ih
    exact .cons line ih

theorem skipDelimiters_sublist (stops : List Stop) (boundary : List UInt8) (lines : List Line) :
    skipDelimiters stops boundary lines <+ lines := by
  fun_induction skipDelimiters stops boundary lines with
  | case1 => exact .slnil
  | case2 line rest _ ih => exact .cons line ih
  | case3 => exact .refl _

theorem nextLine?_eq_some {stops : List Stop} {lines rest : List Line} {line : Line}
    (h : nextLine? stops lines = some (line, rest)) : lines = line :: rest := by
  cases lines with
  | nil => cases h
  | cons first lines =>
    simp only [nextLine?, Option.ite_none_left_eq_some, Option.some.injEq, Prod.mk.injEq] at h
    obtain ⟨-, rfl, rfl⟩ := h
    rfl

theorem nextLine?_eq_none {stops : List Stop} {lines : List Line} :
    nextLine? stops lines = none ↔ EndsIn stops lines := by
  cases lines with
  | nil => simp [nextLine?, EndsIn]
  | cons line rest => simp [nextLine?, EndsIn]

theorem linesUntil_endsIn (stops : List Stop) (lines : List Line) :
    EndsIn stops (linesUntil stops lines).2 := by
  fun_induction linesUntil stops lines with
  | case1 => simp [EndsIn]
  | case2 line rest h => simpa [EndsIn] using h
  | case3 line rest _ block after hblock ih =>
    rw [hblock] at ih
    exact ih

/-! ## Lines behind the end of what is being read -/

section Append

variable (inner : List Stop) {outer : List Stop} {lines rest : List Line}

/-- Fields are read the same before lines that end something outside. -/
theorem fieldBlock_append (hfree : FreeOf outer lines) (hends : EndsIn outer rest) :
    fieldBlock (inner ++ outer) (lines ++ rest) =
      ((fieldBlock inner lines).1, (fieldBlock inner lines).2 ++ rest) := by
  induction lines with
  | nil =>
    cases rest with
    | nil => rfl
    | cons line rest =>
      have h := any_append_of_ends inner (hends line rfl)
      simp [fieldBlock, h]
  | cons line lines ih =>
    have h := any_append_of_free inner (hfree line List.mem_cons_self)
    have ih := ih (hfree.sublist (List.sublist_cons_self ..))
    simp only [List.cons_append, fieldBlock, h, ih]
    split
    · rfl
    split
    · rfl
    · split <;> rfl

/-- A body is read the same before lines that end something outside. -/
theorem linesUntil_append (hfree : FreeOf outer lines) (hends : EndsIn outer rest) :
    linesUntil (inner ++ outer) (lines ++ rest) =
      ((linesUntil inner lines).1, (linesUntil inner lines).2 ++ rest) := by
  induction lines with
  | nil =>
    cases rest with
    | nil => rfl
    | cons line rest =>
      have h := any_append_of_ends inner (hends line rfl)
      simp [linesUntil, h]
  | cons line lines ih =>
    have h := any_append_of_free inner (hfree line List.mem_cons_self)
    have ih := ih (hfree.sublist (List.sublist_cons_self ..))
    simp only [List.cons_append, linesUntil, h, ih]
    split <;> rfl

/-- A preamble is read the same before lines that end something outside. -/
theorem preamble_append (boundary : Option (List UInt8)) (hfree : FreeOf outer lines)
    (hends : EndsIn outer rest) :
    preamble (inner ++ outer) boundary (lines ++ rest) =
      ((preamble inner boundary lines).1, (preamble inner boundary lines).2.1,
        (preamble inner boundary lines).2.2 ++ rest) := by
  induction lines with
  | nil =>
    cases rest with
    | nil => rfl
    | cons line rest =>
      have h := any_append_of_ends inner (hends line rfl)
      simp [preamble, h]
  | cons line lines ih =>
    have h := any_append_of_free inner (hfree line List.mem_cons_self)
    have ih := ih (hfree.sublist (List.sublist_cons_self ..))
    simp only [List.cons_append, preamble, h, ih]
    split
    · rfl
    · split <;> rfl

theorem skipDelimiters_append (boundary : List UInt8) (hfree : FreeOf outer lines)
    (hends : EndsIn outer rest) :
    skipDelimiters (inner ++ outer) boundary (lines ++ rest) =
      skipDelimiters inner boundary lines ++ rest := by
  induction lines with
  | nil =>
    cases rest with
    | nil => rfl
    | cons line rest =>
      have h := any_append_of_ends inner (hends line rfl)
      simp [skipDelimiters, h]
  | cons line lines ih =>
    have h := any_append_of_free inner (hfree line List.mem_cons_self)
    have ih := ih (hfree.sublist (List.sublist_cons_self ..))
    simp only [List.cons_append, skipDelimiters, h, ih]
    split <;> rfl

theorem nextLine?_append (hfree : FreeOf outer lines) (hends : EndsIn outer rest) :
    nextLine? (inner ++ outer) (lines ++ rest) =
      (nextLine? inner lines).map fun found ↦ (found.1, found.2 ++ rest) := by
  cases lines with
  | nil =>
    cases rest with
    | nil => rfl
    | cons line rest =>
      have h := any_append_of_ends inner (hends line rfl)
      simp [nextLine?, h]
  | cons line lines =>
    have h := any_append_of_free inner (hfree line List.mem_cons_self)
    simp only [List.cons_append, nextLine?, h]
    split <;> rfl

end Append

end MailGateway.Mail
