import MailGateway.Topic

/-!
# Topics of the default pattern

The default pattern matches the texts of one to sixty-four ASCII letters, digits, hyphens and underscores,
and no others.  A repetition of one character that may be followed by anything succeeds exactly if some
of the characters in front can be taken so that what follows succeeds; here that is the end of the text.
-/

namespace MailGateway

namespace Pattern

variable {p : Char → Bool} {next : Next}

theorem isSome_orElse {α : Type} (a b : Option α) :
    (a <|> b).isSome = true ↔ a.isSome = true ∨ b.isSome = true := by
  cases a <;> simp

theorem step_cons (p : Char → Bool) (next : Next) (before rest : Text) (groups : List (Nat × Text))
    (c : Char) :
    step p ⟨before, c :: rest, groups⟩ next =
      if p c = true then next ⟨c :: before, rest, groups⟩ else none := rfl

/-- A repetition of one character, given enough fuel.  The length before the previous round never is the
length now, since every round takes a character. -/
theorem optional_step_isSome_iff {fuel most : Nat} {last : Option Nat} {before text : Text}
    {groups : List (Nat × Text)} (hfuel : text.length < fuel) (hlast : last ≠ some text.length) :
    (optional (step p) false fuel (some most) last ⟨before, text, groups⟩ next).isSome = true ↔
      ∃ taken left, text = taken ++ left ∧ taken.length ≤ most ∧ (∀ c ∈ taken, p c = true) ∧
        (next ⟨taken.reverse ++ before, left, groups⟩).isSome = true := by
  induction fuel generalizing most last before text with
  | zero => exact absurd hfuel (Nat.not_lt_zero _)
  | succ fuel ih =>
    cases most with
    | zero =>
      rw [optional, if_pos (.inl rfl)]
      constructor
      · exact fun h ↦ ⟨[], text, rfl, Nat.le_refl 0, by simp, h⟩
      · rintro ⟨taken, left, rfl, hlength, -, h⟩
        obtain rfl := List.length_eq_zero_iff.mp (Nat.le_zero.mp hlength)
        exact h
    | succ most =>
      have hcontinue : ¬(some (most + 1) = some 0 ∨ last = some text.length) := by simp [hlast]
      rw [optional, if_neg hcontinue]
      simp only [Bool.false_eq_true, if_false, Option.map_some, Nat.add_sub_cancel, isSome_orElse]
      cases text with
      | nil =>
        constructor
        · rintro (h | h)
          · cases h
          · exact ⟨[], [], rfl, Nat.zero_le _, by simp, h⟩
        · rintro ⟨taken, left, htext, -, -, h⟩
          obtain ⟨rfl, rfl⟩ := List.append_eq_nil_iff.mp htext.symm
          exact .inr h
      | cons c rest =>
        have ih := @ih most (some (c :: rest).length) (c :: before) rest (Nat.lt_of_succ_lt_succ hfuel)
          (by simp)
        rw [step_cons]
        constructor
        · rintro (h | h)
          · split at h
            · next hc =>
              obtain ⟨taken, left, rfl, hlength, htaken, h⟩ := ih.mp h
              refine ⟨c :: taken, left, rfl, Nat.succ_le_succ hlength, ?_, by simpa using h⟩
              exact List.forall_mem_cons.mpr ⟨hc, htaken⟩
            · cases h
          · exact ⟨[], c :: rest, rfl, Nat.zero_le _, by simp, h⟩
        · rintro ⟨taken, left, htext, hlength, htaken, h⟩
          cases taken with
          | nil =>
            obtain rfl : c :: rest = left := htext
            exact .inr h
          | cons d taken =>
            obtain ⟨rfl, rfl⟩ := List.cons.inj htext
            obtain ⟨hc, htaken⟩ := List.forall_mem_cons.mp htaken
            rw [if_pos hc]
            exact .inl (ih.mpr ⟨taken, left, rfl, Nat.le_of_succ_le_succ hlength, htaken,
              by simpa using h⟩)

/-- The pattern of whole lines of one to `most + 1` characters of a set. -/
def lineOf (items : List Item) (most : Nat) : Node :=
  .seq (.anchor .lineStart)
    (.seq (.rep .greedy 1 (some (most + 1)) (.set false items)) (.seq (.anchor .lineEnd) .empty))

/-- A line of a set matches a text that is not empty, not too long, and all in the set. -/
theorem fullMatch_lineOf_iff {flags : Flags} {items : List Item} {most : Nat} {text : Text} :
    (Pattern.mk flags (lineOf items most)).fullMatch text = true ↔
      text ≠ [] ∧ text.length ≤ most + 1 ∧ ∀ c ∈ text, inSet flags false items c = true := by
  let finish : Next := fun place ↦
    if Anchor.lineEnd.holds flags place then if place.rest.isEmpty then some place else none else none
  have hfinish (place : Place) : (finish place).isSome = true ↔ place.rest = [] := by
    obtain ⟨before, rest, groups⟩ := place
    cases rest with
    | nil => simp [finish, Anchor.holds]
    | cons c rest => simp [finish]
  have hrun : (Pattern.mk flags (lineOf items most)).fullMatch text =
      (step (inSet flags false items) ⟨[], text, []⟩ fun place ↦
        optional (step (inSet flags false items)) false (text.length + 2) (some most) none place
          finish).isSome := rfl
  rw [hrun]
  cases text with
  | nil => simp [step]
  | cons c rest =>
    have hoptional := @optional_step_isSome_iff (inSet flags false items) finish
      ((c :: rest).length + 2) most none [c] rest []
      (Nat.lt_of_lt_of_le (Nat.lt_succ_self _) (Nat.le_add_right _ 2)) (by simp)
    rw [step_cons]
    constructor
    · intro h
      split at h
      · next hc =>
        obtain ⟨taken, left, rfl, hlength, htaken, hend⟩ := hoptional.mp h
        obtain rfl : left = [] := (hfinish _).mp hend
        rw [List.append_nil]
        exact ⟨List.cons_ne_nil _ _, Nat.succ_le_succ hlength, List.forall_mem_cons.mpr ⟨hc, htaken⟩⟩
      · cases h
    · rintro ⟨-, hlength, hall⟩
      obtain ⟨hc, hall⟩ := List.forall_mem_cons.mp hall
      rw [if_pos hc]
      exact hoptional.mpr ⟨rest, [], by simp, Nat.le_of_succ_le_succ hlength, hall,
        (hfinish _).mpr rfl⟩

end Pattern

namespace Topic

/-- Whether the character may stand in a topic of the default pattern. -/
def isTopicChar (c : Char) : Bool :=
  c == '-' || c == '_' || c.isAlphanum

/-- The topics of the default pattern. -/
def IsTopic (topic : Text) : Prop :=
  topic ≠ [] ∧ topic.length ≤ 64 ∧ ∀ c ∈ topic, isTopicChar c = true

def topicItems : List Pattern.Item :=
  [.single 45, .single 95, .range 65 90, .range 97 122, .range 48 57]

/-- The set of the default pattern is that of the characters of topics. -/
theorem inSet_topicItems {flags : Pattern.Flags} (h : flags.ignoreCase = false) (c : Char) :
    Pattern.inSet flags false topicItems c = isTopicChar c := by
  have hcode (d : Char) : d.toNat = c.toNat ↔ c = d := by
    rw [Char.toNat_inj, eq_comm]
  have hhyphen : 45 = c.toNat ↔ c = '-' := hcode '-'
  have hlow : 95 = c.toNat ↔ c = '_' := hcode '_'
  have halphanum : c.isAlphanum = true ↔ ((65 ≤ c.toNat ∧ c.toNat ≤ 90) ∨
      (97 ≤ c.toNat ∧ c.toNat ≤ 122)) ∨ (48 ≤ c.toNat ∧ c.toNat ≤ 57) := by
    have hranges : c.isAlphanum = ((decide (c.val ≥ 65 ∧ c.val ≤ 90) ||
        (decide (c.val ≥ 97) && decide (c.val ≤ 122))) ||
        (decide (c.val ≥ 48) && decide (c.val ≤ 57))) := rfl
    rw [hranges]
    simp only [Bool.or_eq_true, Bool.and_eq_true, decide_eq_true_eq, UInt32.le_iff_toNat_le, ge_iff_le]
    rfl
  rw [Bool.eq_iff_iff]
  simp only [Pattern.inSet, h, Bool.false_and, topicItems, List.any_cons, List.any_nil, Bool.or_false,
    Pattern.Item.holds, Bool.false_eq_true, if_false, bne_iff_ne, ne_eq, Bool.not_eq_false,
    Bool.or_eq_true, Bool.and_eq_true, beq_iff_eq, decide_eq_true_eq, hhyphen, hlow, isTopicChar,
    halphanum, or_assoc]

/-- The default pattern, when it has been read. -/
theorem read_defaultPattern [Platform] :
    Pattern.read defaultPattern = .ok ⟨{ unicode := true }, Pattern.lineOf topicItems 63⟩ := by
  rfl

/-- The default pattern matches one to sixty-four characters of topics. -/
theorem fullMatch_default_iff [Platform] {read : Pattern} (h : Pattern.read defaultPattern = .ok read)
    {topic : Text} : read.fullMatch topic = true ↔ IsTopic topic := by
  obtain rfl := Except.ok.inj (read_defaultPattern.symm.trans h)
  have hset := @inSet_topicItems { unicode := true } rfl
  simp only [Pattern.fullMatch_lineOf_iff, hset, IsTopic]

end Topic

end MailGateway
