import MailGateway.Text.Basic

/-!
# Named things

A list of things under names, each name standing for at most one of them.
-/

namespace MailGateway.Named

variable {α : Type}

def get? (name : Text) (things : List (Text × α)) : Option α :=
  things.lookup name

/-- Put a thing under a name, in the place of the one that had the name. -/
def put (name : Text) (thing : α) : List (Text × α) → List (Text × α)
  | [] => [(name, thing)]
  | (other, known) :: things =>
    if other = name then (name, thing) :: things else (other, known) :: put name thing things

def drop (name : Text) (things : List (Text × α)) : List (Text × α) :=
  things.filter fun (other, _) ↦ other != name

theorem get?_put (name : Text) (thing : α) (things : List (Text × α)) (other : Text) :
    get? other (put name thing things) = if other = name then some thing else get? other things := by
  induction things with
  | nil =>
    by_cases h : other = name
    · simp [get?, put, h]
    · simp [get?, put, h, List.lookup_cons, beq_false_of_ne h]
  | cons first things ih =>
    obtain ⟨known, old⟩ := first
    by_cases same : known = name
    · subst same
      by_cases h : other = known
      · simp [get?, put, h]
      · simp [get?, put, h, List.lookup_cons, beq_false_of_ne h]
    · by_cases h : other = known
      · simp [get?, put, h, same]
      · simp only [get?, put, if_neg same, List.lookup_cons, beq_false_of_ne h]
        exact ih

theorem get?_drop (name : Text) (things : List (Text × α)) (other : Text) :
    get? other (drop name things) = if other = name then none else get? other things := by
  induction things with
  | nil => simp [get?, drop]
  | cons first things ih =>
    obtain ⟨known, old⟩ := first
    unfold get? drop at ih
    unfold get? drop
    by_cases same : known = name
    · subst same
      rw [List.filter_cons_of_neg (by simp), ih]
      by_cases h : other = known
      · rw [if_pos h, if_pos h]
      · rw [if_neg h, if_neg h, List.lookup_cons, beq_false_of_ne h]
    · rw [List.filter_cons_of_pos (by simpa using same), List.lookup_cons, ih, List.lookup_cons]
      by_cases h : other = known
      · simp [h, same]
      · simp [beq_false_of_ne h]

end MailGateway.Named
