import MailGateway.Delivery

/-!
# Counting whole lists of outcomes

A tally keeps the counters of a backend and the metrics of the process side by side.  Recording an
outcome raises exactly its own count by one in both, also where the metric of the outcome did not
exist before.  A metric that is absent stands for zero.
-/

namespace MailGateway.Delivery

/-- Recording counts one more of its outcome and leaves the other. -/
theorem Counters.count_record (counters : Counters) (outcome known : Outcome) :
    (counters.record outcome).count known =
      counters.count known + if outcome = known then 1 else 0 := by
  cases outcome <;> cases known <;> rfl

/-- Counting an outcome changes its own entry and no other one. -/
theorem lookup_countIn (outcome known : Outcome) (counts : List (Outcome × Nat)) :
    (countIn outcome counts).lookup known =
      if outcome = known then some ((counts.lookup known).getD 0 + 1)
      else counts.lookup known := by
  induction counts with
  | nil =>
    by_cases h : outcome = known
    · simp [countIn, h]
    · simp [countIn, h, List.lookup_cons, beq_false_of_ne (Ne.symm h)]
  | cons first counts ih =>
    obtain ⟨other, count⟩ := first
    by_cases hother : other = outcome
    · subst hother
      by_cases h : other = known
      · simp [countIn, h]
      · simp [countIn, h, List.lookup_cons, beq_false_of_ne (Ne.symm h)]
    · by_cases h : other = known
      · subst h
        simp [countIn, hother, Ne.symm hother]
      · simp only [countIn, if_neg hother, List.lookup_cons, beq_false_of_ne (Ne.symm h)]
        exact ih

theorem Metrics.count_record (metrics : Metrics) (outcome known : Outcome) :
    ((metrics.record outcome).count? known).getD 0 =
      (metrics.count? known).getD 0 + if outcome = known then 1 else 0 := by
  unfold Metrics.record Metrics.count?
  rw [lookup_countIn]
  by_cases h : outcome = known <;> simp [h]

namespace Tally

def recordAll (tally : Tally) (outcomes : List Outcome) : Tally :=
  outcomes.foldl record tally

theorem recordAll_append (tally : Tally) (first second : List Outcome) :
    tally.recordAll (first ++ second) = (tally.recordAll first).recordAll second :=
  List.foldl_append

/-- The counters are the numbers of the recorded outcomes. -/
theorem counters_recordAll (tally : Tally) (outcomes : List Outcome) (known : Outcome) :
    (tally.recordAll outcomes).counters.count known =
      tally.counters.count known + outcomes.count known := by
  induction outcomes generalizing tally with
  | nil => rfl
  | cons outcome outcomes ih =>
    calc
      _ = (tally.counters.record outcome).count known + outcomes.count known :=
        ih (tally.record outcome)
      _ = _ := by
        rw [Counters.count_record, List.count_cons]
        simp only [beq_iff_eq]
        omega

/-- The metrics are the numbers of the recorded outcomes. -/
theorem metrics_recordAll (tally : Tally) (outcomes : List Outcome) (known : Outcome) :
    ((tally.recordAll outcomes).metrics.count? known).getD 0 =
      (tally.metrics.count? known).getD 0 + outcomes.count known := by
  induction outcomes generalizing tally with
  | nil => rfl
  | cons outcome outcomes ih =>
    calc
      _ = ((tally.metrics.record outcome).count? known).getD 0 + outcomes.count known :=
        ih (tally.record outcome)
      _ = _ := by
        rw [Metrics.count_record, List.count_cons]
        simp only [beq_iff_eq]
        omega

end Tally

end MailGateway.Delivery
