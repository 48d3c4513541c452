import MailGateway.Proofs.Session
import MailGateway.Proofs.Tally
import MailGateway.Sessions

/-!
# Counting the ends of a run

A run of sessions is read as the list of its calls, each operation with what came of it.  Every call
records the outcome that it shows to its caller and no other one: a published mail is a success, a
recipient or a mail that raised is a failure, whatever it raised, and nothing else is counted.  By
induction over the run, counters and metrics grow by the numbers of such calls, in whatever order any
number of sessions make them.
-/

namespace MailGateway.Sessions

/-- An operation and what came of it. -/
abbrev Call := Operation × Except Fault Reply

def calls [Platform] (state : Sessions) (operations : List Operation) : List Call :=
  operations.zip (state.run operations).2

@[simp]
theorem calls_nil [Platform] (state : Sessions) : state.calls [] = [] := rfl

@[simp]
theorem calls_cons [Platform] (state : Sessions) (operation : Operation) (operations : List Operation) :
    state.calls (operation :: operations) =
      (operation, (state.step operation).result) :: (state.step operation).state.calls operations :=
  rfl

theorem run_cons_fst [Platform] (state : Sessions) (operation : Operation) (operations : List Operation) :
    (state.run (operation :: operations)).1 = ((state.step operation).state.run operations).1 := rfl

def isPublished : Call → Bool
  | (.data .., .ok (.published _)) => true
  | _ => false

def isRefused : Call → Bool
  | (.rcpt .., .error _) | (.data .., .error _) => true
  | _ => false

def outcome? (call : Call) : Option Delivery.Outcome :=
  if isPublished call then some .success else if isRefused call then some .failure else none

theorem count_success (calls : List Call) :
    (calls.filterMap outcome?).count .success = calls.countP isPublished := by
  rw [List.count_filterMap]
  apply List.countP_congr
  intro call _
  unfold outcome?
  cases isPublished call <;> cases isRefused call <;> decide

theorem not_isRefused_of_isPublished {call : Call} (h : isPublished call = true) :
    isRefused call = false := by
  unfold isPublished at h
  split at h
  · rfl
  · cases h

theorem count_failure (calls : List Call) :
    (calls.filterMap outcome?).count .failure = calls.countP isRefused := by
  rw [List.count_filterMap]
  apply List.countP_congr
  intro call _
  unfold outcome?
  cases hpublished : isPublished call with
  | true => simp [not_isRefused_of_isPublished hpublished]
  | false => cases isRefused call <;> decide

/-- A call records the outcome that its caller sees. -/
theorem step_tally [Platform] (state : Sessions) (operation : Operation) :
    (state.step operation).state.backend.tally =
      state.backend.tally.recordAll
        (outcome? (operation, (state.step operation).result)).toList := by
  cases operation with
  | anonymous | login | authPlain | mail | reset | logout => rfl
  | rcpt name recipient =>
    cases htopic : state.backend.config.topicOf recipient with
    | ok topic =>
      simp only [step, after, Session.rcpt_of_ok htopic]
      rfl
    | error fault =>
      simp only [step, after, Session.rcpt_of_error htopic]
      rfl
  | data name mail =>
    simp only [step, after]
    rw [((state.get name).data_end state.backend mail).tally_eq]
    cases ((state.get name).data state.backend mail).result <;> rfl

/-- The tally of a run is that of its calls. -/
theorem run_tally [Platform] (state : Sessions) (operations : List Operation) :
    (state.run operations).1.backend.tally =
      state.backend.tally.recordAll ((state.calls operations).filterMap outcome?) := by
  induction operations generalizing state with
  | nil => rfl
  | cons operation operations ih =>
    rw [run_cons_fst, ih, step_tally, ← Delivery.Tally.recordAll_append, calls_cons,
      List.filterMap_cons]
    cases outcome? (operation, (state.step operation).result) <;> rfl

/-- Counters and metrics of a run, from any tally on: the successes grow by the mails that returned a
publication, the failures by the recipients and mails that raised.  A fresh backend in a fresh process
starts from zero in all four places. -/
theorem run_counts_every_end_once [Platform] (state : Sessions) (operations : List Operation) :
    let before := state.backend.tally
    let after := (state.run operations).1.backend.tally
    let calls := state.calls operations
    after.counters =
        ⟨before.counters.success + calls.countP isPublished,
          before.counters.failure + calls.countP isRefused⟩ ∧
      (after.metrics.count? .success).getD 0 =
        (before.metrics.count? .success).getD 0 + calls.countP isPublished ∧
      (after.metrics.count? .failure).getD 0 =
        (before.metrics.count? .failure).getD 0 + calls.countP isRefused := by
  intro before after calls
  have htally : after = before.recordAll (calls.filterMap outcome?) := run_tally state operations
  have hsuccess : after.counters.success = before.counters.success + calls.countP isPublished := by
    rw [htally, ← count_success]
    exact before.counters_recordAll _ .success
  have hfailure : after.counters.failure = before.counters.failure + calls.countP isRefused := by
    rw [htally, ← count_failure]
    exact before.counters_recordAll _ .failure
  refine ⟨?_, ?_, ?_⟩
  · rw [← hsuccess, ← hfailure]
  · rw [htally, ← count_success]
    exact before.metrics_recordAll _ .success
  · rw [htally, ← count_failure]
    exact before.metrics_recordAll _ .failure

end MailGateway.Sessions
