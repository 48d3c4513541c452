import Mathlib.Data.List.ReduceOption
import MailGateway.Proofs.ConnectionRun
import MailGateway.Proofs.MemoryPublisher

/-!
# What a publisher may fail with

The failures that a publisher has in store are those of its subscribers in the rounds to come, or those
still on the schedule of a bus or a function.  A request ends well or in one of them, and adds none.  A
publisher without failures in store accepts every publication for ever, and no other one does.  All that a
run over connections does to the publisher is to make requests.
-/

namespace MailGateway

namespace Publisher

/-! ## Requests of a publisher with a schedule -/

/-- A request is one more question to the publisher. -/
theorem publish_asked {publisher : Publisher} (hscheduled : publisher.IsScheduled) (p : Publication) :
    ∃ delivered, (publisher.publish p).publisher = publisher.asked 1 delivered := by
  cases hnext : publisher.schedule.head?.join with
  | none => exact ⟨[p], (publish_of_none hscheduled hnext p).1⟩
  | some f => exact ⟨[], (publish_of_some hscheduled hnext p).1⟩

def after (publisher : Publisher) (earlier : List Publication) : Publisher :=
  earlier.foldl (fun publisher p ↦ (publisher.publish p).publisher) publisher

theorem after_asked {publisher : Publisher} (hscheduled : publisher.IsScheduled)
    (earlier : List Publication) :
    ∃ delivered, publisher.after earlier = publisher.asked earlier.length delivered := by
  induction earlier generalizing publisher with
  | nil => exact ⟨[], publisher.asked_zero.symm⟩
  | cons p earlier ih =>
    obtain ⟨first, hfirst⟩ := publish_asked hscheduled p
    obtain ⟨rest, hrest⟩ := ih ((publisher.isScheduled_asked 1 first).mpr hscheduled)
    refine ⟨first ++ rest, ?_⟩
    change (publisher.publish p).publisher.after earlier = _
    rw [hfirst, hrest, asked_asked, List.length_cons, Nat.add_comm]

/-! ## Failures in store -/

/-- The failures of a subscription from a round on. -/
def Subscription.failuresFrom (subscription : Subscription) (round : Nat) : List Failure :=
  (subscription.failures.drop round).reduceOption ++ subscription.later.toList

/-- The failures from a round on are those of all later rounds. -/
theorem Subscription.mem_failuresFrom_iff {subscription : Subscription} {round : Nat} {f : Failure} :
    f ∈ subscription.failuresFrom round ↔ ∃ n, round ≤ n ∧ subscription.failure? n = some f := by
  rw [failuresFrom, List.mem_append, List.reduceOption_mem_iff, Option.mem_toList]
  constructor
  · rintro (h | h)
    · obtain ⟨i, hi⟩ := List.mem_iff_getElem?.mp h
      rw [List.getElem?_drop] at hi
      exact ⟨round + i, Nat.le_add_right _ _, by rw [failure?, hi, Option.getD_some]⟩
    · refine ⟨max round subscription.failures.length, Nat.le_max_left _ _, ?_⟩
      rw [failure?, List.getElem?_eq_none (Nat.le_max_right _ _)]
      exact h
  · rintro ⟨n, hn, h⟩
    rw [failure?] at h
    cases hlisted : subscription.failures[n]? with
    | none =>
      rw [hlisted] at h
      exact .inr h
    | some failure =>
      rw [hlisted, Option.getD_some] at h
      refine .inl (List.mem_iff_getElem?.mpr ⟨n - round, ?_⟩)
      rw [List.getElem?_drop, Nat.add_sub_cancel' hn, hlisted, h]

def failures : Publisher → List Failure
  | .memory m => m.subscriptions.flatMap (Subscription.failuresFrom · m.published.length)
  | .bus b => b.failures.reduceOption
  | .callback c => c.failures.reduceOption

theorem mem_failures_iff {publisher : Publisher} (h : publisher.IsScheduled) {f : Failure} :
    f ∈ publisher.failures ↔ some f ∈ publisher.schedule := by
  cases publisher with
  | memory memory => exact h.elim
  | bus bus | callback callback => exact List.reduceOption_mem_iff

/-- The failures of a memory are those of its subscribers in the rounds to come. -/
theorem Memory.mem_failures_iff {memory : Memory} {f : Failure} :
    f ∈ (Publisher.memory memory).failures ↔
      ∃ subscription ∈ memory.subscriptions, ∃ round, memory.published.length ≤ round ∧
        subscription.failureOn subscription.topic round = some f := by
  simp only [failures, List.mem_flatMap, Subscription.mem_failuresFrom_iff, Subscription.failureOn,
    if_true]

theorem Memory.publish_eq (memory : Memory) (p : Publication) :
    (memory.publish p).publisher.subscriptions = memory.subscriptions ∧
      (memory.publish p).publisher.published = memory.published ++ [p] := by
  unfold publish
  dsimp only
  split <;> exact ⟨rfl, rfl⟩

theorem Memory.after_eq (memory : Memory) (earlier : List Publication) :
    ∃ later : Memory, (Publisher.memory memory).after earlier = .memory later ∧
      later.subscriptions = memory.subscriptions ∧
      later.published.length = memory.published.length + earlier.length := by
  induction earlier generalizing memory with
  | nil => exact ⟨memory, rfl, rfl, rfl⟩
  | cons p earlier ih =>
    obtain ⟨hsubscriptions, hpublished⟩ := memory.publish_eq p
    obtain ⟨later, hlater, hsame, hlength⟩ := ih (memory.publish p).publisher
    refine ⟨later, hlater, hsame.trans hsubscriptions, ?_⟩
    rw [hlength, hpublished, List.length_append, List.length_cons, List.length_cons, List.length_nil]
    omega

/-- A request ends well, or in a failure in store. -/
theorem publish_result (publisher : Publisher) (p : Publication) :
    (publisher.publish p).result = .ok () ∨
      ∃ f ∈ publisher.failures, ∃ fault, (publisher.publish p).result = .error fault ∧
        Session.publishFault p.topic fault = .gateway (publisher.refusal p.topic f) := by
  by_cases hscheduled : publisher.IsScheduled
  · cases hnext : publisher.schedule.head?.join with
    | none => exact .inl (publish_of_none hscheduled hnext p).2
    | some f =>
      refine .inr ⟨f, (mem_failures_iff hscheduled).mpr ?_, (publish_of_some hscheduled hnext p).2⟩
      exact List.mem_of_mem_head? (Option.mem_def.mpr (Option.join_eq_some_iff.mp hnext))
  · cases publisher with
    | bus bus | callback callback => exact (hscheduled trivial).elim
    | memory memory =>
      rcases Memory.reliable_or_failing p.topic memory.published.length memory.subscriptions with
        hreliable | ⟨before, failing, after, f, hsplit, hbefore, hfailing⟩
      · exact .inl (Memory.publish_of_reliable hreliable).1
      · refine .inr ⟨f, Memory.mem_failures_iff.mpr ⟨failing, hsplit ▸ by simp, _, Nat.le_refl _, ?_⟩,
          .ofFailure f,
          (Memory.publish_of_failing hsplit hbefore hfailing).1,
          Session.publishFault_ofFailure p.topic f⟩
        rw [Subscription.failureOn] at hfailing ⊢
        split at hfailing
        · exact (if_pos rfl).trans hfailing
        · cases hfailing

/-- A request adds no failures. -/
theorem failures_publish_subset (publisher : Publisher) (p : Publication) :
    (publisher.publish p).publisher.failures ⊆ publisher.failures := by
  by_cases hscheduled : publisher.IsScheduled
  · obtain ⟨delivered, hasked⟩ := publish_asked hscheduled p
    intro f hf
    rw [hasked, mem_failures_iff ((publisher.isScheduled_asked 1 delivered).mpr hscheduled),
      schedule_asked hscheduled] at hf
    exact (mem_failures_iff hscheduled).mpr (List.mem_of_mem_drop hf)
  · cases publisher with
    | bus bus | callback callback => exact (hscheduled trivial).elim
    | memory memory =>
      obtain ⟨hsubscriptions, hpublished⟩ := memory.publish_eq p
      intro f hf
      obtain ⟨subscription, hmem, round, hround, hfails⟩ := Memory.mem_failures_iff.mp hf
      rw [hsubscriptions] at hmem
      rw [hpublished, List.length_append] at hround
      exact Memory.mem_failures_iff.mpr
        ⟨subscription, hmem, round, Nat.le_of_add_right_le hround, hfails⟩

/-! ## Publishers that accept everything -/

/-- Whether a publisher accepts every publication, whatever it was asked to publish before. -/
def AcceptsAll (publisher : Publisher) : Prop :=
  ∀ earlier p, ((publisher.after earlier).publish p).result = .ok ()

theorem AcceptsAll.publish {publisher : Publisher} (h : publisher.AcceptsAll) (p : Publication) :
    (publisher.publish p).publisher.AcceptsAll :=
  fun earlier ↦ h (p :: earlier)

/-- Requests add no failures. -/
theorem failures_after_subset (publisher : Publisher) (earlier : List Publication) :
    (publisher.after earlier).failures ⊆ publisher.failures := by
  induction earlier generalizing publisher with
  | nil => exact List.Subset.refl _
  | cons p earlier ih => exact List.Subset.trans (ih _) (publisher.failures_publish_subset p)

/-- Every failure in store is met by some request. -/
theorem Memory.exists_raising {memory : Memory} {f : Failure}
    (h : f ∈ (Publisher.memory memory).failures) :
    ∃ earlier p fault, (((Publisher.memory memory).after earlier).publish p).result = .error fault := by
  obtain ⟨subscription, hmem, round, hround, hfails⟩ := Memory.mem_failures_iff.mp h
  let earlier := List.replicate (round - memory.published.length) (Publication.ofMail [] [] [] 0)
  obtain ⟨later, hlater, hsame, hlength⟩ := memory.after_eq earlier
  rw [List.length_replicate, Nat.add_sub_cancel' hround] at hlength
  refine ⟨earlier, .ofMail subscription.topic [] [] 0, ?_⟩
  rw [hlater]
  rcases Memory.reliable_or_failing subscription.topic later.published.length later.subscriptions with
    hreliable | ⟨before, failing, after, other, hsplit, hbefore, hfailing⟩
  · have hnone := hreliable subscription (hsame ▸ hmem)
    rw [hlength, hfails] at hnone
    cases hnone
  · exact ⟨_, (Memory.publish_of_failing (p := .ofMail subscription.topic [] [] 0) hsplit hbefore
      hfailing).1⟩

/-- Any failure in store comes to light by some requests. -/
theorem exists_raising {publisher : Publisher} {f : Failure} (h : f ∈ publisher.failures) :
    ∃ earlier p fault, ((publisher.after earlier).publish p).result = .error fault := by
  by_cases hscheduled : publisher.IsScheduled
  · obtain ⟨n, hn, hnext⟩ := List.mem_iff_getElem.mp ((mem_failures_iff hscheduled).mp h)
    let filler := List.replicate n (Publication.ofMail [] [] [] 0)
    obtain ⟨delivered, hasked⟩ := after_asked hscheduled filler
    have hlater := (publisher.isScheduled_asked filler.length delivered).mpr hscheduled
    have hhead : (publisher.asked filler.length delivered).schedule.head?.join = some f := by
      rw [schedule_asked hscheduled, List.length_replicate, List.head?_drop,
        List.getElem?_eq_getElem hn, hnext]
      rfl
    obtain ⟨fault, hfault, -⟩ := (publish_of_some hlater hhead (Publication.ofMail [] [] [] 0)).2
    exact ⟨filler, _, fault, hasked ▸ hfault⟩
  · cases publisher with
    | bus bus | callback callback => exact (hscheduled trivial).elim
    | memory memory => exact Memory.exists_raising h

/-- Exactly the publishers without failures in store accept everything. -/
theorem acceptsAll_iff (publisher : Publisher) :
    publisher.AcceptsAll ↔ publisher.failures = [] := by
  rw [List.eq_nil_iff_forall_not_mem]
  constructor
  · intro haccepts f hf
    obtain ⟨earlier, p, fault, hfault⟩ := exists_raising hf
    rw [haccepts earlier p] at hfault
    cases hfault
  · intro hempty earlier p
    rcases (publisher.after earlier).publish_result p with hok | ⟨f, hf, -⟩
    · exact hok
    · exact (hempty f (publisher.failures_after_subset earlier hf)).elim

end Publisher

/-! ## Publishers in runs -/

namespace Connection

/-- A command leaves the publisher alone or makes one request. -/
theorem act_publisher [Platform] (connection : Connection) (server : Server) (command : Command) :
    (connection.act server command).server.backend.publisher = server.backend.publisher ∨
      ∃ p, (connection.act server command).server.backend.publisher =
        (server.backend.publisher.publish p).publisher := by
  have hopened := connection.opened_publisher server
  cases command with
  | auth credentials =>
    left
    change (connection.auth server credentials).server.backend.publisher = _
    rw [auth_backend, Server.addSessions_publisher]
  | mail | rset => exact .inl hopened
  | rcpt address options =>
    left
    have hend := connection.rcpt_end server address options
    change (connection.rcpt server address options).server.backend.publisher = _
    generalize connection.rcpt server address options = act at hend
    cases hend with
    | repeated | accepted | rejected | escaped => exact hopened
  | data content =>
    obtain ⟨step, log, hend, hdata⟩ := connection.data_end server content
    have hnext : (connection.act server (.data content)).server.backend.publisher =
        step.backend.publisher := congrArg (·.server.backend.publisher) hdata
    rw [hnext, ← hopened]
    cases hend with
    | noRecipient | unreadable => exact .inl rfl
    | refused | published => exact .inr ⟨_, rfl⟩
  | quit => exact .inl rfl

end Connection

namespace Connections

/-- What every request preserves holds of the publisher after an event. -/
theorem step_publisher [Platform] {holds : Publisher → Prop}
    (hpublish : ∀ publisher p, holds publisher → holds (publisher.publish p).publisher)
    {state : Connections} (h : holds state.server.backend.publisher) (event : Event) :
    holds (state.step event).state.server.backend.publisher := by
  have hfree (name : Text) :
      (state.free name).server.backend.publisher = state.server.backend.publisher := by
    unfold free
    split <;> rfl
  cases event with
  | connect name | free name =>
    change holds (state.free name).server.backend.publisher
    rw [hfree]
    exact h
  | newEnvelope name => exact h
  | command name command =>
    rcases (state.get name).act_publisher state.server command with hsame | ⟨p, hnext⟩
    · exact hsame.symm ▸ h
    · exact hnext.symm ▸ hpublish _ p h

/-- What requests keep of a publisher, a run keeps. -/
theorem run_publisher [Platform] {holds : Publisher → Prop}
    (hpublish : ∀ publisher p, holds publisher → holds (publisher.publish p).publisher)
    {state : Connections} (h : holds state.server.backend.publisher) (events : List Event) :
    holds (state.run events).1.server.backend.publisher := by
  induction events generalizing state with
  | nil => exact h
  | cons event events ih =>
    rw [run_cons_fst]
    exact ih (step_publisher hpublish h event)

end Connections

end MailGateway
