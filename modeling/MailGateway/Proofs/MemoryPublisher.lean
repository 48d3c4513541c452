import MailGateway.Publisher.Memory

/-!
# Publishing within the process is not atomic

A publication is kept before it is handed to the subscribers of its topic, one after the other, and the
first of them that fails ends the round.  So a call of `publish` that raises leaves the publication among
the messages, and the subscribers in front of the failing one have received it.  A raising call leaves
everything as it was only where there is none: where no subscriber of the topic fails in the round.
-/

namespace MailGateway.Publisher

/-! ## One round -/

/-- What the subscriptions of the topic receive, each with its position from `index` on. -/
def served (p : Publication) (index : Nat) (subscriptions : List Subscription) :
    List (Nat × Publication) :=
  ((subscriptions.zipIdx index).filter fun (subscription, _) ↦ subscription.topic = p.topic).map
    fun (_, position) ↦ (position, p)

/-- The failure by which the subscription ends a round on the topic, if it does. -/
def Subscription.failureOn (subscription : Subscription) (topic : Text) (round : Nat) :
    Option Failure :=
  if subscription.topic = topic then subscription.failure? round else none

/-- No subscription fails in the round on the topic. -/
def Reliable (topic : Text) (round : Nat) (subscriptions : List Subscription) : Prop :=
  ∀ subscription ∈ subscriptions, subscription.failureOn topic round = none

namespace Memory

variable {p : Publication} {round : Nat}

/-- Reliable subscriptions in front of others are served before the round goes on. -/
theorem fanOut_append {before : List Subscription} (h : Reliable p.topic round before) (index : Nat)
    (rest : List Subscription) :
    fanOut p round index (before ++ rest) =
      (served p index before ++ (fanOut p round (index + before.length) rest).1,
        (fanOut p round (index + before.length) rest).2) := by
  induction before generalizing index with
  | nil => rfl
  | cons subscription before ih =>
    have hfirst := h subscription List.mem_cons_self
    have ih := ih (fun other hother ↦ h other (List.mem_cons_of_mem _ hother)) (index + 1)
    have hlength : index + (subscription :: before).length = index + 1 + before.length := by
      rw [List.length_cons]
      omega
    rw [List.cons_append, fanOut, hlength, ih]
    by_cases htopic : subscription.topic = p.topic
    · rw [Subscription.failureOn, if_pos htopic] at hfirst
      simp [served, List.zipIdx_cons, htopic, hfirst]
    · simp [served, List.zipIdx_cons, htopic]

/-- A round without failures serves every subscription of the topic. -/
theorem fanOut_of_reliable {subscriptions : List Subscription}
    (h : Reliable p.topic round subscriptions) (index : Nat) :
    fanOut p round index subscriptions = (served p index subscriptions, none) := by
  have happend := fanOut_append h index []
  simpa [fanOut] using happend

/-- The first subscription that fails ends the round. -/
theorem fanOut_of_failing {before after : List Subscription} {failing : Subscription} {f : Failure}
    (h : Reliable p.topic round before) (hfailing : failing.failureOn p.topic round = some f)
    (index : Nat) :
    fanOut p round index (before ++ failing :: after) = (served p index before, some f) := by
  rw [Subscription.failureOn] at hfailing
  split at hfailing
  · next htopic =>
    rw [fanOut_append h, fanOut, if_pos htopic, hfailing]
    simp
  · cases hfailing

/-- Subscriptions are reliable, or there is a first one that fails. -/
theorem reliable_or_failing (topic : Text) (round : Nat) (subscriptions : List Subscription) :
    Reliable topic round subscriptions ∨ ∃ before failing after f,
      subscriptions = before ++ failing :: after ∧ Reliable topic round before ∧
        failing.failureOn topic round = some f := by
  induction subscriptions with
  | nil => exact .inl nofun
  | cons subscription subscriptions ih =>
    cases hfirst : subscription.failureOn topic round with
    | some f => exact .inr ⟨[], subscription, subscriptions, f, rfl, nofun, hfirst⟩
    | none =>
      rcases ih with hreliable | ⟨before, failing, after, f, rfl, hbefore, hfailing⟩
      · exact .inl (List.forall_mem_cons.mpr ⟨hfirst, hreliable⟩)
      · exact .inr ⟨subscription :: before, failing, after, f, rfl,
          List.forall_mem_cons.mpr ⟨hfirst, hbefore⟩, hfailing⟩

/-! ## One call -/

/-- A publication that nobody fails to receive is stored, and everybody has received it. -/
theorem publish_of_reliable {memory : Memory}
    (h : Reliable p.topic memory.published.length memory.subscriptions) :
    (memory.publish p).result = .ok () ∧
      (memory.publish p).publisher =
        { memory with
          published := memory.published ++ [p]
          received := memory.received ++ served p 0 memory.subscriptions } := by
  rw [publish, fanOut_of_reliable h]
  exact ⟨rfl, rfl⟩

/-- A call that raises has kept the publication, and has served the subscriptions in front of the one
that fails. -/
theorem publish_of_failing {memory : Memory} {before after : List Subscription}
    {failing : Subscription} {f : Failure}
    (hsubscriptions : memory.subscriptions = before ++ failing :: after)
    (h : Reliable p.topic memory.published.length before)
    (hfailing : failing.failureOn p.topic memory.published.length = some f) :
    (memory.publish p).result = .error (.ofFailure f) ∧
      (memory.publish p).publisher =
        { memory with
          published := memory.published ++ [p]
          received := memory.received ++ served p 0 before } := by
  have hround : fanOut p memory.published.length 0 memory.subscriptions =
      (served p 0 before, some f) := by
    rw [hsubscriptions]
    exact fanOut_of_failing h hfailing 0
  rw [publish, hround]
  exact ⟨rfl, rfl⟩

/-! ## Any calls -/

/-- A call of the publisher. -/
inductive Call where
  | subscribe (subscription : Subscription)
  | publish (p : Publication)

/-- The publisher after a call, whether it raises or not. -/
def step (memory : Memory) : Call → Memory
  | .subscribe subscription => memory.subscribe subscription
  | .publish p => (memory.publish p).publisher

def run (calls : List Call) : Memory :=
  calls.foldl step empty

def Call.subscription? : Call → Option Subscription
  | subscribe subscription => some subscription
  | publish _ => none

def Call.publication? : Call → Option Publication
  | subscribe _ => none
  | publish p => some p

/-- A call adds its own subscription and its own publication, even where it raises. -/
theorem step_eq (memory : Memory) (call : Call) :
    (memory.step call).subscriptions = memory.subscriptions ++ call.subscription?.toList ∧
      (memory.step call).published = memory.published ++ call.publication?.toList := by
  cases call with
  | subscribe subscription => exact ⟨rfl, (List.append_nil _).symm⟩
  | publish p =>
    rw [step, Call.subscription?, Call.publication?, Option.toList_none, List.append_nil,
      Option.toList_some]
    rcases reliable_or_failing p.topic memory.published.length memory.subscriptions with
      hreliable | ⟨before, failing, after, f, hsplit, hbefore, hfailing⟩
    · rw [(publish_of_reliable hreliable).2]
      exact ⟨rfl, rfl⟩
    · rw [(publish_of_failing hsplit hbefore hfailing).2]
      exact ⟨rfl, rfl⟩

/-- The messages are all publications that were asked for, also those whose calls raised. -/
theorem run_eq (calls : List Call) :
    (run calls).subscriptions = calls.filterMap Call.subscription? ∧
      (run calls).published = calls.filterMap Call.publication? := by
  have hfold (memory : Memory) :
      (calls.foldl step memory).subscriptions =
          memory.subscriptions ++ calls.filterMap Call.subscription? ∧
        (calls.foldl step memory).published =
          memory.published ++ calls.filterMap Call.publication? := by
    induction calls generalizing memory with
    | nil => simp
    | cons call calls ih =>
      obtain ⟨hsubscriptions, hpublished⟩ := memory.step_eq call
      obtain ⟨ihSubscriptions, ihPublished⟩ := ih (memory.step call)
      rw [List.foldl_cons, ihSubscriptions, ihPublished, hsubscriptions, hpublished]
      cases call <;> simp [List.filterMap_cons, Call.subscription?, Call.publication?]
  exact hfold empty

/-- Raising calls of `publish` leave everything as it was exactly if no subscriber of the topic fails in
the round, and then there are none. -/
theorem raising_publish_changes_nothing_iff (calls : List Call) (p : Publication) :
    (∀ fault, ((run calls).publish p).result = .error fault →
        ((run calls).publish p).publisher = run calls) ↔
      Reliable p.topic (calls.filterMap Call.publication?).length
        (calls.filterMap Call.subscription?) := by
  rw [← (run_eq calls).1, ← (run_eq calls).2]
  rcases reliable_or_failing p.topic (run calls).published.length (run calls).subscriptions with
    hreliable | ⟨before, failing, after, f, hsplit, hbefore, hfailing⟩
  · refine iff_of_true ?_ hreliable
    intro fault h
    rw [(publish_of_reliable hreliable).1] at h
    cases h
  · obtain ⟨hresult, hpublisher⟩ := publish_of_failing hsplit hbefore hfailing
    refine iff_of_false ?_ ?_
    · intro h
      have hkept := congrArg Memory.published (hpublisher.symm.trans (h _ hresult))
      simp at hkept
    · intro hreliable
      have hnone := hreliable failing (by rw [hsplit]; simp)
      rw [hfailing] at hnone
      cases hnone

/-- A publication on the topic of a subscriber that fails is kept, although the call raises. -/
theorem raising_publish_keeps_message :
    let calls : List Call := [.subscribe ⟨"alerts", "a", [], some ⟨.other "ValueError", "x"⟩⟩]
    let p := Publication.ofMail "alerts" "m" "id" 0
    (∃ fault, ((run calls).publish p).result = .error fault) ∧
      (run calls).publications none = [] ∧
      ((run calls).publish p).publisher.publications none = [p] :=
  ⟨⟨_, rfl⟩, rfl, rfl⟩

end Memory

end MailGateway.Publisher
