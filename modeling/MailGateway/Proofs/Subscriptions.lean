import MailGateway.Proofs.MemoryPublisher

/-!
# What subscriptions receive

Subscribers that do not fail receive every publication on their topic from their subscription on, once and
in the order of the calls, and one publication goes to them in the order of their subscriptions.  A
subscription is known by its position, so a subscriber that subscribes twice has two of them.  The messages
that the publisher keeps are all publications, or those on a topic.
-/

namespace MailGateway.Publisher

/-! ## One round -/

section Round

variable (p : Publication) (index : Nat) (subscriptions : List Subscription)

/-- A round goes through the positions in their order. -/
theorem positions_sublist :
    ((served p index subscriptions).map Prod.fst).Sublist (List.range' index subscriptions.length) := by
  have hpositions : (subscriptions.zipIdx index).map Prod.snd =
      List.range' index subscriptions.length := List.zipIdx_map_snd ..
  rw [← hpositions, served, List.map_map]
  exact List.filter_sublist.map Prod.snd

/-- Subscribers are told in the order of their subscription. -/
theorem pairwise_positions : ((served p index subscriptions).map Prod.fst).Pairwise (· < ·) :=
  List.Pairwise.sublist (positions_sublist p index subscriptions) List.pairwise_lt_range'

theorem position_bounds {entry : Nat × Publication} (h : entry ∈ served p index subscriptions) :
    index ≤ entry.1 ∧ entry.1 < index + subscriptions.length :=
  List.mem_range'_1.mp ((positions_sublist p index subscriptions).subset (List.mem_map_of_mem h))

end Round

def receivedAt (position : Nat) (received : List (Nat × Publication)) : List Publication :=
  (received.filter fun entry ↦ entry.1 = position).map Prod.snd

theorem receivedAt_append (position : Nat) (before after : List (Nat × Publication)) :
    receivedAt position (before ++ after) = receivedAt position before ++ receivedAt position after := by
  rw [receivedAt, List.filter_append, List.map_append]
  rfl

/-- What went to other positions was not received. -/
theorem receivedAt_eq_nil {position : Nat} {received : List (Nat × Publication)}
    (h : ∀ entry ∈ received, entry.1 ≠ position) : receivedAt position received = [] := by
  rw [receivedAt, List.map_eq_nil_iff, List.filter_eq_nil_iff]
  simpa using h

/-- A round reaches a subscription once if it is of the topic, else not at all. -/
theorem receivedAt_served (p : Publication) (index : Nat) {subscriptions : List Subscription}
    {position : Nat} {subscription : Subscription} (h : subscriptions[position]? = some subscription) :
    receivedAt (index + position) (served p index subscriptions) =
      [p].filter fun p ↦ p.topic == subscription.topic := by
  induction subscriptions generalizing index position with
  | nil => cases h
  | cons first rest ih =>
    have hserved : served p index (first :: rest) =
        (if first.topic = p.topic then [(index, p)] else []) ++ served p (index + 1) rest := by
      by_cases htopic : first.topic = p.topic <;> simp [served, List.zipIdx_cons, htopic]
    rw [hserved, receivedAt_append]
    cases position with
    | zero =>
      cases h
      -- The positions behind the first one are greater.
      have hrest : receivedAt index (served p (index + 1) rest) = [] :=
        receivedAt_eq_nil fun entry hentry ↦
          Nat.ne_of_gt (position_bounds p (index + 1) rest hentry).1
      rw [Nat.add_zero, hrest]
      by_cases htopic : subscription.topic = p.topic
      · simp [receivedAt, htopic]
      · simp [receivedAt, htopic, Ne.symm htopic]
    | succ position =>
      have hfirst : receivedAt (index + (position + 1))
          (if first.topic = p.topic then [(index, p)] else []) = [] := by
        split
        · exact receivedAt_eq_nil (by simp)
        · rfl
      have hposition : index + (position + 1) = index + 1 + position := by omega
      rw [hfirst, List.nil_append, hposition]
      exact ih (index + 1) h

namespace Memory

/-! ## Any calls -/

/-- No subscriber fails. -/
def Returning (subscriptions : List Subscription) : Prop :=
  ∀ subscription ∈ subscriptions, ∀ round, subscription.failure? round = none

/-- Subscribers that never fail do not fail in a round. -/
theorem Returning.reliable {subscriptions : List Subscription} (h : Returning subscriptions)
    (topic : Text) (round : Nat) : Reliable topic round subscriptions := by
  intro subscription hmem
  rw [Subscription.failureOn, h subscription hmem round, ite_self]

/-- The publications on a topic that calls ask for. -/
def publicationsOn (topic : Text) (calls : List Call) : List Publication :=
  (calls.filterMap Call.publication?).filter fun p ↦ p.topic == topic

/-- What the calls hand over, with the subscriptions that there are before them. -/
def handedOver : List Subscription → List Call → List (Nat × Publication)
  | _, [] => []
  | subscriptions, .subscribe subscription :: calls =>
    handedOver (subscriptions ++ [subscription]) calls
  | subscriptions, .publish p :: calls => served p 0 subscriptions ++ handedOver subscriptions calls

/-- Calls hand over to the subscriptions that were made before them. -/
theorem handedOver_append (subscriptions : List Subscription) (before after : List Call) :
    handedOver subscriptions (before ++ after) = handedOver subscriptions before ++
      handedOver (subscriptions ++ before.filterMap Call.subscription?) after := by
  induction before generalizing subscriptions with
  | nil => simp [handedOver]
  | cons call before ih =>
    cases call <;> simp [handedOver, ih, List.filterMap_cons, Call.subscription?]

/-- Calls hand nothing over but to subscriptions that are made. -/
theorem handedOver_bound {subscriptions : List Subscription} {calls : List Call}
    {entry : Nat × Publication} (h : entry ∈ handedOver subscriptions calls) :
    entry.1 < (subscriptions ++ calls.filterMap Call.subscription?).length := by
  induction calls generalizing subscriptions with
  | nil => cases h
  | cons call calls ih =>
    cases call with
    | subscribe subscription => simpa [List.filterMap_cons, Call.subscription?] using ih h
    | publish p =>
      rw [List.filterMap_cons_none rfl]
      rcases List.mem_append.mp h with hround | hlater
      · have hbound := (position_bounds p 0 subscriptions hround).2
        rw [List.length_append]
        omega
      · exact ih hlater

/-- A subscription receives the publications on its topic. -/
theorem receivedAt_handedOver {subscriptions : List Subscription} {position : Nat}
    {subscription : Subscription} (h : subscriptions[position]? = some subscription)
    (calls : List Call) :
    receivedAt position (handedOver subscriptions calls) =
      publicationsOn subscription.topic calls := by
  -- Later subscriptions go behind the others, so the subscription stays at its position.
  induction calls generalizing subscriptions with
  | nil => rfl
  | cons call calls ih =>
    cases call with
    | subscribe other =>
      have hkept : (subscriptions ++ [other])[position]? = some subscription := by
        rw [List.getElem?_append_left (List.getElem?_eq_some_iff.mp h).1, h]
      exact ih hkept
    | publish p =>
      have hround := receivedAt_served p 0 h
      rw [Nat.zero_add] at hround
      rw [handedOver, receivedAt_append, hround, ih h, publicationsOn, ← List.filter_append]
      rfl

/-- What is received by subscribers that do not fail depends on the calls only. -/
theorem foldl_received {memory : Memory} {calls : List Call}
    (h : Returning (memory.subscriptions ++ calls.filterMap Call.subscription?)) :
    (calls.foldl step memory).received =
      memory.received ++ handedOver memory.subscriptions calls := by
  -- Each call leaves a publisher with other subscriptions, so the induction is for any publisher.
  induction calls generalizing memory with
  | nil => exact (List.append_nil _).symm
  | cons call calls ih =>
    obtain ⟨hsubscriptions, -⟩ := memory.step_eq call
    have hstep : Returning ((memory.step call).subscriptions ++
        calls.filterMap Call.subscription?) := by
      rw [hsubscriptions]
      cases call <;> simpa [List.filterMap_cons, Call.subscription?] using h
    rw [List.foldl_cons, ih hstep, hsubscriptions]
    cases call with
    | subscribe subscription => rfl
    | publish p =>
      have hreliable : Reliable p.topic memory.published.length memory.subscriptions :=
        Returning.reliable (fun s hs ↦ h s (List.mem_append_left _ hs)) p.topic _
      rw [step, (publish_of_reliable hreliable).2]
      simp [handedOver, Call.subscription?]

/-- What was received in a run is what its calls handed over. -/
theorem run_received {calls : List Call} (h : Returning (calls.filterMap Call.subscription?)) :
    (run calls).received = handedOver [] calls :=
  @foldl_received empty calls h

/-- A subscription has received nothing before it is made. -/
theorem receivedAt_run {before after : List Call} {subscription : Subscription}
    (h : Returning ((before ++ .subscribe subscription :: after).filterMap Call.subscription?)) :
    receivedAt (before.filterMap Call.subscription?).length
        (run (before ++ .subscribe subscription :: after)).received =
      publicationsOn subscription.topic after := by
  have hbefore : receivedAt (before.filterMap Call.subscription?).length (handedOver [] before) = [] :=
    receivedAt_eq_nil fun _ hentry ↦ Nat.ne_of_lt (handedOver_bound hentry)
  calc
    receivedAt (before.filterMap Call.subscription?).length
        (run (before ++ .subscribe subscription :: after)).received =
      receivedAt (before.filterMap Call.subscription?).length
        (handedOver (before.filterMap Call.subscription? ++ [subscription]) after) := by
          rw [run_received h, handedOver_append, receivedAt_append, hbefore]
          rfl
    _ = publicationsOn subscription.topic after := receivedAt_handedOver (by simp) after

/-- The messages are the publications in the order of the calls, and those on a topic are a subsequence of
them.  If no subscriber fails, a subscription receives exactly the publications on its topic that come after
it, also if the subscriber has another subscription.  A call of `publish` hands over to the subscriptions of
the topic in their order, and is done with this before the next call. -/
theorem run_delivers {calls : List Call} (h : Returning (calls.filterMap Call.subscription?)) :
    (run calls).publications none = calls.filterMap Call.publication? ∧
    (∀ topic, (run calls).publications (some topic) = publicationsOn topic calls) ∧
    (∀ before subscription after, calls = before ++ .subscribe subscription :: after →
      receivedAt (before.filterMap Call.subscription?).length (run calls).received =
        publicationsOn subscription.topic after) ∧
    ∀ before p after, calls = before ++ .publish p :: after →
      let round := served p 0 (before.filterMap Call.subscription?)
      ((run before).publish p).result = .ok () ∧ (round.map Prod.fst).Pairwise (· < ·) ∧
        ∃ later, (run calls).received = (run before).received ++ round ++ later := by
  refine ⟨(run_eq calls).2, ?_, ?_, ?_⟩
  · intro topic
    rw [publications, (run_eq calls).2]
    rfl
  · rintro before subscription after rfl
    exact receivedAt_run h
  · rintro before p after rfl
    have hbefore : Returning (before.filterMap Call.subscription?) := by
      intro subscription hmem
      rw [List.filterMap_append] at h
      exact h subscription (List.mem_append_left _ hmem)
    have hreliable : Reliable p.topic (run before).published.length (run before).subscriptions := by
      rw [(run_eq before).1]
      exact hbefore.reliable p.topic _
    refine ⟨(publish_of_reliable hreliable).1, pairwise_positions ..,
      handedOver (before.filterMap Call.subscription?) after, ?_⟩
    rw [run_received h, run_received hbefore, handedOver_append, List.nil_append, handedOver,
      List.append_assoc]

/-- Two subscriptions of one subscriber with a publication between them, and one on another topic. -/
def lampCalls : List Call :=
  [.subscribe ⟨"lamp", "a", [], none⟩, .subscribe ⟨"door", "b", [], none⟩,
    .publish (Publication.ofMail "lamp" "on" "1" 0), .subscribe ⟨"lamp", "a", [], none⟩,
    .publish (Publication.ofMail "door" "open" "2" 0), .publish (Publication.ofMail "lamp" "off" "3" 0)]

theorem lampCalls_deliver :
    Returning (lampCalls.filterMap Call.subscription?) ∧
      receivedAt 0 (run lampCalls).received =
        [Publication.ofMail "lamp" "on" "1" 0, Publication.ofMail "lamp" "off" "3" 0] ∧
      receivedAt 2 (run lampCalls).received = [Publication.ofMail "lamp" "off" "3" 0] := by
  have hreturning : Returning (lampCalls.filterMap Call.subscription?) := by
    have hnever : ∀ subscription ∈ lampCalls.filterMap Call.subscription?,
        subscription.failures = [] ∧ subscription.later = none := by
      decide
    intro subscription hmem round
    obtain ⟨hfailures, hlater⟩ := hnever subscription hmem
    rw [Subscription.failure?, hfailures, hlater]
    rfl
  obtain ⟨-, -, hreceived, -⟩ := run_delivers hreturning
  have hfirst := hreceived [] ⟨"lamp", "a", [], none⟩ (lampCalls.drop 1) rfl
  have hsecond := hreceived (lampCalls.take 3) ⟨"lamp", "a", [], none⟩ (lampCalls.drop 4) rfl
  exact ⟨hreturning, hfirst, hsecond⟩

end Memory

end MailGateway.Publisher
