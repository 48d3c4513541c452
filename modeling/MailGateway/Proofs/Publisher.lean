import MailGateway.Backend

/-!
# What publishers accept

Two views of a publisher.  `accepted` lists what it took, as channels with payloads; for each kind of
publishers a publication that is handed over successfully is appended to it once, and one that is not
is appended at most once.  `asked` describes a bus or a function after any number of requests: each
request uses up one entry of the schedule of failures, and a failing one delivers nothing.
-/

namespace MailGateway

/-- The error of publishing that a failure surfaces as: itself if it is one already, else wrapped. -/
def Failure.surfaced (topic : Text) (f : Failure) : GatewayError :=
  match f.kind with
  | .gateway c => if c.isA .publish then .reported c f.text else .publisherFailed topic f.text
  | _ => .publisherFailed topic f.message

/-- Whatever a publisher fails with is shown as an error of publishing. -/
theorem Failure.surfaced_isA (topic : Text) (f : Failure) :
    (f.surfaced topic).errorClass.isA .publish = true := by
  obtain ⟨kind, text⟩ := f
  cases kind with
  | gateway c =>
    by_cases h : c.isA .publish = true
    · simp [surfaced, h, GatewayError.errorClass]
    · rw [Bool.not_eq_true] at h
      simp only [surfaced, h]
      rfl
  | bus name => rfl
  | other name => rfl

/-- A failure is shown as itself if it is an error of publishing, and wrapped if not. -/
theorem Session.publishFault_ofFailure (topic : Text) (f : Failure) :
    publishFault topic (.ofFailure f) = .gateway (f.surfaced topic) := by
  obtain ⟨kind, text⟩ := f
  cases kind with
  | gateway c =>
    by_cases h : c.isA .publish = true
    · simp [publishFault, Fault.ofFailure, Failure.surfaced, GatewayError.errorClass, h]
    · rw [Bool.not_eq_true] at h
      simp only [publishFault, Fault.ofFailure, Failure.surfaced, GatewayError.errorClass, h]
      rfl
  | bus name | other name =>
    simp only [publishFault, Fault.ofFailure, Failure.surfaced, Fault.message]

/-- Whatever a publisher reports, the session raises an error of publishing. -/
theorem Session.publishFault_isA (topic : Text) (fault : Fault) :
    ∃ e, publishFault topic fault = .gateway e ∧ e.errorClass.isA .publish = true := by
  cases fault with
  | gateway e =>
    by_cases h : e.errorClass.isA .publish = true
    · exact ⟨e, by simp [publishFault, h], h⟩
    · exact ⟨.publisherFailed topic e.message, by simp [publishFault, h], rfl⟩
  | field | charset | charsetName | pattern | config | unsupported | external =>
    exact ⟨_, rfl, rfl⟩

theorem ErrorClass.not_noRecipient_of_publish {c : ErrorClass} (h : c.isA .publish = true) :
    c.isA .noRecipient = false := by
  revert h
  cases c <;> decide

namespace Publisher

/-! ## Accepted publications -/

/-- How a publication is delivered: the channel or the topic, and the payload. -/
def delivery (publisher : Publisher) (p : Publication) : Text × Text :=
  match publisher with
  | .bus b => (b.channel p.topic, p.payload)
  | .memory _ | .callback _ => (p.topic, p.payload)

def accepted : Publisher → List (Text × Text)
  | .memory m => m.published.map fun p ↦ (p.topic, p.payload)
  | .bus b => b.sent
  | .callback c => c.received.map fun p ↦ (p.topic, p.payload)

/-- A bus after requests of which some were answered: the schedule is used up from the front, and
the deliveries follow the earlier ones. -/
def Bus.asked (bus : Bus) (requests : Nat) (delivered : List Publication) : Bus :=
  { bus with
    failures := bus.failures.drop requests
    sent := bus.sent ++ delivered.map fun p ↦ (bus.channel p.topic, p.payload) }

/-- A function after calls of which some succeeded. -/
def Callback.asked (callback : Callback) (requests : Nat) (delivered : List Publication) :
    Callback :=
  { failures := callback.failures.drop requests, received := callback.received ++ delivered }

/-- A bus without a failure for this request takes the publication. -/
theorem Bus.publish_of_none {bus : Bus} (h : bus.failures.head?.join = none) (p : Publication) :
    (bus.publish p).publisher = bus.asked 1 [p] ∧ (bus.publish p).result = .ok () := by
  simp [publish, asked, h]

/-- A bus takes nothing where it fails. -/
theorem Bus.publish_of_some {bus : Bus} {f : Failure} (h : bus.failures.head?.join = some f)
    (p : Publication) :
    (bus.publish p).publisher = bus.asked 1 [] ∧
      (bus.publish p).result = .error (if f.isBus then
        .gateway (.busRefused (bus.channel p.topic) f.message) else .ofFailure f) := by
  by_cases hbus : f.isBus = true <;> simp [publish, asked, h, hbus]

/-- A function without a failure for this call takes the publication. -/
theorem Callback.publish_of_none {callback : Callback} (h : callback.failures.head?.join = none)
    (p : Publication) :
    (callback.publish p).publisher = callback.asked 1 [p] ∧
      (callback.publish p).result = .ok () := by
  simp [publish, asked, h]

theorem Callback.publish_of_some {callback : Callback} {f : Failure}
    (h : callback.failures.head?.join = some f) (p : Publication) :
    (callback.publish p).publisher = callback.asked 1 [] ∧
      (callback.publish p).result = .error (.ofFailure f) := by
  simp [publish, asked, h]

/-- The memory stores a publication before it tells anybody. -/
theorem Memory.published_publish (memory : Memory) (p : Publication) :
    (memory.publish p).publisher.published = memory.published ++ [p] := by
  unfold publish
  dsimp only
  split <;> rfl

/-- A publication that was accepted is the last one. -/
theorem accepted_publish_of_ok {publisher : Publisher} {p : Publication}
    (h : (publisher.publish p).result = .ok ()) :
    (publisher.publish p).publisher.accepted = publisher.accepted ++ [publisher.delivery p] := by
  cases publisher with
  | memory memory =>
    change (memory.publish p).publisher.published.map _ = memory.published.map _ ++ _
    rw [Memory.published_publish, List.map_append]
    rfl
  | bus bus =>
    change (bus.publish p).result = .ok () at h
    change (bus.publish p).publisher.sent = bus.sent ++ _
    cases hnext : bus.failures.head?.join with
    | none =>
      rw [(Bus.publish_of_none hnext p).1]
      rfl
    | some f =>
      rw [(Bus.publish_of_some hnext p).2] at h
      cases h
  | callback callback =>
    change (callback.publish p).result = .ok () at h
    change (callback.publish p).publisher.received.map _ = callback.received.map _ ++ _
    cases hnext : callback.failures.head?.join with
    | none =>
      rw [(Callback.publish_of_none hnext p).1]
      exact List.map_append
    | some f =>
      rw [(Callback.publish_of_some hnext p).2] at h
      cases h

/-- A publication that is handed over is accepted once, or not at all.  The publisher within the
process accepts it also when a subscriber fails. -/
theorem accepted_publish (publisher : Publisher) (p : Publication) :
    (publisher.publish p).publisher.accepted = publisher.accepted ∨
      (publisher.publish p).publisher.accepted = publisher.accepted ++ [publisher.delivery p] := by
  cases publisher with
  | memory memory =>
    right
    change (memory.publish p).publisher.published.map _ = memory.published.map _ ++ _
    rw [Memory.published_publish, List.map_append]
    rfl
  | bus bus =>
    cases hnext : bus.failures.head?.join with
    | none => exact .inr (accepted_publish_of_ok (Bus.publish_of_none hnext p).2)
    | some f =>
      left
      change (bus.publish p).publisher.sent = bus.sent
      rw [(Bus.publish_of_some hnext p).1]
      exact List.append_nil _
  | callback callback =>
    cases hnext : callback.failures.head?.join with
    | none => exact .inr (accepted_publish_of_ok (Callback.publish_of_none hnext p).2)
    | some f =>
      left
      change (callback.publish p).publisher.received.map _ = callback.received.map _
      rw [(Callback.publish_of_some hnext p).1]
      exact congrArg (List.map _) (List.append_nil _)

/-! ## Publishers with a schedule of failures -/

/-- A bus or a function, whose failures are scheduled request by request. -/
def IsScheduled : Publisher → Prop
  | .memory _ => False
  | .bus _ | .callback _ => True

def schedule : Publisher → List (Option Failure)
  | .memory _ => []
  | .bus b => b.failures
  | .callback c => c.failures

/-- A publisher after requests of which some were answered. -/
def asked (requests : Nat) (delivered : List Publication) : Publisher → Publisher
  | .memory m => .memory m
  | .bus b => .bus (b.asked requests delivered)
  | .callback c => .callback (c.asked requests delivered)

/-- The error that the session raises for a failure of its publisher.  The bus has a wording of its
own for the failures that it reports itself. -/
def refusal (publisher : Publisher) (topic : Text) (f : Failure) : GatewayError :=
  match publisher with
  | .bus b => if f.isBus then .busRefused (b.channel topic) f.message else f.surfaced topic
  | .memory _ | .callback _ => f.surfaced topic

@[simp]
theorem asked_zero (publisher : Publisher) : publisher.asked 0 [] = publisher := by
  cases publisher <;> simp [asked, Bus.asked, Callback.asked]

@[simp]
theorem asked_asked (publisher : Publisher) (m n : Nat) (first second : List Publication) :
    (publisher.asked m first).asked n second = publisher.asked (m + n) (first ++ second) := by
  cases publisher <;> simp [asked, Bus.asked, Callback.asked, Bus.channel]

@[simp]
theorem isScheduled_asked (publisher : Publisher) (n : Nat) (delivered : List Publication) :
    (publisher.asked n delivered).IsScheduled ↔ publisher.IsScheduled := by
  cases publisher <;> rfl

/-- Every request uses up one entry of the schedule. -/
theorem schedule_asked {publisher : Publisher} (h : publisher.IsScheduled) (n : Nat)
    (delivered : List Publication) :
    (publisher.asked n delivered).schedule = publisher.schedule.drop n := by
  cases publisher with
  | memory memory => exact h.elim
  | bus bus => rfl
  | callback callback => rfl

@[simp]
theorem refusal_asked (publisher : Publisher) (n : Nat) (delivered : List Publication) (topic : Text)
    (f : Failure) : (publisher.asked n delivered).refusal topic f = publisher.refusal topic f := by
  cases publisher <;> rfl

/-- Every refusal is an error of publishing. -/
theorem refusal_isA (publisher : Publisher) (topic : Text) (f : Failure) :
    (publisher.refusal topic f).errorClass.isA .publish = true := by
  cases publisher with
  | memory memory => exact f.surfaced_isA topic
  | callback callback => exact f.surfaced_isA topic
  | bus bus =>
    by_cases h : f.isBus = true
    · simp only [refusal, h]
      rfl
    · simp only [refusal, h]
      exact f.surfaced_isA topic

/-- A request without a failure is accepted. -/
theorem publish_of_none {publisher : Publisher} (hscheduled : publisher.IsScheduled)
    (h : publisher.schedule.head?.join = none) (p : Publication) :
    (publisher.publish p).publisher = publisher.asked 1 [p] ∧
      (publisher.publish p).result = .ok () := by
  cases publisher with
  | memory memory => exact hscheduled.elim
  | bus bus =>
    obtain ⟨hbus, hresult⟩ := Bus.publish_of_none h p
    exact ⟨congrArg Publisher.bus hbus, hresult⟩
  | callback callback =>
    obtain ⟨hcallback, hresult⟩ := Callback.publish_of_none h p
    exact ⟨congrArg Publisher.callback hcallback, hresult⟩

/-- A scheduled failure delivers nothing, and the session raises its refusal. -/
theorem publish_of_some {publisher : Publisher} (hscheduled : publisher.IsScheduled) {f : Failure}
    (h : publisher.schedule.head?.join = some f) (p : Publication) :
    (publisher.publish p).publisher = publisher.asked 1 [] ∧
      ∃ fault, (publisher.publish p).result = .error fault ∧
        Session.publishFault p.topic fault = .gateway (publisher.refusal p.topic f) := by
  cases publisher with
  | memory memory => exact hscheduled.elim
  | bus bus =>
    obtain ⟨hbus, hresult⟩ := Bus.publish_of_some h p
    refine ⟨congrArg Publisher.bus hbus, _, hresult, ?_⟩
    by_cases hown : f.isBus = true
    · simp only [hown, refusal]
      rfl
    · simp only [hown, refusal]
      exact Session.publishFault_ofFailure p.topic f
  | callback callback =>
    obtain ⟨hcallback, hresult⟩ := Callback.publish_of_some h p
    exact ⟨congrArg Publisher.callback hcallback, _, hresult,
      Session.publishFault_ofFailure p.topic f⟩

end Publisher

end MailGateway
