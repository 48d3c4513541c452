import MailGateway.Proofs.Results
import MailGateway.Service

/-!
# The health page

The health page depends on the counters and on what the publisher says when it is asked.  A publisher that
says no, or a bus that reports a failure of its own, makes the page unhealthy.  Any other failure of the
publisher is not caught, neither where the publisher is asked nor where the page is made, and then there is
no page.
-/

namespace MailGateway

namespace Publisher

/-- What a publisher says when it is asked, if it can be asked. -/
def answer? (publisher : Publisher) : Option (Except Fault Bool) :=
  publisher.ping?.map fun asked ↦ asked.2.2

/-- Asking a bus fails if it fails in another way than its own.  A bus says no if its answer does not count
as true, or if it reports a failure of its own. -/
theorem answer?_bus (bus : Bus) :
    ((∀ fault, (Publisher.bus bus).answer? ≠ some (.error fault)) ↔
      ∀ f, bus.pongs.head? = some (.failure f) → f.isBus = true) ∧
    ((Publisher.bus bus).answer? = some (.ok false) ↔
      (∃ value, bus.pongs.head? = some (.answer value) ∧ value.isTrue = false) ∨
        ∃ f, bus.pongs.head? = some (.failure f) ∧ f.isBus = true) := by
  rw [answer?, ping?]
  unfold Bus.ping
  cases bus.pongs.head? with
  | none => simp
  | some pong =>
    cases pong with
    | answer value => simp
    | failure f => cases hbus : f.isBus <;> simp [hbus]

end Publisher

namespace Health

/-- One unhealthy part is enough. -/
theorem overall_unhealthy (status : Status) : overall [.unhealthy, status] = .unhealthy := by
  cases status <;> rfl

theorem overall_healthy (status : Status) : overall [.healthy, status] = status := by
  cases status <;> rfl

/-- A publisher is healthy unless it says no. -/
theorem status_of_answer {ticks : List Binary64} {answer : Option (Except Fault Bool)}
    {component : Component} (h : (ofAnswer ticks answer).result = .ok component) :
    (answer = some (.ok false) ∧ component.status = .unhealthy) ∨
      (answer ≠ some (.ok false) ∧ component.status = .healthy) := by
  unfold ofAnswer at h
  split at h <;> cases h
  · exact .inr ⟨nofun, rfl⟩
  · exact .inr ⟨nofun, rfl⟩
  · exact .inl ⟨rfl, rfl⟩

end Health

namespace Service

/-- The health page under the counters, for a publisher that says what is given, if it can be asked. -/
def healthPage (counters : Delivery.Counters) (ticks : List Binary64)
    (answer : Option (Except Fault Bool)) : Except Fault Response :=
  (Health.ofAnswer ticks answer).result.map fun component ↦
    health component (Health.deliveries counters.success counters.failure)

/-- The page is made of the counters, the clock and the answer of the publisher. -/
theorem serve_health (backend : Backend) :
    (serve backend "GET" "/health").result =
      healthPage backend.tally.counters backend.clock.ticks backend.publisher.answer? := by
  have hpage : page? "/health" = some .health := by decide
  rw [serve, hpage]
  dsimp only
  rw [if_neg (by simp), checkHealth, Publisher.answer?]
  cases backend.publisher.ping? <;> rfl

/-- The status that the content of an answer names. -/
def Response.statusText? (response : Response) : Option Text :=
  match response.content with
  | .value (.object fields) =>
    match fields.lookup "status".toList with
    | some (.text text) => some text
    | _ => none
  | _ => none

/-- The answer says how the gateway is as a whole, by its content and by its status code. -/
structure Reports (response : Response) (overall : Health.Status) (counters : Delivery.Counters)
    (answer : Option (Except Fault Bool)) : Prop where
  text : response.statusText? = some overall.name
  code : response.status = if overall = .unhealthy then 503 else 200
  unhealthy_iff : overall = .unhealthy ↔ answer = some (.ok false)
  degraded_iff : overall = .degraded ↔
    answer ≠ some (.ok false) ∧ counters.success < counters.failure
  healthy_iff : overall = .healthy ↔
    answer ≠ some (.ok false) ∧ ¬counters.success < counters.failure

/-- A page that is made reports both parts and how they are together. -/
theorem healthPage_reports {counters : Delivery.Counters} {ticks : List Binary64}
    {answer : Option (Except Fault Bool)} {response : Response}
    (h : healthPage counters ticks answer = .ok response) :
    ∃ overall, Reports response overall counters answer := by
  obtain ⟨component, hcomponent, rfl⟩ := map_eq_ok.mp h
  rcases Health.status_of_answer hcomponent with ⟨hanswer, hstatus⟩ | ⟨hanswer, hstatus⟩
  · have hoverall (status : Health.Status) : Health.overall [component.status, status] = .unhealthy := by
      rw [hstatus, Health.overall_unhealthy]
    refine ⟨_, rfl, rfl, ?_, ?_, ?_⟩
    all_goals simp [hoverall, hanswer]
  · have hoverall : Health.overall [component.status,
        (Health.deliveries counters.success counters.failure).status] =
          if counters.success < counters.failure then .degraded else .healthy :=
      calc
        Health.overall [component.status, _] =
            (Health.deliveries counters.success counters.failure).status := by
              rw [hstatus, Health.overall_healthy]
        _ = _ := by simp [Health.deliveries]
    refine ⟨_, rfl, rfl, ?_, ?_, ?_⟩
    all_goals by_cases hcounters : counters.success < counters.failure
    all_goals simp [hoverall, hanswer, hcounters]

/-- There is a health page exactly if asking the publisher does not fail, which for a bus means that it does
not fail in another way than its own.  The page is unhealthy with status code 503 exactly if the publisher
was asked and said no, and else its status code is 200 and it is degraded exactly if more deliveries failed
than succeeded. -/
theorem health_responds_iff (counters : Delivery.Counters) (ticks : List Binary64)
    (answer : Option (Except Fault Bool)) :
    (∀ backend : Backend, (serve backend "GET" "/health").result =
      healthPage backend.tally.counters backend.clock.ticks backend.publisher.answer?) ∧
    (∀ bus : Publisher.Bus,
      ((∀ fault, (Publisher.bus bus).answer? ≠ some (.error fault)) ↔
        ∀ f, bus.pongs.head? = some (.failure f) → f.isBus = true) ∧
      ((Publisher.bus bus).answer? = some (.ok false) ↔
        (∃ value, bus.pongs.head? = some (.answer value) ∧ value.isTrue = false) ∨
          ∃ f, bus.pongs.head? = some (.failure f) ∧ f.isBus = true)) ∧
    ((∃ response, healthPage counters ticks answer = .ok response) ↔
      ∀ fault, answer ≠ some (.error fault)) ∧
    ∀ response, healthPage counters ticks answer = .ok response →
      ∃ overall, Reports response overall counters answer := by
  refine ⟨serve_health, Publisher.answer?_bus, ?_, fun _ ↦ healthPage_reports⟩
  unfold healthPage
  match answer with
  | none | some (.ok true) | some (.ok false) => exact iff_of_true ⟨_, rfl⟩ nofun
  | some (.error fault) => exact iff_of_false nofun fun h ↦ h fault rfl

def unreachableBackend : Backend where
  config := ⟨"ntfy.example.com", none, Config.defaultLimit, none⟩
  publisher := .bus ⟨Publisher.Bus.defaultChannelStart, .int 1, [],
    [.failure ⟨.other "ConnectionError", "down"⟩], []⟩
  tally := .empty
  ids := ⟨[], 0⟩
  clock := ⟨0, []⟩

/-- The health page fails where it should say that the publisher is not there. -/
theorem unreachable_health_fails :
    unreachableBackend.publisher.answer? =
        some (.error (.external ⟨.other "ConnectionError", "down"⟩)) ∧
      (serve unreachableBackend "GET" "/health").result =
        .error (.external ⟨.other "ConnectionError", "down"⟩) ∧
      ¬∃ response, (serve unreachableBackend "GET" "/health").result = .ok response ∧
        response.status = 503 ∧ response.statusText? = some Health.Status.unhealthy.name := by
  have hresult : (serve unreachableBackend "GET" "/health").result =
      .error (.external ⟨.other "ConnectionError", "down"⟩) := serve_health unreachableBackend
  refine ⟨rfl, hresult, ?_⟩
  rintro ⟨response, hresponse, -⟩
  rw [hresult] at hresponse
  cases hresponse

end Service

end MailGateway
