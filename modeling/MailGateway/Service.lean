import MailGateway.Backend
import MailGateway.Health

/-!
# The observability service

Three pages over HTTP: the counters, the health of the gateway, and the metrics as text.  Every other
page is missing, and pages are only read.

How paths are routed and how metrics are written follows the libraries that do it.  The theorems about
the service are about its health page, and of all this they use only the path of that page.
-/

namespace MailGateway.Service

inductive Content where
  | value (value : Value)
  | lines (lines : List Text)
deriving Repr

/-- An answer: its status code and its content. -/
structure Response where
  status : Nat
  content : Content
deriving Repr

def Response.mediaType (response : Response) : Text :=
  match response.content with
  | .value _ => "application/json"
  | .lines _ => "text/plain; version=1.0.0; charset=utf-8"

inductive Page where
  | stats
  | health
  | metrics
deriving DecidableEq, Repr

/-- The page of a path.  Slashes at the end of a path do not count. -/
def page? (path : Text) : Option Page :=
  let path := Text.dropTail (· == '/') path
  if path = "/stats" then some .stats
  else if path = "/health" then some .health
  else if path = "/metrics" then some .metrics
  else none

def failed (status : Nat) (detail : String) : Response :=
  ⟨status, .value (.object [("detail".toList, .text detail)])⟩

def stats (counters : Delivery.Counters) : Response :=
  ⟨200, .value (.object [("smtp".toList, .object
    [("success".toList, .int counters.success), ("failure".toList, .int counters.failure)])])⟩

/-- A count as a fractional number.  From a million on it has an exponent. -/
def sample (n : Int) : Text :=
  let digits := Text.ofNat n.natAbs
  if 0 < n ∧ 6 < digits.length then
    let kept := (digits ++ ['0']).reverse.dropWhile (fun c ↦ c == '0' || c == '.')
    Binary64.withPoint kept.reverse 1 ++ "e+0" ++ Text.ofNat (digits.length - 1)
  else Text.ofInt n ++ ".0"

def deliveriesMetric : Text := "topicmail_smtp_deliveries_total"

/-- The name of the metric that counts open sessions. -/
def sessionsMetric : Text := "topicmail_smtp_sessions_active"

def describe (name help kind : Text) : List Text :=
  ["# HELP " ++ name ++ ' ' :: help, "# TYPE " ++ name ++ ' ' :: kind]

def metricLines (metrics : Delivery.Metrics) : List Text :=
  describe deliveriesMetric "Total SMTP RCPT/DATA outcomes" "counter" ++
  (metrics.deliveries.map fun (outcome, count) ↦
    deliveriesMetric ++ "\x7bstatus=\"" ++ outcome.name ++ "\"\x7d " ++ sample count) ++
  describe sessionsMetric "Number of open SMTP sessions" "gauge" ++
  [sessionsMetric ++ ' ' :: sample metrics.sessions]

def componentValue (component : Health.Component) : Value :=
  .object [("status".toList, .text component.status.name),
    ("message".toList, .text component.message),
    ("latency_ms".toList, (component.latency.map Value.float).getD .null)]

def health (publisher deliveries : Health.Component) : Response :=
  let overall := Health.overall [publisher.status, deliveries.status]
  ⟨if overall = .unhealthy then 503 else 200,
    .value (.object [("status".toList, .text overall.name),
      ("components".toList, .object [("publisher".toList, componentValue publisher),
        ("smtp".toList, componentValue deliveries)])])⟩

structure Served where
  backend : Backend
  log : List Log.Entry
  result : Except Fault Response

def checkHealth (backend : Backend) : Served :=
  let (publisher, log, answer) := match backend.publisher.ping? with
    | none => (backend.publisher, [], none)
    | some (publisher, log, answer) => (publisher, log, some answer)
  let check := Health.ofAnswer backend.clock.ticks answer
  let counters := backend.tally.counters
  ⟨{ backend with publisher := publisher, clock := { backend.clock with ticks := check.ticks } },
    log ++ check.log,
    check.result.map fun component ↦
      health component (Health.deliveries counters.success counters.failure)⟩

def serve (backend : Backend) (method path : Text) : Served :=
  match page? path with
  | none => ⟨backend, [], .ok (failed 404 "Not Found")⟩
  | some page =>
    if method ≠ "GET" then ⟨backend, [], .ok (failed 405 "Method Not Allowed")⟩
    else match page with
      | .stats => ⟨backend, [], .ok (stats backend.tally.counters)⟩
      | .metrics => ⟨backend, [], .ok ⟨200, .lines (metricLines backend.tally.metrics)⟩⟩
      | .health => checkHealth backend

/-- The entries of the start and the end of the service. -/
def lifecycle (backend : Backend) : List Log.Entry :=
  let counters := backend.tally.counters
  [⟨.info, .service, "Observability API starting up..."⟩,
    ⟨.info, .service, "Observability API shutting down (SMTP: " ++ Text.ofNat counters.success ++
      " successful, " ++ Text.ofNat counters.failure ++ " failed)"⟩]

end MailGateway.Service
