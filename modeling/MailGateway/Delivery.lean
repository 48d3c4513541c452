import MailGateway.Text.Basic

/-!
# Counting deliveries

Every finished delivery, and every failed step towards one, is counted twice: in the counters of the
backend and in the metrics of the process.  A metric appears once it has been counted for the first
time.
-/

namespace MailGateway.Delivery

inductive Outcome where
  | success
  | failure
deriving DecidableEq, Repr

def Outcome.name : Outcome → Text
  | .success => "success"
  | .failure => "failure"

/-- How many steps ended well and how many did not. -/
structure Counters where
  success : Nat
  failure : Nat
deriving DecidableEq, Repr

namespace Counters

def record (counters : Counters) : Outcome → Counters
  | .success => { counters with success := counters.success + 1 }
  | .failure => { counters with failure := counters.failure + 1 }

def count (counters : Counters) : Outcome → Nat
  | .success => counters.success
  | .failure => counters.failure

def toText (counters : Counters) : Text :=
  "DeliveryCounters(success=" ++ Text.ofNat counters.success ++ ", failure=" ++
    Text.ofNat counters.failure ++ ")"

end Counters

/-- The metrics: the count of every outcome in the order of their first use, and the number of open
sessions. -/
structure Metrics where
  deliveries : List (Outcome × Nat)
  sessions : Int
deriving DecidableEq, Repr

def countIn (outcome : Outcome) : List (Outcome × Nat) → List (Outcome × Nat)
  | [] => [(outcome, 1)]
  | (known, count) :: counts =>
    if known = outcome then (known, count + 1) :: counts else (known, count) :: countIn outcome counts

namespace Metrics

def record (metrics : Metrics) (outcome : Outcome) : Metrics :=
  { metrics with deliveries := countIn outcome metrics.deliveries }

/-- The count of an outcome, if it was counted at all. -/
def count? (metrics : Metrics) (outcome : Outcome) : Option Nat :=
  metrics.deliveries.lookup outcome

def addSessions (metrics : Metrics) (change : Int) : Metrics :=
  { metrics with sessions := metrics.sessions + change }

end Metrics

/-- The counters of a backend together with the metrics. -/
structure Tally where
  counters : Counters
  metrics : Metrics
deriving DecidableEq, Repr

namespace Tally

def empty : Tally := ⟨⟨0, 0⟩, ⟨[], 0⟩⟩

def record (tally : Tally) (outcome : Outcome) : Tally :=
  ⟨tally.counters.record outcome, tally.metrics.record outcome⟩

end Tally

end MailGateway.Delivery
