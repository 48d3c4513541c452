import MailGateway.Publisher.Basic

/-!
# Health

The gateway is healthy if its publisher answers and no more deliveries fail than succeed.  A publisher
that cannot be asked is healthy; one that does not answer makes the whole gateway unhealthy.
-/

namespace MailGateway.Health

inductive Status where
  | healthy
  | unhealthy
  | degraded
deriving DecidableEq, Repr

def Status.name : Status → Text
  | .healthy => "healthy"
  | .unhealthy => "unhealthy"
  | .degraded => "degraded"

/-- How a part of the gateway is, why, and how many milliseconds it took to answer. -/
structure Component where
  status : Status
  message : Text
  latency : Option Binary64
deriving DecidableEq, Repr

def deliveries (success failure : Int) : Component :=
  ⟨if success < failure then .degraded else .healthy,
    Text.ofInt success ++ " successful, " ++ Text.ofInt failure ++ " failed deliveries", none⟩

/-- The milliseconds between two times, with two decimal places. -/
def latency (start finish : Binary64) : Binary64 :=
  ((finish.sub start).mulNat 1000).roundTo 2

/-- The entry for a publisher that does not answer. -/
def silentEntry : Log.Entry :=
  ⟨.error, .health, "Publisher health check failed"⟩

/-- What came of asking a publisher: the remaining times, the log, and its health. -/
structure Check where
  ticks : List Binary64
  log : List Log.Entry
  result : Except Fault Component

/-- The first of the remaining times, which are zero when they are used up. -/
def time (ticks : List Binary64) : Binary64 :=
  ticks.headD (Binary64.round false 0 1)

/-- The health of a publisher that answered as given, if it can be asked at all. -/
def ofAnswer (ticks : List Binary64) (answer : Option (Except Fault Bool)) : Check :=
  match answer with
  | none => ⟨ticks, [], .ok ⟨.healthy, "In-process publisher", none⟩⟩
  | some (.error fault) => ⟨ticks.drop 1, [], .error fault⟩
  | some (.ok true) =>
    ⟨ticks.drop 2, [], .ok ⟨.healthy, "Publisher connection OK",
      some (latency (time ticks) (time (ticks.drop 1)))⟩⟩
  | some (.ok false) =>
    ⟨ticks.drop 2, [silentEntry], .ok ⟨.unhealthy, "Publisher not reachable", none⟩⟩

def overall (statuses : List Status) : Status :=
  if statuses.all (· == .healthy) then .healthy
  else if statuses.contains .unhealthy then .unhealthy
  else .degraded

end MailGateway.Health
