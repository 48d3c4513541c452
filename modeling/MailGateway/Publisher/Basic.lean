import MailGateway.Publisher.Bus

/-!
# Publishers

A backend publishes within the process, on a message bus, or by calling a function that somebody
else provides.
-/

namespace MailGateway

namespace Publisher

/-- A function that receives publications: its future failures, and what it received. -/
structure Callback where
  failures : List (Option Failure)
  received : List Publication
deriving Repr

def Callback.sent (callback : Callback) : List Text :=
  callback.received.map Publication.payload

def Callback.publish (callback : Callback) (p : Publication) : Handover Callback :=
  let failures := callback.failures.drop 1
  match callback.failures.head?.join with
  | some failure => ⟨{ callback with failures := failures }, [], .error (.ofFailure failure)⟩
  | none => ⟨⟨failures, callback.received ++ [p]⟩, [], .ok ()⟩

end Publisher

inductive Publisher where
  | memory (memory : Publisher.Memory)
  | bus (bus : Publisher.Bus)
  | callback (callback : Publisher.Callback)
deriving Repr

namespace Publisher

/-- A handover with the publisher put into another type. -/
def Handover.map (f : α → β) (handover : Handover α) : Handover β :=
  ⟨f handover.publisher, handover.log, handover.result⟩

def publish (publisher : Publisher) (p : Publication) : Handover Publisher :=
  match publisher with
  | .memory m => (m.publish p).map .memory
  | .bus b => (b.publish p).map .bus
  | .callback c => (c.publish p).map .callback

/-- The name of a kind of publishers in error texts. -/
def kindName : Publisher → Text
  | .memory _ => "InMemoryPublisher"
  | .bus _ => "RedisPublisher"
  | .callback _ => "function"

/-- Ask whether the receiver of publications is there.  Only a bus can be asked. -/
def ping? (publisher : Publisher) : Option (Publisher × List Log.Entry × Except Fault Bool) :=
  match publisher with
  | .bus b =>
    let (b, log, result) := b.ping
    some (.bus b, log, result)
  | _ => none

def ping (publisher : Publisher) : Publisher × List Log.Entry × Except Fault Bool :=
  publisher.ping?.getD (publisher, [], .error (.unsupported publisher.kindName "ping"))

def channel (publisher : Publisher) (topic : Text) : Except Fault Text :=
  match publisher with
  | .bus b => .ok (b.channel topic)
  | _ => .error (.unsupported publisher.kindName "channel_for")

end Publisher

end MailGateway
