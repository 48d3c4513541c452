import MailGateway.Error
import MailGateway.Log.Basic
import MailGateway.Publication

/-!
# Publishing within the process

The publisher keeps every publication and hands it to the subscribers of its topic, in the order of
their subscriptions.  A subscriber that fails ends the round: the publication is kept, and those
before it have received it.
-/

namespace MailGateway.Publisher

/-- What came of handing over a publication: the publisher afterwards, the log, and the result. -/
structure Handover (Publisher : Type) where
  publisher : Publisher
  log : List Log.Entry
  result : Except Fault Unit

/-- A subscription: its topic, its label, and how the subscriber fails.  The publisher makes one round
for each publication.  The failures of the first rounds are listed; `later` is for all others. -/
structure Subscription where
  topic : Text
  label : Text
  failures : List (Option Failure)
  later : Option Failure
deriving DecidableEq, Repr

/-- How the subscriber fails in a round, if it does. -/
def Subscription.failure? (subscription : Subscription) (round : Nat) : Option Failure :=
  (subscription.failures[round]?).getD subscription.later

/-- A publisher within the process.  What subscribers received is kept with the positions of their
subscriptions. -/
structure Memory where
  published : List Publication
  subscriptions : List Subscription
  received : List (Nat × Publication)
deriving DecidableEq, Repr

namespace Memory

/-- A publisher without publications and subscriptions. -/
def empty : Memory := ⟨[], [], []⟩

def subscribe (memory : Memory) (subscription : Subscription) : Memory :=
  { memory with subscriptions := memory.subscriptions ++ [subscription] }

/-- The publications, or those on a topic. -/
def publications (memory : Memory) (topic : Option Text) : List Publication :=
  match topic with
  | none => memory.published
  | some topic => memory.published.filter fun p ↦ p.topic == topic

/-- Hand a publication to the subscriptions of its topic, which are numbered from `index` on.  The
result is what was received, and the failure that ended the round. -/
def fanOut (p : Publication) (round index : Nat) :
    List Subscription → List (Nat × Publication) × Option Failure
  | [] => ([], none)
  | subscription :: rest =>
    if subscription.topic = p.topic then
      match subscription.failure? round with
      | some failure => ([], some failure)
      | none =>
        let (received, failure) := fanOut p round (index + 1) rest
        ((index, p) :: received, failure)
    else fanOut p round (index + 1) rest

def publish (memory : Memory) (p : Publication) : Handover Memory :=
  let (received, failure) := fanOut p memory.published.length 0 memory.subscriptions
  let after : Memory :=
    { memory with published := memory.published ++ [p], received := memory.received ++ received }
  match failure with
  | some failure => ⟨after, [], .error (.ofFailure failure)⟩
  | none =>
    ⟨after, [⟨.info, .memoryPublisher, "Published message " ++ p.id ++ " to topic " ++ p.topic⟩],
      .ok ()⟩

/-- What subscribers received: labels and payloads in the order of their delivery. -/
def deliveries (memory : Memory) : List (Text × Text) :=
  memory.received.map fun (index, p) ↦
    (((memory.subscriptions[index]?).map Subscription.label).getD [], p.payload)

end Memory

end MailGateway.Publisher
