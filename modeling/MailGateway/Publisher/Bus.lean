import MailGateway.Publisher.Memory

/-!
# Publishing on a message bus

Each publication goes to the channel of its topic.  The bus may fail: its own failures become errors
of the gateway, and any other failure is passed on.  The failures of future calls are part of the
state, so that a run is determined by the state that it starts in.
-/

namespace MailGateway.Publisher

/-- The answer of the bus when it is asked whether it is there. -/
inductive Pong where
  | answer (value : Value)
  | failure (f : Failure)
deriving Repr, Inhabited

/-- A connection to a message bus: how channel names start, the number of receivers that the bus
reports, its future failures and answers, and the payloads on their channels. -/
structure Bus where
  channelStart : Text
  receivers : Value
  failures : List (Option Failure)
  pongs : List Pong
  sent : List (Text × Text)
deriving Repr

namespace Bus

/-- The start of channel names unless another one is configured. -/
def defaultChannelStart : Text := "topic:"

def channel (bus : Bus) (topic : Text) : Text :=
  bus.channelStart ++ topic

def publish (bus : Bus) (p : Publication) : Handover Bus :=
  let channel := bus.channel p.topic
  let bus' := { bus with failures := bus.failures.drop 1 }
  match bus.failures.head?.join with
  | some failure =>
    if failure.isBus then
      ⟨bus', [⟨.error, .busPublisher,
        "Failed to publish message " ++ p.id ++ " to " ++ channel ++ ": " ++ failure.message⟩],
        .error (.gateway (.busRefused channel failure.message))⟩
    else ⟨bus', [], .error (.ofFailure failure)⟩
  | none =>
    ⟨{ bus' with sent := bus.sent ++ [(channel, p.payload)] },
      [⟨.info, .busPublisher, "Published message " ++ p.id ++ " to " ++ channel ++ " (" ++
        bus.receivers.plain ++ " subscribers)"⟩], .ok ()⟩

def ping (bus : Bus) : Bus × List Log.Entry × Except Fault Bool :=
  let bus' := { bus with pongs := bus.pongs.drop 1 }
  match bus.pongs.head? with
  | none => (bus', [], .ok true)
  | some (.answer value) => (bus', [], .ok value.isTrue)
  | some (.failure failure) =>
    if failure.isBus then
      (bus', [⟨.warning, .busPublisher, "Redis ping failed: " ++ failure.message⟩], .ok false)
    else (bus', [], .error (.ofFailure failure))

end Bus

end MailGateway.Publisher
