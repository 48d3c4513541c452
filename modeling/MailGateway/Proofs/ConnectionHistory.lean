import Mathlib.Data.List.Induction
import MailGateway.Proofs.ConnectionRun

/-!
# What happened to a connection

A run tells more than the state at its end.  `remember` goes through a run and keeps what the commands of
one connection leave behind, from the moment on when it was connected: a connection that is connected anew
or freed is forgotten.  Which commands it was given and when it was bound are two such histories.
-/

namespace MailGateway

variable {α : Type}

/-- What is remembered of a connection after an event that is about it.  A new connection starts with
`blank`, and a command adds its note. -/
def Event.recall (blank : α) (note : Command → Connection → Connection → α → α)
    (before after : Connection) (known : α) : Event → α
  | .connect .. | .free _ => blank
  | .newEnvelope _ => known
  | .command _ request => note request before after known

namespace Connections

def start (backend : Backend) : Connections :=
  ⟨⟨backend, 0, none⟩, []⟩

variable [Platform]

/-- A run can be interrupted at any event. -/
theorem run_append (state : Connections) (first second : List Event) :
    (state.run (first ++ second)).1 = ((state.run first).1.run second).1 := by
  induction first generalizing state with
  | nil => rfl
  | cons event first ih => exact ih (state.step event).state

theorem run_concat (state : Connections) (events : List Event) (event : Event) :
    (state.run (events ++ [event])).1 = ((state.run events).1.step event).state :=
  state.run_append events [event]

variable (blank : α) (note : Command → Connection → Connection → α → α)

/-- What is remembered of a connection after a run. -/
def remember (name : Text) (known : α) (state : Connections) : List Event → α
  | [] => known
  | event :: events =>
    let next := (state.step event).state
    let known :=
      if name = event.name then event.recall blank note (state.get name) (next.get name) known
      else known
    remember name known next events

theorem remember_concat (name : Text) (known : α) (state : Connections) (events : List Event)
    (event : Event) :
    remember blank note name known state (events ++ [event]) =
      let reached := (state.run events).1
      let known := remember blank note name known state events
      if name = event.name then
        event.recall blank note (reached.get name) ((reached.step event).state.get name) known
      else known := by
  induction events generalizing state known with
  | nil => rfl
  | cons first events ih => exact ih _ (state.step first).state

variable {blank note}

/-- What holds of a connection and of what is remembered of it, if every command preserves it. -/
theorem remember_invariant (holds : Connection → α → Prop)
    (hfresh : ∀ peer, holds (.fresh peer) blank)
    (henvelope : ∀ connection known, holds connection known →
      holds { connection with envelope := .empty } known)
    (hcommand : ∀ (connection : Connection) (server : Server) (command : Command) known,
      holds connection known →
        holds (connection.act server command).connection
          (note command connection (connection.act server command).connection known))
    (backend : Backend) (events : List Event) (name : Text) :
    holds (((start backend).run events).1.get name)
      (remember blank note name blank (start backend) events) := by
  induction events using List.reverseRecOn with
  | nil => exact hfresh _
  | append_singleton events event ih =>
    rw [run_concat, remember_concat]
    dsimp only
    rw [get_step]
    by_cases hname : name = event.name
    · rw [if_pos hname, if_pos hname]
      cases event with
      | connect | free => exact hfresh _
      | newEnvelope => exact henvelope _ _ ih
      | command other command => exact hcommand _ _ command _ ih
    · rw [if_neg hname, if_neg hname]
      exact ih

/-- The commands of a connection since it was connected. -/
def said (name : Text) (state : Connections) (events : List Event) : List Command :=
  remember [] (fun command _ _ known ↦ known ++ [command]) name [] state events

end Connections

end MailGateway
