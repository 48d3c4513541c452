import MailGateway.Proofs.Connection

/-!
# Runs over connections

An event concerns one connection: `get_step` says what becomes of it, and that the others stay as they
are.  The settings stay for ever.  A property that every event preserves under the settings therefore
holds of every connection at every point of a run.
-/

namespace MailGateway

def Event.name : Event → Text
  | .connect name _ | .newEnvelope name | .free name | .command name _ => name

/-- What becomes of a connection at an event that is about it.  A connection that was freed is like one
that was never used. -/
def Connection.after [Platform] (connection : Connection) (server : Server) : Event → Connection
  | .connect _ peer => .fresh peer
  | .newEnvelope _ => { connection with envelope := .empty }
  | .free _ => .fresh (.other .null)
  | .command _ command => (connection.act server command).connection

namespace Connections

/-- An event and what came of it. -/
abbrev Call := Event × Except Fault (Option Answer)

def calls [Platform] (state : Connections) (events : List Event) : List Call :=
  events.zip (state.run events).2

@[simp]
theorem calls_nil [Platform] (state : Connections) : state.calls [] = [] := rfl

@[simp]
theorem calls_cons [Platform] (state : Connections) (event : Event) (events : List Event) :
    state.calls (event :: events) =
      (event, (state.step event).result) :: (state.step event).state.calls events :=
  rfl

theorem run_cons_fst [Platform] (state : Connections) (event : Event) (events : List Event) :
    (state.run (event :: events)).1 = ((state.step event).state.run events).1 := rfl

/-- The answer of a step is the answer of the connection that it is about. -/
theorem step_command_answer [Platform] (state : Connections) (name : Text) (command : Command)
    (answer : Answer) :
    (state.step (.command name command)).result = .ok (some answer) ↔
      ((state.get name).act state.server command).result = .ok answer := by
  change Except.map some _ = _ ↔ _
  cases ((state.get name).act state.server command).result with
  | ok other => simp [Except.map]
  | error fault => simp [Except.map]

/-! ## Connections by their names -/

/-- A connection is found under its own name only. -/
theorem get_put (server : Server) (name : Text) (connection : Connection)
    (named : List (Text × Connection)) (other : Text) :
    (Connections.mk server (Named.put name connection named)).get other =
      if other = name then connection else (Connections.mk server named).get other := by
  unfold get
  rw [Named.get?_put]
  split <;> rfl

/-- A freed connection is a fresh one, and the others stay. -/
theorem get_free (state : Connections) (name other : Text) :
    (state.free name).get other =
      if other = name then .fresh (.other .null) else state.get other := by
  unfold free
  cases hname : Named.get? name state.named with
  | none =>
    by_cases h : other = name
    · rw [if_pos h, h, get, hname]
      rfl
    · rw [if_neg h]
  | some connection =>
    unfold get
    rw [Named.get?_drop]
    split <;> rfl

/-- An event decides about its connection and leaves the others alone. -/
theorem get_step [Platform] (state : Connections) (event : Event) (name : Text) :
    (state.step event).state.get name =
      if name = event.name then (state.get name).after state.server event else state.get name := by
  cases event with
  | connect other peer =>
    refine (get_put ..).trans ?_
    by_cases h : name = other
    · rw [if_pos h]
      exact (if_pos h).symm
    · rw [if_neg h]
      exact ((get_free ..).trans (if_neg h)).trans (if_neg h).symm
  | free other => exact get_free ..
  | newEnvelope other | command other command =>
    refine (get_put ..).trans ?_
    by_cases h : name = other
    · rw [h]
      exact (if_pos rfl).trans (if_pos rfl).symm
    · exact (if_neg h).trans (if_neg h).symm

/-- A step does to its connection what the connection does on its own. -/
theorem get_step_self [Platform] (state : Connections) (event : Event) :
    (state.step event).state.get event.name =
      (state.get event.name).after state.server event := by
  rw [get_step, if_pos rfl]

/-! ## Settings and invariants -/

theorem free_config (state : Connections) (name : Text) :
    (state.free name).server.backend.config = state.server.backend.config := by
  unfold free
  split <;> rfl

theorem step_config [Platform] (state : Connections) (event : Event) :
    (state.step event).state.server.backend.config = state.server.backend.config := by
  cases event with
  | connect name peer | free name => exact state.free_config name
  | newEnvelope name => rfl
  | command name command => exact (state.get name).act_config state.server command

/-- No run changes the configuration. -/
theorem run_config [Platform] (state : Connections) (events : List Event) :
    (state.run events).1.server.backend.config = state.server.backend.config := by
  induction events generalizing state with
  | nil => rfl
  | cons event events ih =>
    rw [run_cons_fst, ih]
    exact state.step_config event

/-- What every event preserves under the settings holds of every connection after a run. -/
theorem run_invariant [Platform] {config : Config} {holds : Connection → Prop}
    (hafter : ∀ (connection : Connection) (server : Server) (event : Event),
      server.backend.config = config → holds connection → holds (connection.after server event))
    {state : Connections} (hconfig : state.server.backend.config = config)
    (hstate : ∀ name, holds (state.get name)) (events : List Event) (name : Text) :
    holds ((state.run events).1.get name) := by
  induction events generalizing state with
  | nil => exact hstate name
  | cons event events ih =>
    rw [run_cons_fst]
    apply ih ((state.step_config event).trans hconfig)
    intro other
    rw [get_step]
    split
    · exact hafter _ _ _ hconfig (hstate other)
    · exact hstate other

end Connections

end MailGateway
