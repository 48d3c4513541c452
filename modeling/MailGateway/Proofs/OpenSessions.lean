import Mathlib.Algebra.Order.BigOperators.Group.Finset
import MailGateway.Proofs.ConnectionHistory

/-!
# The number of open sessions

A connection that is bound while it has no session raises the number of open sessions, and the end of its
session does not lower it: only when the connection is freed, all that it added is taken back.  An event
therefore changes the number by what it changes in the openings of its own connection, and the number is
the sum of the openings of the connections that are not freed.
-/

namespace MailGateway

namespace Connection

/-- What binding a connection adds to its openings. -/
def added (connection : Connection) : Nat :=
  if connection.binding.isNone then 1 else 0

/-- Binding opens a session where there was none. -/
theorem bind_openings (server : Server) (connection : Connection) (session : Session) :
    (bind server connection session).2.1.openings = connection.openings + connection.added := by
  unfold bind added
  dsimp only
  split <;> rfl

theorem bound_openings (server : Server) (connection : Connection) :
    (bound server connection).2.1.openings = connection.openings + connection.added := by
  cases h : connection.binding with
  | none =>
    have hbound : bound server connection = bind server connection .idle := by
      simp only [bound, h]
    rw [hbound, bind_openings]
  | some binding => simp [bound, added, h]

/-- What a command that binds its connection does to the openings and to the number of open sessions. -/
structure Opens (connection : Connection) (server : Server) (act : Act) : Prop where
  binding : act.connection.binding.isSome = true
  openings : act.connection.openings = connection.openings + connection.added
  sessions : act.server.backend.tally.metrics.sessions =
    server.backend.tally.metrics.sessions + connection.added

/-- The gauge counts the session that is opened. -/
theorem opened_sessions (connection : Connection) (server : Server) :
    (connection.opened server).backend.tally.metrics.sessions =
      server.backend.tally.metrics.sessions + connection.added := by
  rw [opened_backend, added]
  split <;> rfl

/-- Every command but the end binds its connection. -/
theorem act_opens [Platform] (connection : Connection) (server : Server) {command : Command}
    (hcommand : command ≠ .quit) : Opens connection server (connection.act server command) := by
  have hsessions := connection.opened_sessions server
  have hopenings := bound_openings server connection
  cases command with
  | auth credentials =>
    refine ⟨rfl, bind_openings server connection .idle, ?_⟩
    rw [← hsessions, opened_backend]
    exact congrArg (·.tally.metrics.sessions) (connection.auth_backend server credentials)
  | mail address options =>
    have hbinding := bound_binding server connection
    exact ⟨Option.isSome_of_eq_some hbinding, hopenings, hsessions⟩
  | rset => exact ⟨rfl, hopenings, hsessions⟩
  | rcpt address options =>
    have hend := connection.rcpt_end server address options
    change Opens connection server (connection.rcpt server address options)
    generalize connection.rcpt server address options = act at hend
    cases hend with
    | repeated | accepted | rejected | escaped => exact ⟨rfl, hopenings, hsessions⟩
  | data content =>
    obtain ⟨step, log, hend, hdata⟩ := connection.data_end server content
    change Opens connection server (connection.data server content)
    rw [hdata]
    exact ⟨rfl, hopenings, (congrArg (·.metrics.sessions) hend.tally_eq).trans hsessions⟩
  | quit => exact (hcommand rfl).elim

/-- Whether a connection without a session was bound, as a number. -/
def opening (before after : Connection) : Nat :=
  if before.binding.isNone && after.binding.isSome then 1 else 0

/-- A command opens at most one session. -/
theorem act_openings [Platform] (connection : Connection) (server : Server) (command : Command) :
    (connection.act server command).connection.openings =
      connection.openings + opening connection (connection.act server command).connection := by
  by_cases hcommand : command = .quit
  · subst hcommand
    change connection.openings = connection.openings + if _ && false then 1 else 0
    rw [Bool.and_false]
    rfl
  · have h := connection.act_opens server hcommand
    rw [h.openings, opening, h.binding, Bool.and_true]
    rfl

/-- A command changes the number of open sessions as it changes the openings of its connection. -/
theorem act_sessions [Platform] (connection : Connection) (server : Server) (command : Command) :
    (connection.act server command).server.backend.tally.metrics.sessions + connection.openings =
      server.backend.tally.metrics.sessions +
        (connection.act server command).connection.openings := by
  by_cases hcommand : command = .quit
  · subst hcommand
    rfl
  · have h := connection.act_opens server hcommand
    rw [h.sessions, h.openings]
    push_cast
    omega

end Connection

/-! ## Connections that are not freed -/

namespace Connections

/-- Whether there is a connection of a name after events: the last one about it did not free it. -/
def isLive (name : Text) (events : List Event) : Bool :=
  match (events.filter fun event ↦ event.name = name).getLast? with
  | none | some (.free _) => false
  | some _ => true

theorem isLive_concat (name : Text) (events : List Event) (event : Event) :
    isLive name (events ++ [event]) =
      if name = event.name then (match event with | .free _ => false | _ => true)
      else isLive name events := by
  unfold isLive
  rw [List.filter_append]
  by_cases hname : name = event.name
  · rw [if_pos hname, List.filter_cons_of_pos (by simp [hname]), List.filter_nil,
      List.getLast?_append_of_ne_nil _ (List.cons_ne_nil _ _), List.getLast?_singleton]
    cases event <;> rfl
  · rw [if_neg hname, List.filter_cons_of_neg (by simpa using Ne.symm hname), List.filter_nil,
      List.append_nil]

/-- The names of the connections that are not freed. -/
def live (events : List Event) : Finset Text :=
  (events.map Event.name).toFinset.filter fun name ↦ isLive name events = true

/-- A connection that was freed, or was never used, is like one on which nothing has been said. -/
theorem get_of_not_isLive [Platform] {backend : Backend} {events : List Event} {name : Text}
    (h : isLive name events = false) :
    ((start backend).run events).1.get name = .fresh (.other .null) := by
  induction events using List.reverseRecOn with
  | nil => rfl
  | append_singleton events event ih =>
    rw [isLive_concat] at h
    rw [run_concat, get_step]
    by_cases hname : name = event.name
    · rw [if_pos hname] at h ⊢
      cases event with
      | free => rfl
      | connect | newEnvelope | command => cases h
    · rw [if_neg hname] at h ⊢
      exact ih h

/-! ## The sum of the openings -/

/-- An event changes the number of open sessions as it changes the openings of its connection. -/
theorem step_sessions [Platform] (state : Connections) (event : Event) :
    (state.step event).state.server.backend.tally.metrics.sessions +
        (state.get event.name).openings =
      state.server.backend.tally.metrics.sessions +
        ((state.step event).state.get event.name).openings := by
  have hfree (name : Text) : (state.free name).server.backend.tally.metrics.sessions +
      (state.get name).openings = state.server.backend.tally.metrics.sessions + 0 := by
    unfold free get
    cases Named.get? name state.named with
    | none => rfl
    | some connection => exact (Int.neg_add_cancel_right _ _).trans (Int.add_zero _).symm
  rw [get_step_self]
  cases event with
  | connect name peer | free name => exact hfree name
  | newEnvelope name => rfl
  | command name command => exact (state.get name).act_sessions state.server command

/-- The number of open sessions is the sum of the openings over any names that comprise those of all
events. -/
theorem run_sessions [Platform] {backend : Backend} (hbackend : backend.tally.metrics.sessions = 0)
    {events : List Event} {names : Finset Text} (hnames : ∀ event ∈ events, event.name ∈ names) :
    ((start backend).run events).1.server.backend.tally.metrics.sessions =
      ∑ name ∈ names, ((((start backend).run events).1.get name).openings : Int) := by
  induction events using List.reverseRecOn with
  | nil => exact hbackend.trans (Finset.sum_eq_zero fun _ _ ↦ rfl).symm
  | append_singleton events event ih =>
    have hevent : event.name ∈ names := hnames event (by simp)
    have hothers := ih fun other h ↦ hnames other (List.mem_append_left _ h)
    have hstep := step_sessions ((start backend).run events).1 event
    have hsame (name : Text) (h : name ∈ names.erase event.name) :
        (((((start backend).run events).1.step event).state.get name).openings : Int) =
          (((start backend).run events).1.get name).openings := by
      rw [get_step, if_neg (Finset.ne_of_mem_erase h)]
    rw [← Finset.add_sum_erase names _ hevent] at hothers
    rw [run_concat, ← Finset.add_sum_erase names _ hevent,
      Finset.sum_congr rfl hsame]
    omega

/-- How often a connection was bound while it had no session, since it was connected. -/
def openings [Platform] (name : Text) (state : Connections) (events : List Event) : Nat :=
  remember 0 (fun _ before after known ↦ known + Connection.opening before after) name 0 state events

/-- What a connection counts of its openings is what they were in the run. -/
theorem openings_eq [Platform] (backend : Backend) (events : List Event) (name : Text) :
    (((start backend).run events).1.get name).openings = openings name (start backend) events :=
  remember_invariant (fun connection known ↦ connection.openings = known) (fun _ ↦ rfl)
    (fun _ _ h ↦ h) (fun connection server command known h ↦ by rw [connection.act_openings, h])
    backend events name

/-! ## One visit -/

/-- How often a connection was bound without a session, and whether it has one, after a further command. -/
def visit : Nat × Bool → Command → Nat × Bool
  | (openings, _), .quit => (openings, false)
  | (openings, true), _ => (openings, true)
  | (openings, false), _ => (openings + 1, true)

/-- Any command but a goodbye opens a session where there is none. -/
theorem visit_of_ne {command : Command} (h : command ≠ .quit) (openings : Nat) (hasSession : Bool) :
    visit (openings, hasSession) command = (openings + if hasSession then 0 else 1, true) := by
  cases command with
  | quit => exact (h rfl).elim
  | auth | mail | rcpt | data | rset => cases hasSession <;> rfl

/-- Openings can be told from the commands alone. -/
theorem act_visit [Platform] (connection : Connection) (server : Server) (command : Command) :
    let next := (connection.act server command).connection
    (next.openings, next.binding.isSome) =
      visit (connection.openings, connection.binding.isSome) command := by
  intro next
  by_cases hcommand : command = .quit
  · subst hcommand
    rfl
  · have h := connection.act_opens server hcommand
    rw [visit_of_ne hcommand, h.openings, h.binding, Connection.added]
    cases connection.binding <;> rfl

/-- The commands of a connection decide how often it was bound without a session. -/
theorem openings_said [Platform] (backend : Backend) (events : List Event) (name : Text) :
    openings name (start backend) events =
      ((said name (start backend) events).foldl visit (0, false)).1 := by
  let holds (connection : Connection) (known : List Command) : Prop :=
    (connection.openings, connection.binding.isSome) = known.foldl visit (0, false)
  have hcommand (connection : Connection) (server : Server) (command : Command)
      (known : List Command) (h : holds connection known) :
      holds (connection.act server command).connection (known ++ [command]) := by
    change _ = (known ++ [command]).foldl visit (0, false)
    rw [List.foldl_append, ← h]
    exact act_visit connection server command
  have hvisits : holds (((start backend).run events).1.get name)
      (said name (start backend) events) :=
    remember_invariant holds (fun _ ↦ rfl) (fun _ _ h ↦ h) hcommand backend events name
  rw [← openings_eq]
  exact congrArg Prod.fst hvisits

/-- An open session stays the only one until a goodbye. -/
theorem foldl_visit_open {commands : List Command} (h : .quit ∉ commands) (n : Nat) :
    commands.foldl visit (n, true) = (n, true) := by
  induction commands with
  | nil => rfl
  | cons command commands ih =>
    obtain ⟨hcommand, hcommands⟩ := List.ne_and_not_mem_of_not_mem_cons h
    rw [List.foldl_cons, visit_of_ne (Ne.symm hcommand)]
    exact ih hcommands

/-- Goodbyes open nothing. -/
theorem foldl_visit_quits (k n : Nat) (hasSession : Bool) :
    ((List.replicate k Command.quit).foldl visit (n, hasSession)).1 = n := by
  induction k generalizing hasSession with
  | zero => rfl
  | succ k ih => exact ih false

/-- Any commands that do not end the session, and then the end of the session, are one visit. -/
theorem visits_once {commands : List Command} (hne : commands ≠ []) (hquit : .quit ∉ commands)
    (k : Nat) : ((commands ++ List.replicate k Command.quit).foldl visit (0, false)).1 = 1 := by
  cases commands with
  | nil => exact (hne rfl).elim
  | cons command commands =>
    obtain ⟨hcommand, hcommands⟩ := List.ne_and_not_mem_of_not_mem_cons hquit
    rw [List.foldl_append, List.foldl_cons, visit_of_ne (Ne.symm hcommand),
      foldl_visit_open hcommands, foldl_visit_quits]
    rfl

/-! ## The number of open sessions after a run -/

/-- After any run the number of open sessions is the sum, over the connections that are not freed, of how
often they were bound while they had no session, and so it is not negative.  A connection that was given
some commands and at most its end after them counts once, whatever the commands were.  When every
connection is freed, no session is open. -/
theorem run_counts_openings [Platform] {backend : Backend} (hbackend : backend.tally.metrics.sessions = 0)
    (events : List Event) :
    let sessions := ((start backend).run events).1.server.backend.tally.metrics.sessions
    sessions = ∑ name ∈ live events, (openings name (start backend) events : Int) ∧
      0 ≤ sessions ∧
      (∀ name ∈ live events, ∀ commands k,
        said name (start backend) events = commands ++ List.replicate k .quit →
          commands ≠ [] → .quit ∉ commands → openings name (start backend) events = 1) ∧
      ((∀ event ∈ events, isLive event.name events = false) → sessions = 0) := by
  intro sessions
  have hnames : ∀ event ∈ events, event.name ∈ (events.map Event.name).toFinset :=
    fun event h ↦ List.mem_toFinset.mpr (List.mem_map_of_mem h)
  have hlive (name : Text) (_ : name ∈ (events.map Event.name).toFinset)
      (h : (openings name (start backend) events : Int) ≠ 0) : isLive name events = true := by
    apply Bool.of_not_eq_false
    intro hfreed
    rw [← openings_eq, get_of_not_isLive hfreed] at h
    exact h rfl
  have hsum : sessions = ∑ name ∈ live events, (openings name (start backend) events : Int) := by
    rw [live, Finset.sum_filter_of_ne hlive]
    exact (run_sessions hbackend hnames).trans
      (Finset.sum_congr rfl fun name _ ↦ congrArg Int.ofNat (openings_eq backend events name))
  refine ⟨hsum, ?_, ?_, ?_⟩
  · rw [hsum]
    exact Finset.sum_nonneg fun name _ ↦ Int.natCast_nonneg _
  · intro name _ commands k hsaid hne hquit
    rw [openings_said, hsaid, visits_once hne hquit]
  · intro hfreed
    have hempty : live events = ∅ := by
      apply Finset.filter_eq_empty_iff.mpr
      intro name hname
      obtain ⟨event, hevent, rfl⟩ := List.mem_map.mp (List.mem_toFinset.mp hname)
      rw [hfreed event hevent]
      exact Bool.false_ne_true
    rw [hsum, hempty, Finset.sum_empty]

/-- Two connections of which one comes back after its end, and a third one that is freed. -/
def threeVisitors : List Event :=
  [.command "a" (.auth none), .command "b" (.mail "x@y" []), .command "a" (.auth none),
    .command "a" .quit, .command "c" .rset, .command "a" .rset, .newEnvelope "b", .free "c",
    .command "b" .quit]

section Bare

attribute [local instance] Platform.bare

/-- The one that came back counts twice, and the one that was freed does not count. -/
theorem threeVisitors_open :
    let backend : Backend :=
      ⟨⟨"b", none, 4096, none⟩, .memory .empty, .empty, ⟨[], 0⟩, ⟨0, []⟩⟩
    backend.tally.metrics.sessions = 0 ∧
      ((start backend).run threeVisitors).1.server.backend.tally.metrics.sessions = 3 := by
  intro backend
  have hbackend : backend.tally.metrics.sessions = 0 := rfl
  refine ⟨hbackend, (run_counts_openings hbackend threeVisitors).1.trans ?_⟩
  decide +kernel

end Bare

end Connections

end MailGateway
