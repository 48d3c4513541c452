import MailGateway.Proofs.ConnectionHistory

/-!
# Under which identifier log entries are written

Log entries are written under the identifier that is current, which is the one of the connection that was
given the last command.  Every command makes the identifier of its own connection current before it writes
anything, except for two: the entry of a login is written before the connection is bound, and the end of a
session leaves the current identifier as it is.  So exactly the entries of logins, and those of an end while
another connection was the last to speak, are written under an identifier that is not the connection's.
-/

namespace MailGateway

/-! ## Identifiers are distinct -/

/-- The number that hexadecimal digits stand for. -/
def Text.hexNumber (digits : Text) : Nat :=
  digits.foldl (fun n c ↦ 16 * n + (hexValue? c).getD 0) 0

/-- Leading zeros do not count in a number. -/
theorem Text.hexNumber_hex (width n : Nat) : hexNumber (hex width n) = n := by
  have hzeros (k : Nat) : hexNumber (List.replicate k '0') = 0 := by
    induction k with
    | zero => rfl
    | succ k ih => exact ih
  have hdigit : ∀ d < 16, (hexValue? d.digitChar).getD 0 = d := by decide
  have hdigits : hexNumber (Nat.toDigits 16 n) = n := by
    induction n using Nat.strongRecOn with
    | ind n ih =>
      by_cases hn : n < 16
      · rw [Nat.toDigits_of_lt_base hn, hexNumber, List.foldl_cons, hdigit n hn]
        simp
      · have hlast := hdigit (n % 16) (Nat.mod_lt _ (by decide))
        have hothers := ih (n / 16) (by omega)
        rw [hexNumber] at hothers
        rw [Nat.toDigits_of_base_le (by decide) (by omega), hexNumber, List.foldl_append, hothers,
          List.foldl_cons, hlast]
        exact Nat.div_add_mod n 16
  have hpad := hzeros (width - (Nat.toDigits 16 n).length)
  rw [hexNumber] at hpad hdigits
  rw [hex, padLeft, hexNumber, List.foldl_append, hpad, hdigits]

namespace Server

/-- Every number has an identifier of its own. -/
theorem sessionId_injective : Function.Injective sessionId :=
  Function.LeftInverse.injective (g := Text.hexNumber) (Text.hexNumber_hex 12)

/-- A text that is no identifier is the identifier of no number. -/
theorem sessionId_ne {text : Text} (h : sessionId (Text.hexNumber text) ≠ text) (n : Nat) :
    sessionId n ≠ text := by
  rintro rfl
  exact h (congrArg sessionId (Text.hexNumber_hex 12 n))

/-- The identifier of a session is not written as the mark that stands for no session. -/
theorem sessionName_sessionId (n : Nat) :
    Log.sessionName (some (sessionId n)) ≠ Log.sessionName none := by
  have hne : sessionId n ≠ [] := sessionId_ne (by decide +kernel) n
  have hmark : sessionId n ≠ "no-session-id" := sessionId_ne (by decide +kernel) n
  have hname : Log.sessionName (some (sessionId n)) = sessionId n := by
    cases hid : sessionId n with
    | nil => exact (hne hid).elim
    | cons c id => rfl
  rw [hname]
  exact hmark

end Server

/-! ## Commands -/

namespace Connection

/-- The identifier that a connection is bound under. -/
def id? (connection : Connection) : Option Text :=
  connection.binding.map Binding.id

/-- What a command other than the end leaves: the connection is bound under an identifier, which is
current.  It is the one that the connection had, or a new one. -/
structure Speaks (connection : Connection) (server : Server) (id : Text) (act : Act) : Prop where
  id_eq : act.connection.id? = some id
  current : act.server.current = some id
  origin : connection.id? = some id ∧ act.server.issued = server.issued ∨
    id = Server.sessionId (server.issued + 1) ∧ act.server.issued = server.issued + 1

/-- A connection is always bound under a new identifier. -/
theorem bind_id (server : Server) (connection : Connection) (session : Session) :
    (bind server connection session).2.2.1.id = Server.sessionId (server.issued + 1) ∧
      (bind server connection session).1.issued = server.issued + 1 := by
  unfold bind
  dsimp only
  split <;> exact ⟨rfl, rfl⟩

/-- The identifier of a connection after it was bound on demand. -/
def boundId (connection : Connection) (server : Server) : Text :=
  (bound server connection).2.2.1.id

/-- Binding makes the identifier of the connection the current one. -/
theorem bound_current (connection : Connection) (server : Server) :
    (bound server connection).1.current = some (connection.boundId server) := by
  unfold boundId bound
  split <;> rfl

/-- The identifier of a bound connection is its own, or the next one that is issued. -/
theorem bound_origin (connection : Connection) (server : Server) :
    connection.id? = some (connection.boundId server) ∧
        (bound server connection).1.issued = server.issued ∨
      connection.boundId server = Server.sessionId (server.issued + 1) ∧
        (bound server connection).1.issued = server.issued + 1 := by
  unfold id? boundId bound
  split
  · next binding h =>
    rw [h]
    exact .inl ⟨rfl, rfl⟩
  · next h => exact .inr (bind_id server connection .idle)

/-- All that binding logs is under the identifier of the connection. -/
theorem bound_log (connection : Connection) (server : Server) :
    ∀ line ∈ (bound server connection).2.2.2, line.session = some (connection.boundId server) := by
  unfold boundId bound
  split
  · exact fun _ h ↦ (List.not_mem_nil h).elim
  · next h => exact fun _ h ↦ (List.mem_singleton.mp h) ▸ rfl

/-- What is known when a connection was bound on demand stays so while the session and the backend go
on. -/
theorem speaks_bound (connection : Connection) (server : Server) (session : Session) {act : Act}
    (hconnection : act.connection.id? = (connection.proceed server session).id?)
    (hcurrent : act.server.current = (connection.opened server).current)
    (hissued : act.server.issued = (connection.opened server).issued) :
    Speaks connection server (connection.boundId server) act where
  id_eq := hconnection
  current := hcurrent.trans (connection.bound_current server)
  origin := by
    rw [hissued]
    exact connection.bound_origin server

theorem auth_speaks (connection : Connection) (server : Server)
    (credentials : Option (List UInt8 × List UInt8)) :
    Speaks connection server (Server.sessionId (server.issued + 1))
      (connection.auth server credentials) := by
  have hbind := bind_id server connection .idle
  have hid := congrArg some hbind.1
  exact ⟨hid, hid, .inr ⟨rfl, hbind.2⟩⟩

/-- Every command but a login and the end speaks under the identifier of its connection. -/
theorem act_speaks [Platform] (connection : Connection) (server : Server) {command : Command}
    (hlogin : ∀ credentials, command ≠ .auth credentials) (hquit : command ≠ .quit) :
    Speaks connection server (connection.boundId server) (connection.act server command) := by
  cases command with
  | auth credentials => exact (hlogin credentials rfl).elim
  | quit => exact (hquit rfl).elim
  | mail address options =>
    apply speaks_bound connection server connection.session
    · exact (congrArg id? (connection.mail_connection server address options)).trans rfl
    all_goals rfl
  | rset => exact speaks_bound connection server .idle rfl rfl rfl
  | rcpt address options =>
    have hend := connection.rcpt_end server address options
    change Speaks connection server _ (connection.rcpt server address options)
    generalize connection.rcpt server address options = act at hend
    cases hend with
    | repeated | accepted | rejected | escaped =>
      exact speaks_bound connection server _ rfl rfl rfl
  | data content =>
    obtain ⟨step, log, hend, hdata⟩ := connection.data_end server content
    change Speaks connection server _ (connection.data server content)
    rw [hdata]
    exact speaks_bound connection server _ rfl rfl rfl

theorem session_of_mem_append_under {session : Option Text} {log : List Log.Line}
    (hlog : ∀ line ∈ log, line.session = session) (entries : List Log.Entry) :
    ∀ line ∈ log ++ Log.under session entries, line.session = session := by
  refine List.forall_mem_append.mpr ⟨hlog, ?_⟩
  intro line h
  obtain ⟨entry, -, rfl⟩ := List.mem_map.mp h
  rfl

/-- All that a recipient logs is under the identifier of its connection. -/
theorem rcpt_log [Platform] (connection : Connection) (server : Server) (address : Text)
    (options : List Text) :
    ∀ line ∈ (connection.rcpt server address options).log,
      line.session = some (connection.boundId server) := by
  have hcurrent := connection.bound_current server
  have hlog := connection.bound_log server
  unfold rcpt
  rcases hbound : bound server connection with ⟨server', connection', binding, log⟩
  simp only [hbound] at hcurrent hlog ⊢
  rw [hcurrent]
  have hstep := session_of_mem_append_under hlog (binding.session.rcpt server'.backend address).log
  split
  · exact session_of_mem_append_under hlog _
  split
  · exact session_of_mem_append_under hstep _
  split
  · split
    · exact session_of_mem_append_under hstep _
    · exact hstep
  · exact hstep

/-- All that a mail logs is under the identifier of its connection. -/
theorem data_log [Platform] (connection : Connection) (server : Server) (content : List UInt8) :
    ∀ line ∈ (connection.data server content).log,
      line.session = some (connection.boundId server) := by
  have hcurrent := connection.bound_current server
  have hlog := connection.bound_log server
  unfold data
  rcases hbound : bound server connection with ⟨server', connection', binding, log⟩
  simp only [hbound] at hcurrent hlog ⊢
  rw [hcurrent]
  have hstep := session_of_mem_append_under hlog (binding.session.data server'.backend content).log
  split
  · exact session_of_mem_append_under hstep _
  · exact session_of_mem_append_under hstep _
  · exact hstep

/-- Every command but a login and the end writes under the identifier of its connection. -/
theorem act_log [Platform] (connection : Connection) (server : Server) {command : Command}
    (hlogin : ∀ credentials, command ≠ .auth credentials) (hquit : command ≠ .quit) :
    ∀ line ∈ (connection.act server command).log,
      line.session = some (connection.boundId server) := by
  cases command with
  | auth credentials => exact (hlogin credentials rfl).elim
  | quit => exact (hquit rfl).elim
  | mail | rset => exact connection.bound_log server
  | rcpt address options => exact connection.rcpt_log server address options
  | data content => exact connection.data_log server content

def startedEntry (connection : Connection) : Log.Entry :=
  entry .info ("SMTP session started (peer=" ++ connection.peer.shown ++ ")")

theorem bind_log (server : Server) (connection : Connection) (session : Session) :
    (bind server connection session).2.2.2 =
      [⟨some (Server.sessionId (server.issued + 1)), connection.startedEntry⟩] := by
  unfold bind
  dsimp only
  split <;> rfl

/-- A login is written under the identifier that was current before, and the connection then under its
new one. -/
theorem auth_log (connection : Connection) (server : Server)
    (credentials : Option (List UInt8 × List UInt8)) :
    ∃ user, (connection.auth server credentials).log =
      [⟨server.current, Backend.loginEntry user⟩,
        ⟨some (Server.sessionId (server.issued + 1)), connection.startedEntry⟩] :=
  ⟨_, congrArg (List.cons _) (bind_log server connection .idle)⟩

end Connection

/-! ## Identifiers and speakers of a run -/

/-- The connection that an event gives a command other than the end. -/
def Event.speaker? : Event → Option Text
  | .command name request => if request = .quit then none else some name
  | .connect .. | .newEnvelope _ | .free _ => none

namespace Connections

/-- The connection that was last given a command other than the end. -/
def speaker? (events : List Event) : Option Text :=
  (events.filterMap Event.speaker?).getLast?

theorem speaker?_concat (events : List Event) (event : Event) :
    speaker? (events ++ [event]) = event.speaker?.or (speaker? events) := by
  unfold speaker?
  rw [List.filterMap_append, List.getLast?_append]
  cases h : event.speaker? with
  | none => rw [List.filterMap_cons_none h]; rfl
  | some name => rw [List.filterMap_cons_some h]; rfl

/-- The identifier that a connection was last bound under since it was connected. -/
def lastId? [Platform] (name : Text) (state : Connections) (events : List Event) : Option Text :=
  remember none (fun _ _ after known ↦ after.id?.or known) name none state events

/-- Whether a connection was bound under an identifier at some point of a run. -/
def HadId [Platform] (backend : Backend) (events : List Event) (name id : Text) : Prop :=
  ∃ earlier, earlier <+: events ∧ lastId? name (start backend) earlier = some id

/-- An identifier that a connection had is one that it had before, or its last one. -/
theorem hadId_concat [Platform] {backend : Backend} {events : List Event} {event : Event} {name id : Text} :
    HadId backend (events ++ [event]) name id ↔
      HadId backend events name id ∨ lastId? name (start backend) (events ++ [event]) = some id := by
  simp only [HadId, List.prefix_concat_iff, or_and_right, exists_or, exists_eq_left]
  exact or_comm

/-- Who had which identifier, and whose identifier is current: no identifier is given twice, and the
current one is that of the last speaker. -/
structure Attributed (state : Connections) (ids : Text → Option Text) (had : Text → Text → Prop)
    (speaker : Option Text) : Prop where
  known : ∀ name id, ids name = some id → had name id
  issued : ∀ name id, had name id → ∃ n ≤ state.server.issued, id = Server.sessionId n
  apart : ∀ name other id, had name id → had other id → name = other
  bound : ∀ name id, (state.get name).id? = some id → ids name = some id
  current : ∀ id, state.server.current = some id →
    ∃ n ≤ state.server.issued, id = Server.sessionId n
  speaker : ∀ name id, ids name = some id → (state.server.current = some id ↔ speaker = some name)

namespace Attributed

variable {state next : Connections} {ids ids' : Text → Option Text} {had had' : Text → Text → Prop}
variable {speaker : Option Text}

/-- An event that gives no identifier and leaves the current one. -/
theorem quiet (h : Attributed state ids had speaker)
    (hcurrent : next.server.current = state.server.current)
    (hissued : next.server.issued = state.server.issued)
    (hhad : ∀ name id, had' name id ↔ had name id ∨ ids' name = some id)
    (hids : ∀ name id, ids' name = some id → ids name = some id)
    (hbound : ∀ name id, (next.get name).id? = some id → ids' name = some id) :
    Attributed next ids' had' speaker := by
  have hold (name id : Text) (h' : had' name id) : had name id :=
    ((hhad name id).mp h').elim (fun h' ↦ h') fun h' ↦ h.known name id (hids name id h')
  constructor
  · exact fun name id h' ↦ (hhad name id).mpr (.inr h')
  · rw [hissued]
    exact fun name id h' ↦ h.issued name id (hold name id h')
  · exact fun name other id h' hother ↦ h.apart name other id (hold name id h') (hold other id hother)
  · exact hbound
  · rw [hcurrent, hissued]
    exact h.current
  · rw [hcurrent]
    exact fun name id h' ↦ h.speaker name id (hids name id h')

section Speak

variable {name id : Text} {act : Connection.Act}

theorem issued_le (hspeaks : Connection.Speaks (state.get name) state.server id act) :
    state.server.issued ≤ act.server.issued := by
  rcases hspeaks.origin with ⟨-, h⟩ | ⟨-, h⟩ <;> omega

/-- The identifier that a connection speaks under is one of those in use. -/
theorem issued_speaks (h : Attributed state ids had speaker)
    (hspeaks : Connection.Speaks (state.get name) state.server id act) :
    ∃ n ≤ act.server.issued, id = Server.sessionId n := by
  rcases hspeaks.origin with ⟨hid, hissued⟩ | ⟨hid, hissued⟩
  · rw [hissued]
    exact h.issued name id (h.known name id (h.bound name id hid))
  · exact ⟨_, Nat.le_of_eq hissued.symm, hid⟩

/-- Nobody else had it: it was that of the connection, or it is a new one. -/
theorem eq_of_had_speaks (h : Attributed state ids had speaker)
    (hspeaks : Connection.Speaks (state.get name) state.server id act) {other : Text}
    (hother : had other id) : other = name := by
  rcases hspeaks.origin with ⟨hid, -⟩ | ⟨hid, -⟩
  · exact h.apart other name id hother (h.known name id (h.bound name id hid))
  · obtain ⟨n, hn, hid'⟩ := h.issued other id hother
    have := Server.sessionId_injective (hid'.symm.trans hid)
    omega

/-- A command that speaks under the identifier of its connection. -/
theorem speak (h : Attributed state ids had speaker)
    (hspeaks : Connection.Speaks (state.get name) state.server id act)
    (hserver : next.server = act.server)
    (hhad : ∀ name id, had' name id ↔ had name id ∨ ids' name = some id)
    (hname : ids' name = some id) (hothers : ∀ other, other ≠ name → ids' other = ids other)
    (hget : ∀ other, other ≠ name → next.get other = state.get other)
    (hself : (next.get name).id? = some id) : Attributed next ids' had' (some name) := by
  have hfresh {other : Text} (hother : had other id) : other = name :=
    h.eq_of_had_speaks hspeaks hother
  have hcases {other id' : Text} (h' : had' other id') : had other id' ∨ other = name ∧ id' = id := by
    rcases (hhad other id').mp h' with h' | h'
    · exact .inl h'
    · by_cases hother : other = name
      · subst hother
        exact .inr ⟨rfl, Option.some.inj (h'.symm.trans hname)⟩
      · exact .inl (h.known other id' ((hothers other hother).symm.trans h'))
  constructor
  · exact fun other id' h' ↦ (hhad other id').mpr (.inr h')
  · intro other id' h'
    rw [hserver]
    rcases hcases h' with h' | ⟨-, rfl⟩
    · obtain ⟨n, hn, hid⟩ := h.issued other id' h'
      exact ⟨n, Nat.le_trans hn (issued_le hspeaks), hid⟩
    · exact h.issued_speaks hspeaks
  · intro first second id' hfirst hsecond
    rcases hcases hfirst with hfirst | ⟨rfl, rfl⟩
    · rcases hcases hsecond with hsecond | ⟨rfl, rfl⟩
      · exact h.apart first second id' hfirst hsecond
      · exact hfresh hfirst
    · rcases hcases hsecond with hsecond | ⟨rfl, -⟩
      · exact (hfresh hsecond).symm
      · rfl
  · intro other id' h'
    by_cases hother : other = name
    · subst hother
      rw [hname]
      exact hself.symm.trans h'
    · rw [hget other hother] at h'
      exact (hothers other hother).trans (h.bound other id' h')
  · intro id' h'
    rw [hserver, hspeaks.current] at h'
    rw [hserver, ← Option.some.inj h']
    exact h.issued_speaks hspeaks
  · intro other id' h'
    rw [hserver, hspeaks.current, Option.some.injEq, Option.some.injEq]
    by_cases hother : other = name
    · subst hother
      exact iff_of_true (Option.some.inj (hname.symm.trans h')) rfl
    · refine iff_of_false ?_ (Ne.symm hother)
      rintro rfl
      exact hother (hfresh (h.known other id ((hothers other hother).symm.trans h')))

end Speak

end Attributed

theorem lastId?_concat [Platform] (name : Text) (state : Connections) (events : List Event) (event : Event) :
    lastId? name state (events ++ [event]) =
      let reached := (state.run events).1
      if name = event.name then
        event.recall none (fun _ _ after known ↦ after.id?.or known) (reached.get name)
          ((reached.step event).state.get name) (lastId? name state events)
      else lastId? name state events :=
  remember_concat ..

theorem lastId?_command [Platform] (name : Text) (state : Connections) (events : List Event)
    (command : Command) :
    lastId? name state (events ++ [.command name command]) =
      (((state.run events).1.step (.command name command)).state.get name).id?.or
        (lastId? name state events) :=
  (lastId?_concat ..).trans (if_pos rfl)

/-- Freeing a connection issues no identifier. -/
theorem free_identifiers (state : Connections) (name : Text) :
    (state.free name).server.current = state.server.current ∧
      (state.free name).server.issued = state.server.issued := by
  unfold free
  split <;> exact ⟨rfl, rfl⟩

/-- An event that is no command, or the end of a session, gives no identifier. -/
theorem step_quiet [Platform] {state : Connections} {event : Event} (h : event.speaker? = none) :
    (state.step event).state.server.current = state.server.current ∧
      (state.step event).state.server.issued = state.server.issued := by
  cases event with
  | connect name peer | free name => exact state.free_identifiers name
  | newEnvelope name => exact ⟨rfl, rfl⟩
  | command name command =>
    cases command with
    | quit => exact ⟨rfl, rfl⟩
    | auth | mail | rcpt | data | rset => cases h

/-- What such an event leaves of the identifiers of its connection: nothing new. -/
theorem ids_step_quiet [Platform] {state : Connections} {events : List Event} {event : Event}
    (h : event.speaker? = none) (id : Text) :
    let reached := (state.run events).1
    (lastId? event.name state (events ++ [event]) = some id →
        lastId? event.name state events = some id) ∧
      (((reached.step event).state.get event.name).id? = some id →
        (reached.get event.name).id? = some id ∧
          lastId? event.name state (events ++ [event]) = lastId? event.name state events) := by
  intro reached
  rw [lastId?_concat, if_pos rfl, get_step_self]
  cases event with
  | connect name peer | free name => exact ⟨nofun, nofun⟩
  | newEnvelope name => exact ⟨fun h ↦ h, fun h ↦ ⟨h, rfl⟩⟩
  | command name command =>
    cases command with
    | quit => exact ⟨fun h ↦ h, nofun⟩
    | auth | mail | rcpt | data | rset => cases h

/-- Every command but the end speaks. -/
theorem act_speaks [Platform] (state : Connections) (name : Text) {command : Command}
    (hquit : command ≠ .quit) :
    ∃ id, Connection.Speaks (state.get name) state.server id
      ((state.get name).act state.server command) := by
  by_cases hlogin : ∃ credentials, command = .auth credentials
  · obtain ⟨credentials, rfl⟩ := hlogin
    exact ⟨_, (state.get name).auth_speaks state.server credentials⟩
  · exact ⟨_, (state.get name).act_speaks state.server (fun credentials h ↦ hlogin ⟨credentials, h⟩)
      hquit⟩

theorem start_attributed [Platform] (backend : Backend) :
    Attributed (start backend) (lastId? · (start backend) []) (HadId backend []) (speaker? []) := by
  have hhad {name id : Text} (h : HadId backend [] name id) : False := by
    obtain ⟨earlier, hearlier, hid⟩ := h
    rw [List.prefix_nil.mp hearlier] at hid
    cases hid
  exact ⟨nofun, fun _ _ h ↦ (hhad h).elim, fun _ _ _ h ↦ (hhad h).elim, nofun, nofun, nofun⟩

/-- By induction on the events: identifiers belong to those whom they were issued to. -/
theorem run_attributed [Platform] (backend : Backend) (events : List Event) :
    Attributed ((start backend).run events).1 (lastId? · (start backend) events)
      (HadId backend events) (speaker? events) := by
  induction events using List.reverseRecOn with
  | nil => exact start_attributed backend
  | append_singleton events event ih =>
    have hhad (name id : Text) := @hadId_concat _ backend events event name id
    have hothers (name : Text) (h : name ≠ event.name) :
        lastId? name (start backend) (events ++ [event]) = lastId? name (start backend) events := by
      rw [lastId?_concat, if_neg h]
    have hget (name : Text) (h : name ≠ event.name) :
        (((start backend).run events).1.step event).state.get name =
          ((start backend).run events).1.get name := by
      rw [get_step, if_neg h]
    rw [run_concat, speaker?_concat]
    cases hspeaker : event.speaker? with
    | none =>
      obtain ⟨hcurrent, hissued⟩ := step_quiet hspeaker
      refine ih.quiet hcurrent hissued hhad ?_ ?_
      · intro name id hid
        by_cases hname : name = event.name
        · subst hname
          exact (ids_step_quiet hspeaker id).1 hid
        · exact (hothers name hname).symm.trans hid
      · intro name id hid
        by_cases hname : name = event.name
        · subst hname
          obtain ⟨hold, hids⟩ := (ids_step_quiet hspeaker id).2 hid
          exact hids.trans (ih.bound _ id hold)
        · rw [hget name hname] at hid
          exact (hothers name hname).trans (ih.bound name id hid)
    | some name =>
      cases event with
      | connect | free | newEnvelope => cases hspeaker
      | command other command =>
        rw [Event.speaker?] at hspeaker
        split at hspeaker
        · cases hspeaker
        next hquit =>
          obtain rfl := Option.some.inj hspeaker
          obtain ⟨id, hspeaks⟩ := act_speaks ((start backend).run events).1 other hquit
          have hself : ((((start backend).run events).1.step (.command other command)).state.get
              other).id? = some id :=
            (congrArg Connection.id? (get_step_self _ (.command other command))).trans hspeaks.id_eq
          have hname : lastId? other (start backend) (events ++ [.command other command]) =
              some id := by
            rw [lastId?_command, hself, Option.some_or]
          exact ih.speak hspeaks rfl hhad hname hothers hget hself

/-! ## The entries of a command -/

/-- Whether an entry of a command is written under an identifier that is not the connection's: the entry
of a login, and that of the end while another connection was the last to speak. -/
def Strays (speaker : Option Text) (name : Text) (command : Command) (entry : Log.Entry) : Prop :=
  (∃ credentials, command = .auth credentials) ∧ entry.logger = .session ∨
    command = .quit ∧ speaker ≠ some name

theorem session_login_iff {state : Connections} {ids : Text → Option Text} {had : Text → Text → Prop}
    {speaker : Option Text} (h : Attributed state ids had speaker) (name : Text)
    (credentials : Option (List UInt8 × List UInt8)) :
    ∀ line ∈ ((state.get name).auth state.server credentials).log,
      line.session = some (Server.sessionId (state.server.issued + 1)) ↔
        ¬Strays speaker name (.auth credentials) line.entry := by
  obtain ⟨user, hlog⟩ := (state.get name).auth_log state.server credentials
  have hstale : state.server.current ≠ some (Server.sessionId (state.server.issued + 1)) := by
    intro hcurrent
    obtain ⟨n, hn, hid⟩ := h.current _ hcurrent
    have := Server.sessionId_injective hid
    omega
  rw [hlog]
  refine List.forall_mem_cons.mpr ⟨?_, List.forall_mem_singleton.mpr ?_⟩
  · exact iff_of_false hstale (not_not_intro (.inl ⟨⟨credentials, rfl⟩, rfl⟩))
  · refine iff_of_true rfl ?_
    rintro (⟨-, ⟨⟩⟩ | ⟨⟨⟩, -⟩)

theorem session_quit_iff {state : Connections} {ids : Text → Option Text} {had : Text → Text → Prop}
    {speaker : Option Text} (h : Attributed state ids had speaker) {name id : Text}
    (hid : ids name = some id) :
    ∀ line ∈ ((state.get name).quit state.server).log,
      line.session = some id ↔ ¬Strays speaker name .quit line.entry := by
  refine List.forall_mem_singleton.mpr ((h.speaker name id hid).trans ?_)
  constructor
  · rintro hspeaker (⟨⟨_, ⟨⟩⟩, -⟩ | ⟨-, hother⟩)
    exact hother hspeaker
  · intro hstrays
    by_contra hother
    exact hstrays (.inr ⟨rfl, hother⟩)

theorem session_iff [Platform] {state : Connections} {ids : Text → Option Text} {had : Text → Text → Prop}
    {speaker : Option Text} (h : Attributed state ids had speaker) {name id : Text}
    {command : Command}
    (hid : ((state.get name).act state.server command).connection.id?.or (ids name) = some id) :
    ∀ line ∈ ((state.get name).act state.server command).log,
      line.session = some id ↔ ¬Strays speaker name command line.entry := by
  by_cases hquit : command = .quit
  · subst hquit
    exact session_quit_iff h hid
  by_cases hlogin : ∃ credentials, command = .auth credentials
  · obtain ⟨credentials, rfl⟩ := hlogin
    have hnew := ((state.get name).auth_speaks state.server credentials).id_eq
    change ((state.get name).auth state.server credentials).connection.id?.or _ = _ at hid
    rw [hnew, Option.some_or, Option.some.injEq] at hid
    rw [← hid]
    exact session_login_iff h name credentials
  · have hlogin' (credentials) : command ≠ .auth credentials := fun h ↦ hlogin ⟨credentials, h⟩
    have hspeaks := (state.get name).act_speaks state.server hlogin' hquit
    rw [hspeaks.id_eq, Option.some_or, Option.some.injEq] at hid
    intro line hline
    refine iff_of_true (hid ▸ (state.get name).act_log state.server hlogin' hquit line hline) ?_
    rintro (⟨h, -⟩ | ⟨h, -⟩)
    · exact hlogin h
    · exact hquit h

/-- After any run, a command is about the identifier that its connection was last bound under: the one
that the connection has when the command is done, and for the end of a session the one that it had.  This
is not written as the mark for no session, and no other connection ever had it.  The entries of the
command carry it with two exceptions, neither of which does: the entry of a login, and that of the end of
a session while another connection was the last to speak.  The end of a connection that was never bound is
left out. -/
theorem entry_carries_own_id_iff [Platform] (backend : Backend) (events : List Event) (name : Text)
    (command : Command)
    (hbound : command = .quit → (lastId? name (start backend) events).isSome = true) :
    let reached := ((start backend).run events).1
    let outcome := reached.step (.command name command)
    let all := events ++ [.command name command]
    ∃ id, lastId? name (start backend) all = some id ∧
      (∀ own, (outcome.state.get name).id?.or (reached.get name).id? = some own → own = id) ∧
      Log.sessionName (some id) ≠ Log.sessionName none ∧
      (∀ other, other ≠ name → ¬HadId backend all other id) ∧
      ∀ line ∈ outcome.log,
        line.session = some id ↔ ¬Strays (speaker? events) name command line.entry := by
  intro reached outcome all
  have hreached := run_attributed backend events
  have hall := run_attributed backend all
  have hlast : lastId? name (start backend) all =
      (outcome.state.get name).id?.or (lastId? name (start backend) events) :=
    lastId?_command ..
  have hnext : outcome.state.get name = ((reached.get name).act reached.server command).connection :=
    get_step_self reached (.command name command)
  have hsome : (lastId? name (start backend) all).isSome = true := by
    rw [hlast]
    by_cases hquit : command = .quit
    · rw [Option.isSome_or, hbound hquit, Bool.or_true]
    · obtain ⟨id, hspeaks⟩ := act_speaks reached name hquit
      rw [hnext, hspeaks.id_eq]
      rfl
  obtain ⟨id, hid⟩ := Option.isSome_iff_exists.mp hsome
  refine ⟨id, hid, ?_, ?_, ?_, ?_⟩
  · intro own hown
    rw [hid] at hlast
    cases hafter : (outcome.state.get name).id? with
    | some later =>
      rw [hafter, Option.some_or, Option.some.injEq] at hown hlast
      exact hown.symm.trans hlast.symm
    | none =>
      rw [hafter, Option.none_or] at hown hlast
      exact Option.some.inj ((hreached.bound name own hown).symm.trans hlast.symm)
  · obtain ⟨n, -, rfl⟩ := hall.issued name id (hall.known name id hid)
    exact Server.sessionName_sessionId n
  · exact fun other hother hhad ↦ hother (hall.apart other name id hhad (hall.known name id hid))
  · rw [hlast, hnext] at hid
    exact session_iff hreached hid

/-- A client that says something and then ends its session, while another one only connects. -/
def briefVisit : List Event :=
  [.connect "a" (.address [.text "127.0.0.1", .int 40000]), .command "a" (.mail "x@y" []),
    .connect "b" (.address [.text "127.0.0.1", .int 40001])]

section Bare

attribute [local instance] Platform.bare

/-- The end is written under the identifier of the session that it ends. -/
theorem briefVisit_ends_under_own_id :
    let backend : Backend :=
      ⟨⟨"b", none, 4096, none⟩, .memory .empty, .empty, ⟨[], 0⟩, ⟨0, []⟩⟩
    let reached := ((start backend).run briefVisit).1
    (lastId? "a" (start backend) briefVisit).isSome = true ∧
      ∀ line ∈ (reached.step (.command "a" .quit)).log, line.session = some "000000000001".toList := by
  intro backend reached
  have hbound : (lastId? "a" (start backend) briefVisit).isSome = true := by decide +kernel
  have hspeaker : speaker? briefVisit = some "a".toList := rfl
  have hown : lastId? "a" (start backend) (briefVisit ++ [.command "a" .quit]) =
      some "000000000001".toList := by decide +kernel
  obtain ⟨id, hid, -, -, -, hlog⟩ :=
    entry_carries_own_id_iff backend briefVisit "a" .quit fun _ ↦ hbound
  refine ⟨hbound, fun line hline ↦ ?_⟩
  rw [← hown, hid]
  refine (hlog line hline).mpr ?_
  rintro (⟨⟨_, ⟨⟩⟩, -⟩ | ⟨-, hother⟩)
  exact hother hspeaker

/-- A client that logs in first, and ends its session after another client has spoken: its login is written
under no identifier, and the end under that of the other client. -/
theorem login_and_end_stray :
    let backend : Backend :=
      ⟨⟨"b", none, 4096, none⟩, .memory .empty, .empty, ⟨[], 0⟩, ⟨0, []⟩⟩
    let login := (start backend).step (.command "a" (.auth (some ([117], [112]))))
    let both := (login.state.step (.command "b" (.mail "x@y" []))).state
    let ending := both.step (.command "a" .quit)
    (login.state.get "a").id? = some "000000000001".toList ∧
      login.log.map (·.session) = [none, some "000000000001".toList] ∧
      (both.get "a").id? = some "000000000001".toList ∧
      ending.log.map (·.session) = [some "000000000002".toList] := by
  decide +kernel

end Bare

end Connections

end MailGateway
