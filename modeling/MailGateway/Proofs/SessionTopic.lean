import MailGateway.Proofs.SessionRun
import MailGateway.Proofs.Topic
import Mathlib.Data.List.DropRight

/-!
# What a session remembers

The topic of a session is read off the calls of a run.  A session forgets when it is opened, at every
mail, and when it is reset or logged out; since the last of these calls only accepted recipients count,
and the last of them gave the topic.  A refused recipient, and everything that happens to other sessions,
leaves the topic as it is.
-/

namespace MailGateway

/-- Whether the topic pattern, or the default one, matches a topic as a whole. -/
def Config.Admits [Platform] (config : Config) (topic : Text) : Prop :=
  ∃ pattern, Pattern.read (config.topicPattern.getD Topic.defaultPattern) = .ok pattern ∧
    pattern.fullMatch topic = true

theorem Config.admits_of_topicOf [Platform] {config : Config} {recipient topic : Text}
    (h : config.topicOf recipient = .ok topic) : config.Admits topic := by
  obtain ⟨address, name, -, -, -, hchecked⟩ := Topic.resolve_eq_ok.mp h
  exact (Topic.checked_eq_ok.mp hchecked).2

namespace Sessions

/-! ## Sessions by their names -/

theorem get_put (backend : Backend) (name : Text) (session : Session)
    (named : List (Text × Session)) (other : Text) :
    (Sessions.mk backend (Named.put name session named)).get other =
      if other = name then session else (Sessions.mk backend named).get other := by
  unfold get
  rw [Named.get?_put]
  split <;> rfl

/-- An operation leaves the other sessions alone. -/
theorem get_step_of_ne [Platform] (state : Sessions) {operation : Operation} {name : Text}
    (h : name ≠ operation.session) : (state.step operation).state.get name = state.get name := by
  cases operation with
  | authPlain | mail => rfl
  | anonymous | login | rcpt | data | reset | logout => exact (get_put ..).trans (if_neg h)

/-- A recipient that is accepted sets the topic of its session. -/
theorem step_rcpt_of_ok [Platform] {state : Sessions} {recipient topic : Text} (name : Text)
    (h : state.backend.config.topicOf recipient = .ok topic) :
    (state.step (.rcpt name recipient)).result = .ok (.topic topic) ∧
      (state.step (.rcpt name recipient)).state.get name = ⟨topic⟩ := by
  simp only [step, after, Session.rcpt_of_ok h]
  exact ⟨rfl, (get_put ..).trans (if_pos rfl)⟩

/-- A recipient that is refused keeps the topic of its session. -/
theorem step_rcpt_of_error [Platform] {state : Sessions} {recipient : Text} {fault : Fault} (name : Text)
    (h : state.backend.config.topicOf recipient = .error fault) :
    (state.step (.rcpt name recipient)).result = .error fault ∧
      (state.step (.rcpt name recipient)).state.get name = state.get name := by
  simp only [step, after, Session.rcpt_of_error h]
  exact ⟨rfl, (get_put ..).trans (if_pos rfl)⟩

/-- A refused recipient leaves the session as it was. -/
theorem get_step_of_refused [Platform] {state : Sessions} {name recipient : Text} {fault : Fault}
    (h : (state.step (.rcpt name recipient)).result = .error fault) :
    (state.step (.rcpt name recipient)).state.get name = state.get name := by
  cases htopic : state.backend.config.topicOf recipient with
  | ok topic =>
    rw [(step_rcpt_of_ok name htopic).1] at h
    cases h
  | error fault => exact (step_rcpt_of_error name htopic).2

/-- A mail clears the session, whatever comes of it. -/
theorem get_step_data [Platform] (state : Sessions) (name : Text) (mail : List UInt8) :
    ((state.step (.data name mail)).state.get name).topic = [] := by
  have hget : (state.step (.data name mail)).state.get name =
      ((state.get name).data state.backend mail).session := (get_put ..).trans (if_pos rfl)
  rw [hget]
  exact ((state.get name).data_end state.backend mail).session_topic

theorem step_config [Platform] (state : Sessions) (operation : Operation) :
    (state.step operation).state.backend.config = state.backend.config := by
  cases operation with
  | anonymous | login | authPlain | mail | reset | logout => rfl
  | rcpt name recipient =>
    cases htopic : state.backend.config.topicOf recipient with
    | ok topic => simp only [step, after, Session.rcpt_of_ok htopic]
    | error fault =>
      simp only [step, after, Session.rcpt_of_error htopic]
      rfl
  | data name mail => exact ((state.get name).data_end state.backend mail).config_eq

/-! ## Runs by their last call -/

theorem run_concat [Platform] (state : Sessions) (operations : List Operation) (operation : Operation) :
    (state.run (operations ++ [operation])).1 = ((state.run operations).1.step operation).state := by
  induction operations generalizing state with
  | nil => rfl
  | cons first operations ih => exact ih (state.step first).state

theorem calls_concat [Platform] (state : Sessions) (operations : List Operation) (operation : Operation) :
    state.calls (operations ++ [operation]) =
      state.calls operations ++ [(operation, ((state.run operations).1.step operation).result)] := by
  induction operations generalizing state with
  | nil => rfl
  | cons first operations ih =>
    rw [List.cons_append, calls_cons, ih, calls_cons]
    rfl

theorem run_config [Platform] (state : Sessions) (operations : List Operation) :
    (state.run operations).1.backend.config = state.backend.config := by
  induction operations generalizing state with
  | nil => rfl
  | cons operation operations ih =>
    rw [run_cons_fst, ih]
    exact state.step_config operation

/-! ## The topic of a session -/

/-- Whether a call opens a session or makes it forget its recipient, whatever comes of the call. -/
def clears (name : Text) : Call → Bool
  | (.anonymous s, _) | (.login s _, _) | (.data s _, _) | (.reset s, _) | (.logout s, _) => s == name
  | (.authPlain _, _) | (.mail _, _) | (.rcpt .., _) => false

/-- The topic that a call accepted for a session. -/
def accepted? (name : Text) : Call → Option Text
  | (.rcpt s _, .ok (.topic topic)) => if s = name then some topic else none
  | _ => none

/-- The calls after the last one that cleared a session. -/
def sinceCleared (name : Text) (calls : List Call) : List Call :=
  calls.rtakeWhile fun call ↦ !clears name call

/-- The last topic that was accepted for a session since it was cleared. -/
def lastAccepted? (name : Text) (calls : List Call) : Option Text :=
  ((sinceCleared name calls).filterMap (accepted? name)).getLast?

theorem lastAccepted?_concat (name : Text) (calls : List Call) (call : Call) :
    lastAccepted? name (calls ++ [call]) =
      if clears name call then none else (accepted? name call).or (lastAccepted? name calls) := by
  unfold lastAccepted? sinceCleared
  rw [List.rtakeWhile_concat]
  cases clears name call with
  | true => rfl
  | false =>
    rw [Bool.not_false, if_pos rfl, List.filterMap_append, List.getLast?_append]
    cases haccepted : accepted? name call <;> simp [haccepted]

theorem clears_of_ne {name : Text} {call : Call} (h : name ≠ call.1.session) :
    clears name call = false := by
  unfold clears
  split
  case h_6 | h_7 | h_8 => rfl
  all_goals exact beq_false_of_ne (Ne.symm h)

theorem accepted?_of_ne {name : Text} {call : Call} (h : name ≠ call.1.session) :
    accepted? name call = none := by
  unfold accepted?
  split
  · exact if_neg h.symm
  · rfl

variable [Platform]

/-- What one operation makes of the topic of a session. -/
theorem step_topic (state : Sessions) (operation : Operation) (name : Text) :
    let call : Call := (operation, (state.step operation).result)
    ((state.step operation).state.get name).topic =
      if clears name call then [] else (accepted? name call).getD (state.get name).topic := by
  intro call
  by_cases hname : name = operation.session
  · have hcleared (h : clears name call = true)
        (hempty : ((state.step operation).state.get name).topic = []) :
        ((state.step operation).state.get name).topic =
          if clears name call then [] else (accepted? name call).getD (state.get name).topic := by
      rw [hempty, if_pos h]
    cases operation with
    | authPlain | mail => rfl
    | anonymous s | login s user | reset s | logout s =>
      obtain rfl : name = s := hname
      exact hcleared (beq_self_eq_true name)
        (congrArg Session.topic ((get_put ..).trans (if_pos rfl)))
    | data s mail =>
      obtain rfl : name = s := hname
      exact hcleared (beq_self_eq_true name) (state.get_step_data name mail)
    | rcpt s recipient =>
      obtain rfl : name = s := hname
      cases htopic : state.backend.config.topicOf recipient with
      | ok topic =>
        obtain ⟨hresult, hget⟩ := step_rcpt_of_ok name htopic
        simp only [call, hresult, hget, clears, accepted?, if_true, Option.getD_some]
        rfl
      | error fault =>
        obtain ⟨hresult, hget⟩ := step_rcpt_of_error name htopic
        simp only [call, hresult, hget, clears, accepted?]
        rfl
  · rw [state.get_step_of_ne hname, clears_of_ne hname, accepted?_of_ne hname]
    rfl

/-- An accepted topic is one that the configuration admits. -/
theorem admits_of_accepted {state : Sessions} {operation : Operation} {name topic : Text}
    (h : accepted? name (operation, (state.step operation).result) = some topic) :
    state.backend.config.Admits topic := by
  cases operation with
  | anonymous | login | authPlain | mail | data | reset | logout => cases h
  | rcpt s recipient =>
    cases htopic : state.backend.config.topicOf recipient with
    | ok accepted =>
      rw [(step_rcpt_of_ok s htopic).1, accepted?] at h
      split at h
      · obtain rfl : accepted = topic := Option.some.inj h
        exact Config.admits_of_topicOf htopic
      · cases h
    | error fault =>
      rw [(step_rcpt_of_error s htopic).1] at h
      cases h

/-! ## Runs -/

theorem run_topic (backend : Backend) (operations : List Operation) (name : Text) :
    ((run ⟨backend, []⟩ operations).1.get name).topic =
      (lastAccepted? name (calls ⟨backend, []⟩ operations)).getD [] := by
  induction operations using List.reverseRecOn with
  | nil => rfl
  | append_singleton operations operation ih =>
    rw [run_concat, calls_concat, lastAccepted?_concat, step_topic, ih]
    split
    · rfl
    · exact (Option.getD_or ..).symm

/-- The topic of a session is empty or one that the configuration admits. -/
theorem run_admits (backend : Backend) (operations : List Operation) (name : Text) :
    ((run ⟨backend, []⟩ operations).1.get name).topic = [] ∨
      backend.config.Admits ((run ⟨backend, []⟩ operations).1.get name).topic := by
  induction operations using List.reverseRecOn with
  | nil => exact .inl rfl
  | append_singleton operations operation ih =>
    rw [run_concat, step_topic]
    split
    · exact .inl rfl
    · cases haccepted : accepted? name
          (operation, ((run ⟨backend, []⟩ operations).1.step operation).result) with
      | none => exact ih
      | some topic =>
        have hadmits := admits_of_accepted haccepted
        rw [run_config] at hadmits
        exact .inr hadmits

/-- After every run from a fresh backend on, the topic of a session is the one that its last accepted
recipient returned since it was opened or had its last mail, reset or logout, and empty if there was no
such recipient.  A topic matches the configured pattern.  Wherever the run goes on from there, a refused
recipient, an authentication and a sender leave the topic as it is, a mail clears it whatever comes of the
mail, and no operation reaches another session than its own. -/
theorem run_topic_is_last_accepted (backend : Backend) (operations : List Operation)
    (name : Text) :
    let start : Sessions := ⟨backend, []⟩
    let reached := (start.run operations).1
    let topic := (reached.get name).topic
    topic = (lastAccepted? name (start.calls operations)).getD [] ∧
      (topic ≠ [] → backend.config.Admits topic) ∧
      (∀ recipient fault, (reached.step (.rcpt name recipient)).result = .error fault →
        (reached.step (.rcpt name recipient)).state.get name = reached.get name) ∧
      (∀ mail, ((reached.step (.data name mail)).state.get name).topic = []) ∧
      (reached.step (.authPlain name)).state = reached ∧
      (reached.step (.mail name)).state = reached ∧
      ∀ operation, name ≠ operation.session →
        (reached.step operation).state.get name = reached.get name := by
  intro start reached topic
  refine ⟨run_topic backend operations name, ?_, ?_, ?_, rfl, rfl, ?_⟩
  · exact fun htopic ↦ (run_admits backend operations name).resolve_left htopic
  · exact fun recipient fault ↦ get_step_of_refused
  · exact reached.get_step_data name
  · exact fun operation ↦ reached.get_step_of_ne

end Sessions

end MailGateway
