import MailGateway.Proofs.Results
import MailGateway.Proofs.Session
import MailGateway.Proofs.Tally
import MailGateway.Startup

/-!
# What was started is stopped

The gateway listens exactly if its settings, its log and its backend could be prepared.  Whatever happens
then, it stops listening once, as the last thing that happens: the serving is a list of deliveries, and
whether it ends by itself, by an error, or by a delivery that raised something else than an error of the
gateway, the same end follows, and the error is passed on.  Every delivery counts one outcome, so the
numbers in the last entry of the log are those of the deliveries.

All this is said of servers that do what they are asked to.  A listener is left running by a server of the
pages that cannot be built, because what stops the listener is only set up after that.
-/

namespace MailGateway

/-! ## Deliveries -/

def Fault.isGateway : Fault → Bool
  | .gateway _ => true
  | .field _ | .charset _ | .charsetName _ | .pattern _ | .config _ | .unsupported .. | .external _ =>
    false

namespace Startup

/-- The fault that a delivery raised, if it did. -/
def fault? (step : Session.Step Unit) : Option Fault :=
  match step.result with
  | .ok () => none
  | .error fault => some fault

/-- Whether a delivery raised something else than an error of the gateway. -/
def escapes (step : Session.Step Unit) : Bool :=
  (fault? step).any fun fault ↦ !fault.isGateway

/-- The deliveries that are made: each on the backend that the one before has left, up to one that
raised something else than an error of the gateway. -/
def deliveries [Platform] (backend : Backend) : List Arrival → List (Session.Step Unit)
  | [] => []
  | arrival :: arrivals =>
    let step := deliver backend arrival
    step :: if escapes step then [] else deliveries step.backend arrivals

def lastBackend (backend : Backend) (made : List (Session.Step Unit)) : Backend :=
  (made.getLast?.map Session.Step.backend).getD backend

def outcome (step : Session.Step Unit) : Delivery.Outcome :=
  if step.result.isOk then .success else .failure

/-- The refusal that is recorded for a delivery. -/
def refusal? (step : Session.Step Unit) : Option Happening :=
  if escapes step then none else (fault? step).map .refused

/-- What ends the serving: the fault that a delivery raised and that is no error of the gateway, or else
what ends it after the deliveries. -/
def endOf (made : List (Session.Step Unit)) (ending : Option Fault) : Option Fault :=
  ((made.find? escapes).bind fault?).or ending

/-- A delivery counts one outcome: a refused recipient or the end of its mail. -/
theorem deliver_tally [Platform] (backend : Backend) (arrival : Arrival) :
    (deliver backend arrival).backend.tally =
      backend.tally.record (outcome (deliver backend arrival)) := by
  cases htopic : backend.config.topicOf arrival.recipient with
  | error fault =>
    simp only [deliver, Session.rcpt_of_error htopic]
    rfl
  | ok topic =>
    have hend := (Session.mk topic).data_end backend arrival.mail
    simp only [deliver, Session.rcpt_of_ok htopic]
    rw [hend.tally_eq]
    unfold outcome
    cases ((Session.mk topic).data backend arrival.mail).result <;> rfl

/-- Deliveries go on with the backend that the first one left. -/
theorem lastBackend_cons (backend : Backend) (step : Session.Step Unit)
    (made : List (Session.Step Unit)) :
    lastBackend backend (step :: made) = lastBackend step.backend made := by
  unfold lastBackend
  rw [List.getLast?_cons]
  cases made.getLast? <;> rfl

/-- Every delivery that is made counts one outcome. -/
theorem lastBackend_tally [Platform] (backend : Backend) (arrivals : List Arrival) :
    (lastBackend backend (deliveries backend arrivals)).tally =
      backend.tally.recordAll ((deliveries backend arrivals).map outcome) := by
  induction arrivals generalizing backend with
  | nil => rfl
  | cons arrival arrivals ih =>
    have hstep := deliver_tally backend arrival
    simp only [deliveries]
    rw [lastBackend_cons]
    split
    · exact hstep
    · rw [ih, hstep]
      rfl

theorem escapes_of_ok {step : Session.Step Unit} (h : step.result = .ok ()) :
    escapes step = false := by
  simp [escapes, fault?, h]

theorem escapes_of_error {step : Session.Step Unit} {fault : Fault} (h : step.result = .error fault) :
    escapes step = !fault.isGateway := by
  simp [escapes, fault?, h]

/-- A delivery that raises nothing, or an error of the gateway, is followed by the others. -/
theorem serve_cons_of_stays [Platform] {backend : Backend} {ending : Option Fault} {arrival : Arrival}
    {arrivals : List Arrival} (h : escapes (deliver backend arrival) = false) :
    let step := deliver backend arrival
    let served := serve step.backend ending arrivals
    (serve backend ending (arrival :: arrivals)).happenings =
        (refusal? step).toList ++ served.happenings ∧
      (serve backend ending (arrival :: arrivals)).backend = served.backend ∧
      (serve backend ending (arrival :: arrivals)).result = served.result := by
  cases hresult : (deliver backend arrival).result with
  | ok u => simp [serve, hresult, refusal?, fault?]
  | error fault =>
    rw [escapes_of_error hresult, Bool.not_eq_false'] at h
    cases fault with
    | gateway e =>
      have hstays := escapes_of_error hresult
      simp [serve, hresult, refusal?, fault?, hstays, h]
    | field | charset | charsetName | pattern | config | unsupported | external => cases h

/-- Any other fault is the end of the serving, and nothing is recorded for it. -/
theorem serve_cons_of_escapes [Platform] {backend : Backend} {ending : Option Fault} {arrival : Arrival}
    {arrivals : List Arrival} (h : escapes (deliver backend arrival) = true) :
    ∃ fault, (deliver backend arrival).result = .error fault ∧
      serve backend ending (arrival :: arrivals) =
        ⟨[], (deliver backend arrival).log, (deliver backend arrival).backend, .error fault⟩ := by
  cases hresult : (deliver backend arrival).result with
  | ok u =>
    rw [escapes_of_ok hresult] at h
    cases h
  | error fault =>
    rw [escapes_of_error hresult, Bool.not_eq_true'] at h
    refine ⟨fault, rfl, ?_⟩
    cases fault with
    | gateway e => cases h
    | field | charset | charsetName | pattern | config | unsupported | external =>
      simp only [serve, hresult]

/-- Serving makes the deliveries: it records their refusals, leaves the backend of the last one and ends
with what ends them. -/
theorem serve_eq [Platform] (backend : Backend) (ending : Option Fault) (arrivals : List Arrival) :
    let made := deliveries backend arrivals
    let served := serve backend ending arrivals
    served.happenings = made.filterMap refusal? ∧ served.backend = lastBackend backend made ∧
      served.result = (endOf made ending).elim (.ok ()) .error := by
  induction arrivals generalizing backend with
  | nil => exact ⟨rfl, rfl, by cases ending <;> rfl⟩
  | cons arrival arrivals ih =>
    simp only [deliveries, lastBackend_cons]
    cases hescapes : escapes (deliver backend arrival) with
    | false =>
      obtain ⟨hhappenings, hbackend, hresult⟩ := serve_cons_of_stays hescapes
      obtain ⟨ihhappenings, ihbackend, ihresult⟩ := ih (deliver backend arrival).backend
      refine ⟨?_, ?_, ?_⟩
      · rw [hhappenings, ihhappenings]
        cases h : refusal? (deliver backend arrival) <;> simp [h]
      · rw [hbackend, ihbackend]
        rfl
      · rw [hresult, ihresult]
        simp [endOf, hescapes]
    | true =>
      obtain ⟨fault, hresult, hserve⟩ := serve_cons_of_escapes hescapes
      rw [hserve]
      exact ⟨by simp [refusal?, hescapes], rfl, by simp [endOf, hescapes, fault?, hresult]⟩

/-- Among the deliveries only the last one raises something else than an error of the gateway. -/
theorem find?_escapes [Platform] {backend : Backend} {arrivals : List Arrival} {step : Session.Step Unit}
    (hmem : step ∈ deliveries backend arrivals) (h : escapes step = true) :
    (deliveries backend arrivals).find? escapes = some step := by
  induction arrivals generalizing backend with
  | nil => cases hmem
  | cons arrival arrivals ih =>
    simp only [deliveries] at hmem ⊢
    cases hescapes : escapes (deliver backend arrival) with
    | false =>
      rw [hescapes, if_neg Bool.false_ne_true] at hmem
      rw [if_neg Bool.false_ne_true, List.find?_cons_of_neg (by simp [hescapes])]
      rcases List.mem_cons.mp hmem with rfl | hmem
      · rw [h] at hescapes
        cases hescapes
      · exact ih hmem
    | true =>
      rw [hescapes, if_pos rfl, List.mem_singleton] at hmem
      rw [List.find?_cons_of_pos hescapes, hmem]

/-- A fault that escapes ends the serving. -/
theorem endOf_of_escapes [Platform] {backend : Backend} {arrivals : List Arrival} {step : Session.Step Unit}
    {fault : Fault} (hmem : step ∈ deliveries backend arrivals) (hresult : step.result = .error fault)
    (hfault : fault.isGateway = false) (ending : Option Fault) :
    endOf (deliveries backend arrivals) ending = some fault := by
  have hescapes : escapes step = true := by rw [escapes_of_error hresult, hfault]; rfl
  unfold endOf
  rw [find?_escapes hmem hescapes]
  simp [fault?, hresult]

/-- Where no fault escapes the serving ends by itself. -/
theorem endOf_of_stays {made : List (Session.Step Unit)}
    (h : ∀ step ∈ made, ∀ fault, step.result = .error fault → fault.isGateway = true)
    (ending : Option Fault) : endOf made ending = ending := by
  have hnone : made.find? escapes = none := by
    refine List.find?_eq_none.mpr fun step hstep ↦ ?_
    cases hresult : step.result with
    | ok u => simp [escapes_of_ok hresult]
    | error fault => simp [escapes_of_error hresult, h step hstep fault hresult]
  unfold endOf
  rw [hnone]
  rfl

/-! ## Lives -/

/-- What has to succeed before the gateway listens: reading the settings, setting up the log and building
the backend. -/
structure Prepared [Platform] (sources : Settings.Sources)
    (configure : Text → Bool → Except Log.LevelError Unit) (ids : IdSource) (clock : Clock)
    (s : Settings) (first : Backend) (log : List Log.Entry) : Prop where
  settings : Settings.read sources = .ok s
  logging : configure s.logLevel s.logJson = .ok ()
  backend : s.createBackend none ids clock = .ok (first, log)

def opening (s : Settings) : List Happening :=
  [.logging s.logLevel s.logJson, .listener s.smtpHost s.smtpPort s.domain s.maxMailBytes, .started,
    .service s.httpHost s.httpPort, .serving]

variable {sources : Settings.Sources} {configure : Text → Bool → Except Log.LevelError Unit}
  {ids : IdSource} {clock : Clock} {s : Settings} {first : Backend} {log : List Log.Entry}

/-- A backend that was created has delivered nothing. -/
theorem createBackend_tally [Platform] {given : Option Publisher}
    (h : s.createBackend given ids clock = .ok (first, log)) : first.tally = .empty := by
  simp only [Settings.createBackend, bind_eq_ok] at h
  obtain ⟨_, -, _, -, hfirst⟩ := h
  cases hfirst
  rfl

/-- A backend that cannot be built is no failure of the serving. -/
theorem createBackend_error [Platform] {given : Option Publisher} {e : Failure}
    (h : s.createBackend given ids clock = .error e) (fault : Fault) : e ≠ .serving fault := by
  rintro rfl
  cases hpublisher : s.publisherOr given with
  | error e =>
    rw [Settings.createBackend, hpublisher] at h
    cases h
    cases given with
    | some publisher => cases hpublisher
    | none =>
      cases hnew : s.newPublisher <;> rw [Settings.publisherOr, hnew] at hpublisher <;> cases hpublisher
  | ok made =>
    rw [Settings.createBackend, hpublisher] at h
    cases hconfig : s.config.checked <;> rw [hconfig] at h <;> cases h

/-- The life of a prepared gateway is its life with the backend. -/
theorem Prepared.live_eq [Platform] (h : Prepared sources configure ids clock s first log)
    (servers : Servers) (arrivals : List Arrival) (ending : Option Fault) :
    live sources configure servers ids clock arrivals ending =
      liveOn s servers first (introduction s ++ log) arrivals ending := by
  unfold live liveWith
  rw [h.settings]
  dsimp only
  rw [h.logging, h.backend]

/-- The life of a prepared gateway with servers that do what they are asked to. -/
theorem live_of_prepared [Platform] (h : Prepared sources configure ids clock s first log)
    (arrivals : List Arrival) (ending : Option Fault) :
    let served := serve first ending arrivals
    live sources configure .reliable ids clock arrivals ending =
      ⟨opening s ++ served.happenings ++ [.stopped],
        introduction s ++ log ++ announcement s ++ served.log ++
          farewell served.backend.tally.counters,
        some served.backend, served.result.mapError .serving⟩ :=
  h.live_eq .reliable arrivals ending

/-- The life of a gateway that is not prepared, whatever its servers would do. -/
theorem live_of_not_prepared [Platform] (servers : Servers) (arrivals : List Arrival)
    (ending : Option Fault) (h : ¬ ∃ s first log, Prepared sources configure ids clock s first log) :
    let life := live sources configure servers ids clock arrivals ending
    .started ∉ life.happenings ∧ .stopped ∉ life.happenings ∧ life.backend = none ∧
      ∃ failure, life.result = .error failure ∧ ∀ fault, failure ≠ .serving fault := by
  dsimp only
  unfold live
  split
  · exact ⟨by simp, by simp, rfl, _, rfl, by simp⟩
  · next s hsettings =>
    unfold liveWith
    split
    · exact ⟨by simp, by simp, rfl, _, rfl, by simp⟩
    · next hlogging =>
      split
      · next e hbackend => exact ⟨by simp, by simp, rfl, e, rfl, createBackend_error hbackend⟩
      · next first log hbackend =>
        exact (h ⟨s, first, log, hsettings, hlogging, hbackend⟩).elim

/-- All that is recorded of deliveries are refusals. -/
theorem exists_refused {made : List (Session.Step Unit)} {happening : Happening}
    (h : happening ∈ made.filterMap refusal?) : ∃ fault, happening = .refused fault := by
  obtain ⟨step, -, hstep⟩ := List.mem_filterMap.mp h
  unfold refusal? at hstep
  split at hstep
  · cases hstep
  · obtain ⟨fault, -, hfault⟩ := Option.map_eq_some_iff.mp hstep
    exact ⟨fault, hfault.symm⟩

/-- Serving does not stop the listener. -/
theorem stopped_notMem_happenings [Platform] (first : Backend) (arrivals : List Arrival)
    (ending : Option Fault) : .stopped ∉ (serve first ending arrivals).happenings := by
  intro hmem
  rw [(serve_eq first ending arrivals).1] at hmem
  obtain ⟨fault, hfault⟩ := exists_refused hmem
  cases hfault

/-- A prepared gateway starts to listen if the listener can be built and started, and it stops if every
server does what it is asked to.  So a listener that was started is left running by a server of the pages
that cannot be built. -/
theorem Prepared.listens_iff [Platform] (h : Prepared sources configure ids clock s first log)
    (servers : Servers) (arrivals : List Arrival) (ending : Option Fault) :
    let life := live sources configure servers ids clock arrivals ending
    (.started ∈ life.happenings ↔ servers.listener = none ∧ servers.start = none) ∧
      (.stopped ∈ life.happenings ↔ servers = .reliable) := by
  have hserved := stopped_notMem_happenings first arrivals ending
  rw [h.live_eq servers arrivals ending]
  obtain ⟨listener, start, service, stop⟩ := servers
  unfold liveOn
  cases listener with
  | some fault => simp [Servers.reliable]
  | none =>
    cases start with
    | some fault => simp [Servers.reliable]
    | none =>
      cases service with
      | some fault => simp [Servers.reliable]
      | none => cases stop <;> simp [Servers.reliable, hserved]

/-- The counters of the backend that deliveries leave are the numbers of those that succeeded and of those
that failed. -/
theorem lastBackend_counters [Platform] {first : Backend} (h : first.tally = .empty)
    (arrivals : List Arrival) :
    let made := deliveries first arrivals
    (lastBackend first made).tally.counters.success = made.countP (·.result.isOk) ∧
      (lastBackend first made).tally.counters.failure = made.countP (!·.result.isOk) := by
  have hcount (known : Delivery.Outcome) :
      (lastBackend first (deliveries first arrivals)).tally.counters.count known =
        (deliveries first arrivals).countP (outcome · == known) := by
    rw [lastBackend_tally, Delivery.Tally.counters_recordAll, h, List.count_eq_countP,
      List.countP_map]
    cases known <;> exact Nat.zero_add _
  refine ⟨(hcount .success).trans ?_, (hcount .failure).trans ?_⟩
  all_goals
    refine congrArg (List.countP · _) (funext fun step ↦ ?_)
    unfold outcome
    cases step.result.isOk <;> rfl

/-- With servers that do what they are asked to, the gateway starts to listen exactly if it could read its
settings, set up its log and build its backend.  Then it stops listening once and as its last act, whatever
arrives and whatever ends the serving: what a delivery raised if that is no error of the gateway, or else
what the serving ends with, and the end is passed on.  The last entry of the log tells the counters of the
backend, and these are the numbers of deliveries that succeeded and that failed.  A gateway that does not
start does not stop either. -/
theorem live_starts_and_stops [Platform] (sources : Settings.Sources)
    (configure : Text → Bool → Except Log.LevelError Unit) {servers : Servers}
    (hservers : servers = .reliable) (ids : IdSource) (clock : Clock) (arrivals : List Arrival)
    (ending : Option Fault) :
    let life := live sources configure servers ids clock arrivals ending
    (.started ∈ life.happenings ↔
        ∃ s first log, Prepared sources configure ids clock s first log) ∧
      (.started ∉ life.happenings → .stopped ∉ life.happenings ∧ life.backend = none ∧
        ∃ failure, life.result = .error failure ∧ ∀ fault, failure ≠ .serving fault) ∧
      ∀ s first log, Prepared sources configure ids clock s first log →
        let made := deliveries first arrivals
        ∃ before between last,
          life.happenings = before ++ .started :: between ++ [.stopped] ∧
          .started ∉ before ++ between ∧ .stopped ∉ before ++ between ∧
          (∀ step ∈ made, ∀ fault, step.result = .error fault → fault.isGateway = false →
            life.result = .error (.serving fault)) ∧
          ((∀ step ∈ made, ∀ fault, step.result = .error fault → fault.isGateway = true) →
            life.result = (ending.map Failure.serving).elim (.ok ()) .error) ∧
          life.backend = some last ∧
          life.log.getLast? = some (entry ("SMTP server stopped (" ++
            Text.ofNat last.tally.counters.success ++ " successful, " ++
            Text.ofNat last.tally.counters.failure ++ " failed)")) ∧
          last.tally.counters.success = made.countP (·.result.isOk) ∧
          last.tally.counters.failure = made.countP (!·.result.isOk) := by
  subst hservers
  refine ⟨⟨fun hstarted ↦ ?_, ?_⟩, fun hstarted ↦ ?_, fun s first log hprepared ↦ ?_⟩
  · exact Classical.byContradiction fun hnot ↦
      (live_of_not_prepared .reliable arrivals ending hnot).1 hstarted
  · rintro ⟨s, first, log, hprepared⟩
    rw [live_of_prepared hprepared arrivals ending]
    simp [opening]
  · refine (live_of_not_prepared .reliable arrivals ending ?_).2
    rintro ⟨s, first, log, hprepared⟩
    rw [live_of_prepared hprepared arrivals ending] at hstarted
    simp [opening] at hstarted
  · obtain ⟨hhappenings, hbackend, hresult⟩ := serve_eq first ending arrivals
    obtain ⟨hsuccess, hfailure⟩ :=
      lastBackend_counters (createBackend_tally hprepared.backend) arrivals
    rw [live_of_prepared hprepared arrivals ending]
    dsimp only
    rw [hhappenings, hbackend, hresult]
    refine ⟨[.logging s.logLevel s.logJson, .listener s.smtpHost s.smtpPort s.domain s.maxMailBytes],
      .service s.httpHost s.httpPort :: .serving :: (deliveries first arrivals).filterMap refusal?,
      lastBackend first (deliveries first arrivals), rfl, ?_, ?_, ?_, ?_, rfl, ?_, hsuccess, hfailure⟩
    · intro hmem
      obtain ⟨fault, hfault⟩ := exists_refused (by simpa using hmem)
      cases hfault
    · intro hmem
      obtain ⟨fault, hfault⟩ := exists_refused (by simpa using hmem)
      cases hfault
    · intro step hstep fault hresult hfault
      rw [endOf_of_escapes hstep hresult hfault ending]
      rfl
    · intro hstays
      rw [endOf_of_stays hstays ending]
      cases ending <;> rfl
    · rw [List.getLast?_append]
      rfl

/-- The settings of a gateway that publishes in its own process. -/
def inProcess : Settings.Sources :=
  ⟨[], [("PUBLISHER".toList, "memory".toList)], []⟩

def unaddressed : Arrival :=
  ⟨[], []⟩

/-- The pages cannot be served because their port is in use. -/
def portInUse : Fault :=
  .external ⟨.other "OSError", "address already in use"⟩

section Bare

attribute [local instance] Platform.bare

/-- A refused mail does not end the serving, a port in use does, and the gateway stops with one failed
delivery. -/
theorem unaddressed_portInUse_stops :
    let life := live inProcess (fun level json ↦ (Log.Setup.ofName level json).map fun _ ↦ ())
      .reliable ⟨[], 0⟩ ⟨0, []⟩ [unaddressed] (some portInUse)
    .started ∈ life.happenings ∧ life.happenings.getLast? = some .stopped ∧
      life.result = .error (.serving portInUse) ∧
      life.log.getLast? = some (entry "SMTP server stopped (0 successful, 1 failed)") := by
  intro life
  obtain ⟨hstart, -, hstop⟩ := live_starts_and_stops inProcess
    (fun level json ↦ (Log.Setup.ofName level json).map fun _ ↦ ()) rfl ⟨[], 0⟩ ⟨0, []⟩ [unaddressed]
    (some portInUse)
  obtain ⟨before, between, last, hhappenings, -, -, -, hresult, -, hlog, hsuccess, hfailure⟩ :=
    hstop _ _ _ ⟨rfl, rfl, rfl⟩
  refine ⟨hstart.mpr ⟨_, _, _, rfl, rfl, rfl⟩, ?_, hresult ?_, ?_⟩
  · rw [hhappenings, List.getLast?_append]
    rfl
  · rintro step (_ | ⟨_, ⟨⟩⟩) fault hfault
    cases hfault
    rfl
  · rw [hlog, hsuccess, hfailure]
    rfl

end Bare

end Startup

end MailGateway
