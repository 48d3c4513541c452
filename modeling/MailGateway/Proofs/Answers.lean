import MailGateway.Proofs.Recipient
import MailGateway.Proofs.Topic

/-!
# Answers tell what was counted

The answer to a command, the counters and the publisher are changed in three different places, and they
agree: a mail is answered with the code 250 exactly if it is counted as a success and accepted by the
publisher, and every failure that is counted shows as a refusal or as a fault that a mail ends in.  A
recipient never ends in a fault, because the settings were checked when the backend was made.  Everything
else that a client says is not counted and does not reach the publisher.
-/

namespace MailGateway

/-! ## Errors of recipients -/

/-- An error of a recipient. -/
def Fault.IsRecipient : Fault → Prop
  | .gateway e => e.errorClass.isA .recipient = true
  | .field _ | .charset _ | .charsetName _ | .pattern _ | .config _ | .unsupported .. | .external _ =>
    False

namespace Topic

/-- A value that is no list of addresses is an error of the recipient. -/
theorem addresses_endsOnlyIn (value : Option Text) :
    EndsOnlyIn Fault.IsRecipient ((addresses value).mapError Fault.gateway) := by
  unfold addresses
  split
  · exact endsOnlyIn_error rfl
  split
  · exact endsOnlyIn_error rfl
  split
  · exact endsOnlyIn_ok _
  · exact endsOnlyIn_error rfl

theorem localPart_endsOnlyIn (domain address : Text) :
    EndsOnlyIn Fault.IsRecipient ((localPart domain address).mapError Fault.gateway) := by
  unfold localPart
  split
  · exact endsOnlyIn_ok _
  · exact endsOnlyIn_error rfl

theorem withoutPrefix_endsOnlyIn (start : Option Text) (name : Text) :
    EndsOnlyIn Fault.IsRecipient ((withoutPrefix start name).mapError Fault.gateway) := by
  unfold withoutPrefix
  split
  · exact endsOnlyIn_ok _
  · exact endsOnlyIn_error rfl

/-- With a pattern that can be read, a recipient ends in a topic or in an error of the recipient. -/
theorem resolve_endsOnlyIn [Platform] {pattern : Option Text} {read : Pattern}
    (hread : Pattern.read (pattern.getD defaultPattern) = .ok read) (recipient start : Option Text)
    (domain : Text) : EndsOnlyIn Fault.IsRecipient (resolve recipient domain start pattern) := by
  unfold resolve
  apply endsOnlyIn_bind (addresses_endsOnlyIn recipient)
  intro found
  split
  · next address =>
    apply endsOnlyIn_bind (localPart_endsOnlyIn domain address)
    intro name
    apply endsOnlyIn_bind (withoutPrefix_endsOnlyIn start name)
    intro topic
    unfold checked
    rw [hread]
    dsimp only
    split
    · exact endsOnlyIn_ok topic
    · exact endsOnlyIn_error rfl
  · exact endsOnlyIn_error rfl

end Topic

namespace Config

/-- A configuration that was checked has a pattern that can be read. -/
theorem read_of_checked [Platform] {config passed : Config} (h : config.checked = .ok passed) :
    ∃ read, Pattern.read (config.topicPattern.getD Topic.defaultPattern) = .ok read := by
  unfold checked at h
  split at h
  · cases h
  split at h
  · cases h
  split at h
  · cases h
  · next hpattern =>
    cases hchoice : config.topicPattern with
    | none => exact ⟨_, rfl⟩
    | some pattern =>
      rw [hchoice] at hpattern
      change patternError? pattern = none at hpattern
      unfold patternError? at hpattern
      split at hpattern
      · next read hread => exact ⟨read, hread⟩
      · cases hpattern

/-- Under settings that were checked, a recipient ends in a topic or in an error of the recipient. -/
theorem topicOf_endsOnlyIn [Platform] {config passed : Config} (h : config.checked = .ok passed)
    (recipient : Text) : EndsOnlyIn Fault.IsRecipient (config.topicOf recipient) := by
  obtain ⟨read, hread⟩ := read_of_checked h
  exact Topic.resolve_endsOnlyIn hread (some recipient) config.addressStart config.domain

end Config

/-! ## What a call is counted as -/

namespace Answer

def hasCode (code : Text) : Answer → Bool
  | .line text => code.isPrefixOf text
  | .accepted => false

/-- Whether an answer refuses a recipient or a mail. -/
def isRefusal (answer : Answer) : Bool :=
  answer.hasCode "550" || answer.hasCode "503" || answer.hasCode "451" || answer.hasCode "554"

end Answer

namespace Connections

/-- Whether a mail was answered with the code 250. -/
def isDelivered : Call → Bool
  | (.command _ (.data _), .ok (some answer)) => answer.isDone
  | _ => false

def isRefused : Call → Bool
  | (_, .ok (some answer)) => answer.isRefusal
  | _ => false

def isEscaped : Call → Bool
  | (.command _ (.data _), .error _) => true
  | _ => false

/-- Whether a call was answered with the code 452, was an accepted recipient, or was neither a recipient
nor a mail. -/
def isSilent : Call → Bool
  | (.command _ (.rcpt ..), .ok (some answer)) => answer.hasCode "452" || answer.isDone
  | (.command _ (.data _), .ok (some answer)) => answer.hasCode "452"
  | (.command _ (.rcpt ..), _) | (.command _ (.data _), _) => false
  | _ => true

/-- What calls do to the counters and to the publisher of a backend. -/
structure Counted (before : Backend) (calls : List Call) (after : Backend) : Prop where
  success : after.tally.counters.success =
    before.tally.counters.success + calls.countP isDelivered
  accepted : after.publisher.accepted.length =
    before.publisher.accepted.length + calls.countP isDelivered
  failure : after.tally.counters.failure =
    before.tally.counters.failure + calls.countP isRefused + calls.countP isEscaped
  silent : (∀ call ∈ calls, isSilent call = true) →
    after.tally.counters = before.tally.counters ∧ after.publisher = before.publisher
  scheduled : after.publisher.IsScheduled

variable {before between after : Backend} {call : Call}

/-- Calls that follow each other are counted one after the other. -/
theorem Counted.append {first second : List Call} (hfirst : Counted before first between)
    (hsecond : Counted between second after) : Counted before (first ++ second) after where
  success := by rw [hsecond.success, hfirst.success, List.countP_append, Nat.add_assoc]
  accepted := by rw [hsecond.accepted, hfirst.accepted, List.countP_append, Nat.add_assoc]
  failure := by
    rw [hsecond.failure, hfirst.failure, List.countP_append, List.countP_append]
    omega
  silent h := by
    obtain ⟨h₁, h₂⟩ := List.forall_mem_append.mp h
    exact ⟨(hsecond.silent h₂).1.trans (hfirst.silent h₁).1,
      (hsecond.silent h₂).2.trans (hfirst.silent h₁).2⟩
  scheduled := hsecond.scheduled

/-- A call without a delivery or a failure leaves counters and publisher as they are. -/
theorem counted_nothing (hdelivered : isDelivered call = false) (hrefused : isRefused call = false)
    (hescaped : isEscaped call = false) (hscheduled : before.publisher.IsScheduled)
    (hcounters : after.tally.counters = before.tally.counters)
    (hpublisher : after.publisher = before.publisher) : Counted before [call] after where
  success := by simp [hcounters, hdelivered]
  accepted := by simp [hpublisher, hdelivered]
  failure := by simp [hcounters, hrefused, hescaped]
  silent _ := ⟨hcounters, hpublisher⟩
  scheduled := by
    rw [hpublisher]
    exact hscheduled

/-- A call that counts one success, for which one publication is delivered. -/
theorem counted_delivery (hdelivered : isDelivered call = true) (hrefused : isRefused call = false)
    (hescaped : isEscaped call = false) (hsilent : isSilent call = false)
    (hscheduled : after.publisher.IsScheduled)
    (hcounters : after.tally.counters = before.tally.counters.record .success)
    (haccepted : after.publisher.accepted.length = before.publisher.accepted.length + 1) :
    Counted before [call] after where
  success := by simp [hcounters, hdelivered, Delivery.Counters.record]
  accepted := by simp [haccepted, hdelivered]
  failure := by simp [hcounters, hrefused, hescaped, Delivery.Counters.record]
  silent h := by
    rw [h call List.mem_cons_self] at hsilent
    cases hsilent
  scheduled := hscheduled

/-- A call that counts one failure, for which nothing is delivered. -/
theorem counted_failure (hdelivered : isDelivered call = false)
    (hfailed : [call].countP isRefused + [call].countP isEscaped = 1)
    (hsilent : isSilent call = false) (hscheduled : after.publisher.IsScheduled)
    (hcounters : after.tally.counters = before.tally.counters.record .failure)
    (haccepted : after.publisher.accepted = before.publisher.accepted) :
    Counted before [call] after where
  success := by simp [hcounters, hdelivered, Delivery.Counters.record]
  accepted := by simp [haccepted, hdelivered]
  failure := by
    rw [hcounters, Nat.add_assoc, hfailed]
    rfl
  silent h := by
    rw [h call List.mem_cons_self] at hsilent
    cases hsilent
  scheduled := hscheduled

end Connections

/-! ## Commands -/

namespace Publisher

/-- Publishing leaves the kind of a publisher as it is. -/
theorem isScheduled_publish (publisher : Publisher) (p : Publication) :
    (publisher.publish p).publisher.IsScheduled ↔ publisher.IsScheduled := by
  cases publisher <;> rfl

/-- A bus or a function that fails accepts nothing. -/
theorem accepted_publish_of_error {publisher : Publisher} (hscheduled : publisher.IsScheduled)
    {p : Publication} {fault : Fault} (h : (publisher.publish p).result = .error fault) :
    (publisher.publish p).publisher.accepted = publisher.accepted := by
  cases hentry : publisher.schedule.head?.join with
  | none =>
    rw [(publish_of_none hscheduled hentry p).2] at h
    cases h
  | some f =>
    rw [(publish_of_some hscheduled hentry p).1]
    cases publisher with
    | memory memory => exact hscheduled.elim
    | bus bus => exact List.append_nil _
    | callback callback => exact congrArg (List.map _) (List.append_nil _)

end Publisher

namespace Session.DataEnd

variable {session : Session} {backend : Backend} {mail : List UInt8} {step : Step Publication}

theorem isScheduled [Platform] (h : DataEnd session backend mail step)
    (hscheduled : backend.publisher.IsScheduled) : step.backend.publisher.IsScheduled := by
  cases h with
  | noRecipient | unreadable => exact hscheduled
  | refused | published => exact (Publisher.isScheduled_publish ..).mpr hscheduled

/-- A bus or a function accepts what a mail returns, and nothing if it returns nothing. -/
theorem accepted_eq [Platform] (h : DataEnd session backend mail step)
    (hscheduled : backend.publisher.IsScheduled) :
    step.backend.publisher.accepted =
      backend.publisher.accepted ++ step.result.toOption.toList.map backend.publisher.delivery := by
  cases h with
  | noRecipient | unreadable => exact (List.append_nil _).symm
  | refused hidle hassembled hpublish =>
    exact (Publisher.accepted_publish_of_error hscheduled hpublish).trans (List.append_nil _).symm
  | published hidle hassembled hpublish => exact Publisher.accepted_publish_of_ok hpublish

end Session.DataEnd

namespace Connection

open Connections (Counted isDelivered isRefused isEscaped isSilent counted_nothing counted_delivery
  counted_failure)

@[simp]
theorem opened_counters (connection : Connection) (server : Server) :
    (connection.opened server).backend.tally.counters = server.backend.tally.counters := by
  rw [opened_backend]
  rfl

/-- A mail that failed is answered with a refusal or ends in a fault. -/
theorem dataAnswer_error (envelope : Envelope) (fault : Fault) (name : Text) (content : List UInt8) :
    let call : Connections.Call :=
      (.command name (.data content), (dataAnswer envelope (.error fault)).map some)
    isDelivered call = false ∧ [call].countP isRefused + [call].countP isEscaped = 1 ∧
      isSilent call = false := by
  cases fault with
  | gateway e =>
    change (Answer.line (rejection envelope e).2).isDone = false ∧
      (Answer.line (rejection envelope e).2).isRefusal.toNat + 0 = 1 ∧
      (Answer.line (rejection envelope e).2).hasCode "452" = false
    unfold rejection
    split
    · exact ⟨rfl, rfl, rfl⟩
    · split <;> exact ⟨rfl, rfl, rfl⟩
  | field | charset | charsetName | pattern | config | unsupported | external => exact ⟨rfl, rfl, rfl⟩

/-- A mail counts one outcome: the one that it was answered with. -/
theorem data_counted [Platform] (connection : Connection) {server : Server}
    (hscheduled : server.backend.publisher.IsScheduled) (name : Text) (content : List UInt8) :
    let act := connection.data server content
    Counted server.backend [(.command name (.data content), act.result.map some)]
      act.server.backend := by
  intro act
  obtain ⟨step, log, hend, hdata⟩ := connection.data_end server content
  have hpublisher := opened_publisher connection server
  have hcounters := opened_counters connection server
  rw [← hpublisher] at hscheduled
  have hnext := hend.isScheduled hscheduled
  have haccepted := hend.accepted_eq hscheduled
  have htally := congrArg Delivery.Tally.counters hend.tally_eq
  change step.backend.tally.counters =
    (connection.opened server).backend.tally.counters.record _ at htally
  rw [hpublisher] at haccepted
  rw [hcounters] at htally
  have hact : act = _ := hdata
  rw [hact]
  change Counted server.backend
    [(.command name (.data content), (dataAnswer connection.envelope step.result).map some)]
    step.backend
  cases hresult : step.result with
  | ok p =>
    rw [hresult] at haccepted htally
    exact counted_delivery rfl rfl rfl rfl hnext htally
      ((congrArg List.length haccepted).trans List.length_append)
  | error fault =>
    rw [hresult] at haccepted htally
    obtain ⟨hdelivered, hfailed, hsilent⟩ :=
      dataAnswer_error connection.envelope fault name content
    exact counted_failure hdelivered hfailed hsilent hnext htally
      (haccepted.trans (List.append_nil _))

/-- Under settings that were checked a recipient cannot end in a fault. -/
theorem RcptEnd.counted [Platform] {connection : Connection} {server : Server} {address : Text}
    {options : List Text} {act : Act} (h : RcptEnd connection server address options act)
    (hconfig : server.backend.config.checked = .ok server.backend.config)
    (hscheduled : server.backend.publisher.IsScheduled) (name : Text) :
    Counted server.backend [(.command name (.rcpt address options), act.result.map some)]
      act.server.backend := by
  have hpublisher := opened_publisher connection server
  have hcounters := opened_counters connection server
  cases h with
  | repeated | accepted => exact counted_nothing rfl rfl rfl hscheduled hcounters hpublisher
  | rejected hrecipients htopic hclass =>
    apply counted_failure rfl rfl rfl
    · rw [← hpublisher] at hscheduled
      exact hscheduled
    · exact congrArg (Delivery.Counters.record · .failure) hcounters
    · exact congrArg Publisher.accepted hpublisher
  | @escaped hrecipients fault htopic hclass =>
    have hrecipient := Config.topicOf_endsOnlyIn hconfig address fault htopic
    cases fault with
    | gateway e =>
      have hother := hclass e rfl
      rw [Fault.IsRecipient, hother] at hrecipient
      cases hrecipient
    | field | charset | charsetName | pattern | config | unsupported | external => exact hrecipient.elim

theorem act_counted [Platform] (connection : Connection) {server : Server}
    (hconfig : server.backend.config.checked = .ok server.backend.config)
    (hscheduled : server.backend.publisher.IsScheduled) (name : Text) (command : Command) :
    let act := connection.act server command
    Counted server.backend [(.command name command, act.result.map some)] act.server.backend := by
  cases command with
  | auth credentials =>
    apply counted_nothing rfl rfl rfl hscheduled
    · exact congrArg (·.tally.counters) (connection.auth_backend server credentials)
    · exact congrArg (·.publisher) (connection.auth_backend server credentials)
  | mail | rset =>
    exact counted_nothing rfl rfl rfl hscheduled (opened_counters connection server)
      (opened_publisher connection server)
  | rcpt address options =>
    exact (connection.rcpt_end server address options).counted hconfig hscheduled name
  | data content => exact connection.data_counted hscheduled name content
  | quit => exact counted_nothing rfl rfl rfl hscheduled rfl rfl

end Connection

/-! ## Runs -/

namespace Connections

theorem step_counted [Platform] {state : Connections}
    (hconfig : state.server.backend.config.checked = .ok state.server.backend.config)
    (hscheduled : state.server.backend.publisher.IsScheduled) (event : Event) :
    Counted state.server.backend [(event, (state.step event).result)]
      (state.step event).state.server.backend := by
  have hfree (name : Text) :
      (state.free name).server.backend.tally.counters = state.server.backend.tally.counters ∧
        (state.free name).server.backend.publisher = state.server.backend.publisher := by
    unfold free
    split <;> exact ⟨rfl, rfl⟩
  cases event with
  | connect name peer | free name =>
    exact counted_nothing rfl rfl rfl hscheduled (hfree name).1 (hfree name).2
  | newEnvelope name => exact counted_nothing rfl rfl rfl hscheduled rfl rfl
  | command name command => exact (state.get name).act_counted hconfig hscheduled name command

/-- The counters after a run are those before, and the outcomes of its calls. -/
theorem run_counted [Platform] {state : Connections}
    (hconfig : state.server.backend.config.checked = .ok state.server.backend.config)
    (hscheduled : state.server.backend.publisher.IsScheduled) (events : List Event) :
    Counted state.server.backend (state.calls events) (state.run events).1.server.backend := by
  induction events generalizing state with
  | nil => exact ⟨rfl, rfl, rfl, fun _ ↦ ⟨rfl, rfl⟩, hscheduled⟩
  | cons event events ih =>
    have hstep := step_counted hconfig hscheduled event
    rw [← step_config state event] at hconfig
    exact hstep.append (ih hconfig hstep.scheduled)

/-- The first calls of a run are the calls of its first events. -/
theorem take_calls [Platform] (state : Connections) (events : List Event) (n : Nat) :
    (state.calls events).take n = state.calls (events.take n) := by
  induction events generalizing state n with
  | nil => rw [calls_nil, List.take_nil, List.take_nil, calls_nil]
  | cons event events ih =>
    cases n with
    | zero => rfl
    | succ n => rw [calls_cons, List.take_succ_cons, List.take_succ_cons, calls_cons, ih]

/-- After every prefix of a run, with a bus or a function that fails by any schedule: the successes are
the mails that were answered with the code 250, and as many publications were accepted; the failures are
the answers with the codes 550, 503, 451 and 554 together with the mails that ended in a fault.  A next
call that is answered with the code 452, that is an accepted recipient, or that is neither a recipient
nor a mail leaves the counters and the publisher as they are. -/
theorem run_counts_what_was_answered [Platform] {state : Connections}
    (hconfig : state.server.backend.config.checked = .ok state.server.backend.config)
    (hscheduled : state.server.backend.publisher.IsScheduled) (events : List Event) (n : Nat) :
    let start := state.server.backend
    let reached := (state.run (events.take n)).1
    let calls := (state.calls events).take n
    reached.server.backend.tally.counters.success =
        start.tally.counters.success + calls.countP isDelivered ∧
      reached.server.backend.publisher.accepted.length =
        start.publisher.accepted.length + calls.countP isDelivered ∧
      reached.server.backend.tally.counters.failure =
        start.tally.counters.failure + calls.countP isRefused + calls.countP isEscaped ∧
      ∀ event,
        let next := reached.step event
        isSilent (event, next.result) = true →
          next.state.server.backend.tally.counters = reached.server.backend.tally.counters ∧
            next.state.server.backend.publisher = reached.server.backend.publisher := by
  intro start reached calls
  have hcalls : calls = state.calls (events.take n) := state.take_calls events n
  have hrun : Counted start calls reached.server.backend := by
    rw [hcalls]
    exact run_counted hconfig hscheduled (events.take n)
  refine ⟨hrun.success, hrun.accepted, hrun.failure, ?_⟩
  intro event next hsilent
  have hreached : reached.server.backend.config.checked = .ok reached.server.backend.config := by
    rw [run_config]
    exact hconfig
  exact (step_counted hreached hrun.scheduled event).silent (List.forall_mem_singleton.mpr hsilent)

/-- A server that hands publications to a function, with one connection whose recipient was accepted. -/
def oneRecipient : Connections :=
  ⟨⟨⟨⟨"b", none, 4096, some "x"⟩, .callback ⟨[], []⟩, .empty, ⟨[], 0⟩, ⟨0, []⟩⟩, 1, some "1"⟩,
    [("c", ⟨.address [.text "127.0.0.1", .int 40000], ⟨none, [], ["x@b"], []⟩,
      some ⟨⟨"x"⟩, "1"⟩, 1⟩)]⟩

section Bare

attribute [local instance] Platform.bare

/-- A second recipient is not counted, the first mail is a success, and the next one, for which there is
no recipient any more, a failure. -/
theorem run_counts_one_delivery :
    let start := oneRecipient.server.backend
    let events : List Event := [.command "c" (.rcpt "y@b" []),
      .command "c" (.data (Text.latinBytes "Content-Type: text/plain\n\nhi")),
      .command "c" (.data [])]
    let reached := (oneRecipient.run events).1.server.backend
    start.config.checked = .ok start.config ∧ start.publisher.IsScheduled ∧
      reached.tally.counters.success = 1 ∧ reached.publisher.accepted.length = 1 ∧
      reached.tally.counters.failure = 1 := by
  intro start events reached
  have hconfig : start.config.checked = .ok start.config := rfl
  have hscheduled : start.publisher.IsScheduled := trivial
  obtain ⟨hsuccess, haccepted, hfailure, -⟩ :=
    run_counts_what_was_answered hconfig hscheduled events 3
  refine ⟨hconfig, hscheduled, hsuccess.trans ?_, haccepted.trans ?_, hfailure.trans ?_⟩
  all_goals decide +kernel

end Bare

end Connections

end MailGateway
