import MailGateway.Proofs.SessionRun

/-!
# Handing over exactly once

A bus or a function fails by a schedule that may be anything.  Along a run of sessions every request
to it uses up one entry of the schedule.  An entry without a failure delivers one publication, which
is the one that the mail returns; an entry with a failure delivers nothing and surfaces as the error
of publishing that the mail raises.  No other call reaches the publisher.  So the deliveries are the
returned publications in their order, and nothing is retried, lost or reported twice.
-/

namespace MailGateway

/-- How a request that met an entry of the schedule of a publisher may end. -/
def Publisher.Answers (publisher : Publisher) :
    Option Failure → Except GatewayError Publication → Prop
  | none, .ok _ => True
  | some f, .error e => ∃ topic, e = publisher.refusal topic f
  | none, .error _ | some _, .ok _ => False

/-- How a publisher answers does not depend on how often it was asked. -/
theorem Publisher.answers_asked (publisher : Publisher) (n : Nat) (delivered : List Publication)
    (entry : Option Failure) (request : Except GatewayError Publication) :
    (publisher.asked n delivered).Answers entry request ↔ publisher.Answers entry request := by
  cases entry <;> cases request <;> simp [Answers]

namespace Sessions

def message? : Call → Option Publication
  | (.data .., .ok (.published p)) => some p
  | _ => none

/-- A mail that reached the publisher: it returned a publication or raised an error of publishing. -/
def request? : Call → Option (Except GatewayError Publication)
  | (.data .., .ok (.published p)) => some (.ok p)
  | (.data .., .error (.gateway e)) =>
    if e.errorClass.isA .publish then some (.error e) else none
  | _ => none

def requests (calls : List Call) : List (Except GatewayError Publication) :=
  calls.filterMap request?

def messages (calls : List Call) : List Publication :=
  calls.filterMap message?

/-- The requests of a run are those of its first call, and the others. -/
theorem requests_cons (call : Call) (calls : List Call) :
    requests (call :: calls) = (request? call).toList ++ requests calls := by
  unfold requests
  rw [List.filterMap_cons]
  cases request? call <;> rfl

theorem messages_cons (call : Call) (calls : List Call) :
    messages (call :: calls) = (message? call).toList ++ messages calls := by
  unfold messages
  rw [List.filterMap_cons]
  cases message? call <;> rfl

def publishingTo (state : Sessions) (publisher : Publisher) : Sessions :=
  { state with backend := { state.backend with publisher := publisher } }

/-- How a call leaves a scheduled publisher. -/
structure Asks (publisher : Publisher) (call : Call) (next : Publisher) : Prop where
  asked : next = publisher.asked (request? call).toList.length (message? call).toList
  answers : ∀ request, request? call = some request →
    publisher.Answers publisher.schedule.head?.join request

theorem asks_nothing {call : Call} (hrequest : request? call = none) (hmessage : message? call = none)
    (publisher : Publisher) : Asks publisher call publisher where
  asked := by
    rw [hrequest, hmessage]
    exact publisher.asked_zero.symm
  answers request h := by
    rw [hrequest] at h
    cases h

/-- A mail that is refused for its content asks the publisher for nothing. -/
theorem request?_of_content (name : Text) (mail : List UInt8) {fault : Fault}
    (h : fault.IsContent) : request? (.data name mail, .error fault) = none := by
  cases fault with
  | gateway e =>
    have hclass := (ErrorClass.not_isA_of_content h).2
    simp [request?, hclass]
  | field | charset | charsetName | pattern | config | unsupported | external => rfl

theorem request?_refusal (name : Text) (mail : List UInt8) (publisher : Publisher) (topic : Text)
    (f : Failure) :
    request? (.data name mail, .error (.gateway (publisher.refusal topic f))) =
      some (.error (publisher.refusal topic f)) := by
  simp [request?, publisher.refusal_isA]

/-- Of the ends of a mail only the last two ask the publisher, and each asks it once. -/
theorem asks_of_dataEnd [Platform] {session : Session} {backend : Backend} {mail : List UInt8}
    {ending : Session.Step Publication} (hscheduled : backend.publisher.IsScheduled)
    (h : session.DataEnd backend mail ending) (name : Text) :
    Asks backend.publisher (.data name mail, ending.result.map .published)
      ending.backend.publisher := by
  cases h with
  | noRecipient => exact asks_nothing rfl rfl _
  | unreadable hidle hassembled =>
    exact asks_nothing (request?_of_content name mail (Session.assembled_isContent hassembled)) rfl _
  | @refused hidle p fault hassembled hpublish =>
    cases hentry : backend.publisher.schedule.head?.join with
    | none =>
      rw [(Publisher.publish_of_none hscheduled hentry p).2] at hpublish
      cases hpublish
    | some f =>
      obtain ⟨hasked, raised, hraised, hrefusal⟩ := Publisher.publish_of_some hscheduled hentry p
      have hsame : raised = fault := Except.error.inj (hraised.symm.trans hpublish)
      have hrequest := request?_refusal name mail backend.publisher p.topic f
      rw [← hrefusal, hsame] at hrequest
      refine ⟨?_, ?_⟩
      · simp only [Except.map, hrequest]
        exact hasked
      · intro request h
        simp only [Except.map, hrequest] at h
        cases h
        rw [hentry]
        exact ⟨p.topic, rfl⟩
  | @published hidle p hassembled hpublish =>
    cases hentry : backend.publisher.schedule.head?.join with
    | none =>
      refine ⟨(Publisher.publish_of_none hscheduled hentry p).1, ?_⟩
      intro request h
      cases h
      rw [hentry]
      trivial
    | some f =>
      obtain ⟨-, raised, hraised, -⟩ := Publisher.publish_of_some hscheduled hentry p
      rw [hraised] at hpublish
      cases hpublish

/-- What one operation asks of a scheduled publisher. -/
theorem step_asks [Platform] (state : Sessions) (hscheduled : state.backend.publisher.IsScheduled)
    (operation : Operation) :
    Asks state.backend.publisher (operation, (state.step operation).result)
      (state.step operation).state.backend.publisher := by
  cases operation with
  | anonymous | login | authPlain | mail | reset | logout => exact asks_nothing rfl rfl _
  | rcpt name recipient =>
    simp only [step, after]
    cases htopic : state.backend.config.topicOf recipient with
    | ok topic =>
      rw [Session.rcpt_of_ok htopic]
      exact asks_nothing rfl rfl _
    | error fault =>
      rw [Session.rcpt_of_error htopic]
      exact asks_nothing rfl rfl _
  | data name mail =>
    exact asks_of_dataEnd hscheduled ((state.get name).data_end state.backend mail) name

/-- What a run asks of a scheduled publisher: the requests take the entries of the schedule one by
one from its front. -/
theorem run_asks [Platform] (state : Sessions) (hscheduled : state.backend.publisher.IsScheduled)
    (operations : List Operation) :
    let calls := state.calls operations
    let publisher := state.backend.publisher
    (state.run operations).1.backend.publisher =
        publisher.asked (requests calls).length (messages calls) ∧
      ∀ (i : Nat) (request : Except GatewayError Publication), (requests calls)[i]? = some request →
        publisher.Answers publisher.schedule[i]?.join request := by
  induction operations generalizing state with
  | nil =>
    refine ⟨(Publisher.asked_zero _).symm, ?_⟩
    intro i request h
    cases h
  | cons operation operations ih =>
    intro calls publisher
    obtain ⟨hstep, hanswer⟩ := state.step_asks hscheduled operation
    have hlater : (state.step operation).state.backend.publisher.IsScheduled := by
      rw [hstep]
      exact (Publisher.isScheduled_asked _ _ _).mpr hscheduled
    obtain ⟨hrun, hanswers⟩ := ih (state.step operation).state hlater
    simp only [calls, calls_cons, requests_cons, messages_cons, run_cons_fst]
    refine ⟨?_, ?_⟩
    · rw [hrun, hstep, Publisher.asked_asked, List.length_append]
    · intro i request hrequest
      rw [hstep, Publisher.schedule_asked hscheduled] at hanswers
      cases hfirst : request? (operation, (state.step operation).result) with
      | none =>
        have h := hanswers i request (by simpa [hfirst] using hrequest)
        rw [Publisher.answers_asked] at h
        simpa [hfirst] using h
      | some first =>
        cases i with
        | zero =>
          have h := hanswer first hfirst
          rw [hfirst] at hrequest
          cases hrequest
          rwa [List.head?_eq_getElem?] at h
        | succ i =>
          have h := hanswers i request (by simpa [hfirst] using hrequest)
          rw [Publisher.answers_asked] at h
          simpa [hfirst, Nat.add_comm] using h

/-- For every schedule of failures the deliveries of a run are exactly the publications that its mails
returned, in their order, so a mail that raised delivered nothing.  The requests use the schedule up
entry by entry: where there is no failure the mail returns, and where there is one the mail raises the
failure itself if it is an error of publishing, and else a wrapped one. -/
theorem run_hands_over_exactly_once [Platform] (state : Sessions) (operations : List Operation)
    (bus : Publisher.Bus) (callback : Publisher.Callback) :
    (let start := state.publishingTo (.bus bus)
      let calls := start.calls operations
      (start.run operations).1.backend.publisher =
          .bus { bus with
            failures := bus.failures.drop (requests calls).length
            sent := bus.sent ++
              (messages calls).map fun p ↦ (bus.channelStart ++ p.topic, p.payload) } ∧
        ∀ (i : Nat) (request : Except GatewayError Publication),
          (requests calls)[i]? = some request →
            (Publisher.bus bus).Answers bus.failures[i]?.join request) ∧
    (let start := state.publishingTo (.callback callback)
      let calls := start.calls operations
      (start.run operations).1.backend.publisher =
          .callback
            { failures := callback.failures.drop (requests calls).length
              received := callback.received ++ messages calls } ∧
        ∀ (i : Nat) (request : Except GatewayError Publication),
          (requests calls)[i]? = some request →
            (Publisher.callback callback).Answers callback.failures[i]?.join request) := by
  constructor
  · exact (state.publishingTo (.bus bus)).run_asks trivial operations
  · exact (state.publishingTo (.callback callback)).run_asks trivial operations

end Sessions

end MailGateway
