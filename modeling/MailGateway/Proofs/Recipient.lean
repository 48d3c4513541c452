import MailGateway.Proofs.ConnectionRun

/-!
# Mails go to the accepted recipient

The accepted recipient is kept twice: its address in the envelope of the connection, its topic in the
session.  Commands change the two copies at different times, and the engine may replace the envelope
alone.  A connection is linked if the session has no topic or the topic of the address in the
envelope.  Every step of a run keeps every connection linked, so a mail that is sent while the envelope
has a recipient can only be published under the topic of that recipient.
-/

namespace MailGateway

def Answer.isDone : Answer → Bool
  | .line text => ("250" : Text).isPrefixOf text
  | .accepted => false

/-- A publication that is made of a mail under the topic of an address. -/
structure Backend.MadeFor [Platform] (backend : Backend) (address : Text) (mail : List UInt8)
    (p : Publication) : Prop where
  topic : backend.config.topicOf address = .ok p.topic
  assembled : ((Session.mk p.topic).assembled backend mail).result = .ok p

/-! ## Linked connections -/

namespace Connection

/-- An envelope with at most one recipient, for which the session has no topic or the right one. -/
structure Linked [Platform] (config : Config) (connection : Connection) : Prop where
  single : connection.envelope.recipients.length ≤ 1
  resolved : connection.session.topic ≠ [] → ∀ address ∈ connection.envelope.recipients,
    config.topicOf address = .ok connection.session.topic

variable {config : Config} {connection next : Connection} {server : Server}

/-- Without a recipient there is nothing to link. -/
theorem linked_of_no_recipients [Platform] (h : connection.envelope.recipients = []) :
    connection.Linked config where
  single := by
    rw [h]
    exact Nat.zero_le 1
  resolved _ address haddress := by
    rw [h] at haddress
    cases haddress

/-- A session may lose its topic, but it must not get another one for the same recipients. -/
theorem Linked.keep [Platform] (hlinked : connection.Linked config)
    (hrecipients : next.envelope.recipients = connection.envelope.recipients)
    (hsession : next.session.topic = [] ∨ next.session = connection.session) :
    next.Linked config where
  single := by
    rw [hrecipients]
    exact hlinked.single
  resolved htopic address haddress := by
    rw [hrecipients] at haddress
    rcases hsession with hempty | hsame
    · exact (htopic hempty).elim
    · rw [hsame] at htopic ⊢
      exact hlinked.resolved htopic address haddress

/-- A recipient is noted in the envelope together with its topic in the session. -/
theorem RcptEnd.linked [Platform] {address : Text} {options : List Text} {act : Act}
    (h : RcptEnd connection server address options act)
    (hlinked : connection.Linked server.backend.config) :
    act.connection.Linked server.backend.config := by
  cases h with
  | repeated | rejected | escaped => exact hlinked.keep (congrArg _ (proceed_envelope ..)) (.inr rfl)
  | accepted hrecipients htopic =>
    refine ⟨Nat.le_refl 1, ?_⟩
    intro _ other hother
    rw [List.mem_singleton.mp hother]
    exact htopic

/-- A mail takes the topic away and leaves the envelope. -/
theorem data_linked [Platform] (hlinked : connection.Linked server.backend.config) (content : List UInt8) :
    (connection.data server content).connection.Linked server.backend.config := by
  obtain ⟨step, log, hend, hdata⟩ := connection.data_end server content
  rw [hdata]
  apply hlinked.keep
  · exact congrArg _ (proceed_envelope ..)
  · exact .inl hend.session_topic

/-- Every command keeps a connection linked. -/
theorem act_linked [Platform] (hlinked : connection.Linked server.backend.config) (command : Command) :
    (connection.act server command).connection.Linked server.backend.config := by
  cases command with
  | auth credentials => exact hlinked.keep rfl (.inl rfl)
  | mail address options =>
    change (connection.mail server address options).connection.Linked _
    rw [mail_connection]
    exact hlinked.keep rfl (.inr rfl)
  | rcpt address options => exact (connection.rcpt_end server address options).linked hlinked
  | data content => exact data_linked hlinked content
  | rset => exact hlinked.keep (congrArg _ (proceed_envelope ..)) (.inl rfl)
  | quit => exact hlinked.keep rfl (.inl rfl)

/-- No fault is answered with the code 250. -/
theorem not_isDone_of_error {envelope : Envelope} {fault : Fault} {answer : Answer}
    (h : dataAnswer envelope (.error fault) = .ok answer) : answer.isDone = false := by
  cases fault with
  | gateway e =>
    cases h
    unfold rejection
    split
    · rfl
    · split <;> rfl
  | field | charset | charsetName | pattern | config | unsupported | external => cases h

variable [Platform]

theorem opened_assembled (connection : Connection) (server : Server) (session : Session)
    (mail : List UInt8) :
    session.assembled (connection.opened server).backend mail =
      session.assembled server.backend mail := by
  rw [opened_backend]
  rfl

/-- A publication is made for the recipient of the envelope. -/
theorem Linked.madeFor (hlinked : connection.Linked server.backend.config) {address : Text}
    (hrecipient : address ∈ connection.envelope.recipients)
    (hidle : connection.session.isIdle = false) {mail : List UInt8} {p : Publication}
    (hassembled : (connection.session.assembled (connection.opened server).backend mail).result =
      .ok p) :
    server.backend.MadeFor address mail p := by
  rw [opened_assembled] at hassembled
  have htopic : p.topic = connection.session.topic := Session.assembled_topic hassembled
  have hpresent : connection.session.topic ≠ [] := by
    intro hempty
    rw [Session.isIdle, hempty] at hidle
    cases hidle
  refine ⟨?_, ?_⟩
  · rw [htopic]
    exact hlinked.resolved hpresent address hrecipient
  · rw [htopic]
    exact hassembled

/-- What a mail of a linked connection asks of the publisher.  A topic that the session still has is
that of the recipient, so nothing else can be published. -/
theorem data_publishes (hlinked : connection.Linked server.backend.config) {address : Text}
    (hrecipient : address ∈ connection.envelope.recipients) (content : List UInt8) :
    let publisher := server.backend.publisher
    let act := connection.data server content
    (act.server.backend.publisher = publisher ∧
        ∀ answer, act.result = .ok answer → answer.isDone = false) ∨
      ∃ p, server.backend.MadeFor address content p ∧
        act.server.backend.publisher = (publisher.publish p).publisher ∧
        ∀ answer, act.result = .ok answer → answer.isDone = true →
          (publisher.publish p).result = .ok () := by
  intro publisher act
  obtain ⟨step, log, hend, hdata⟩ := connection.data_end server content
  have hopened : (connection.opened server).backend.publisher = publisher :=
    opened_publisher connection server
  have hact : act = _ := hdata
  rw [hact]
  cases hend with
  | noRecipient hidle =>
    exact .inl ⟨hopened, fun answer ↦ @not_isDone_of_error _ (.gateway .noRecipient) answer⟩
  | unreadable hidle hassembled => exact .inl ⟨hopened, fun answer ↦ not_isDone_of_error⟩
  | refused hidle hassembled hpublish =>
    refine .inr ⟨_, hlinked.madeFor hrecipient hidle hassembled, ?_, ?_⟩
    · exact congrArg (fun publisher ↦ (Publisher.publish publisher _).publisher) hopened
    · intro answer hanswer hdone
      rw [not_isDone_of_error hanswer] at hdone
      cases hdone
  | published hidle hassembled hpublish =>
    refine .inr ⟨_, hlinked.madeFor hrecipient hidle hassembled, ?_, ?_⟩
    · exact congrArg (fun publisher ↦ (Publisher.publish publisher _).publisher) hopened
    · intro _ _ _
      rw [← hopened]
      exact hpublish

/-- Every event keeps a connection linked. -/
theorem after_linked (hlinked : connection.Linked server.backend.config) (event : Event) :
    (connection.after server event).Linked server.backend.config := by
  cases event with
  | connect | newEnvelope | free => exact linked_of_no_recipients rfl
  | command name command => exact act_linked hlinked command

end Connection

/-! ## Runs -/

namespace Connections

/-- After every run all connections are linked. -/
theorem run_linked [Platform] (server : Server) (events : List Event) (name : Text) :
    ((run ⟨server, []⟩ events).1.get name).Linked server.backend.config := by
  have hafter (connection : Connection) (server' : Server) (event : Event)
      (hconfig : server'.backend.config = server.backend.config)
      (hlinked : connection.Linked server.backend.config) :
      (connection.after server' event).Linked server.backend.config := by
    rw [← hconfig] at hlinked ⊢
    exact Connection.after_linked hlinked event
  have hfresh (other : Text) : ((Connections.mk server []).get other).Linked server.backend.config :=
    Connection.linked_of_no_recipients rfl
  exact run_invariant hafter rfl hfresh events name

/-- In every run every envelope has at most one recipient, and a mail that is sent while it has one is
published under the topic of that recipient or not at all: the publisher is handed a publication of
the mail under this topic, or nothing, and if the answer has the code 250 the publication is delivered.
What the session still has from an earlier transaction or from an earlier envelope is never used. -/
theorem run_publishes_to_recipient [Platform] (server : Server) (events : List Event) :
    let state := (run ⟨server, []⟩ events).1
    let backend := state.server.backend
    backend.config = server.backend.config ∧
    (∀ name, (state.get name).envelope.recipients.length ≤ 1) ∧
    ∀ (name address : Text) (others : List Text) (content : List UInt8),
      (state.get name).envelope.recipients = address :: others →
      let outcome := state.step (.command name (.data content))
      let next := outcome.state.server.backend.publisher
      (next = backend.publisher ∨
        ∃ p, backend.MadeFor address content p ∧
          next = (backend.publisher.publish p).publisher ∧
          (next.accepted = backend.publisher.accepted ∨
            next.accepted = backend.publisher.accepted ++ [backend.publisher.delivery p])) ∧
      ∀ answer, outcome.result = .ok (some answer) → answer.isDone = true →
        ∃ p, backend.MadeFor address content p ∧
          next = (backend.publisher.publish p).publisher ∧
          next.accepted = backend.publisher.accepted ++ [backend.publisher.delivery p] := by
  intro state backend
  have hconfig : backend.config = server.backend.config := run_config ⟨server, []⟩ events
  refine ⟨hconfig, fun name ↦ (run_linked server events name).single, ?_⟩
  intro name address others content hrecipients outcome next
  have hlinked : (state.get name).Linked backend.config := by
    rw [hconfig]
    exact run_linked server events name
  have hrecipient : address ∈ (state.get name).envelope.recipients := by
    rw [hrecipients]
    exact List.mem_cons_self
  have hanswer (answer : Answer) (h : outcome.result = .ok (some answer)) :
      ((state.get name).data state.server content).result = .ok answer :=
    (state.step_command_answer name (.data content) answer).mp h
  rcases Connection.data_publishes hlinked hrecipient content with
    ⟨hnext, hrefused⟩ | ⟨p, hmade, hnext, hdelivered⟩
  · refine ⟨.inl hnext, ?_⟩
    intro answer h hdone
    rw [hrefused answer (hanswer answer h)] at hdone
    cases hdone
  · have haccepted : next.accepted = (backend.publisher.publish p).publisher.accepted :=
      congrArg Publisher.accepted hnext
    refine ⟨.inr ⟨p, hmade, hnext, ?_⟩, ?_⟩
    · rw [haccepted]
      exact backend.publisher.accepted_publish p
    · intro answer h hdone
      refine ⟨p, hmade, hnext, ?_⟩
      rw [haccepted]
      exact Publisher.accepted_publish_of_ok (hdelivered answer (hanswer answer h) hdone)

end Connections

end MailGateway
