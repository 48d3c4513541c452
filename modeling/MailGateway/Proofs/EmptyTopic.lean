import MailGateway.Proofs.Transaction

/-!
# Recipients without a topic

A session has no state of its own beside its topic: it is the empty topic that says that no recipient was
accepted.  A pattern may match the empty text, and then a recipient that is the prefix alone is accepted
for the empty topic.  The session returns this topic and carries it, but it still waits for a recipient,
and the mail that follows is refused.  For every other topic an accepted recipient is one.
-/

namespace MailGateway

namespace Session

/-- The state is read off the topic: an empty one does not count as accepted. -/
theorem stateName_eq_accepted (session : Session) :
    session.stateName = "RECIPIENT_ACCEPTED" ↔ session.topic ≠ [] := by
  unfold stateName isIdle
  cases session.topic with
  | nil => simp
  | cons c topic => simp

/-- A session that accepted a recipient carries the topic that it returned.  It is in the state of an
accepted recipient, and does not raise the error of a missing one at its next mail, exactly if this topic
is not empty, as is always the case when the topic pattern does not match the empty text. -/
theorem rcpt_accepts_iff_topic [Platform] {session : Session} {backend : Backend} {recipient topic : Text}
    (h : (session.rcpt backend recipient).result = .ok topic) :
    let next := session.rcpt backend recipient
    next.session.topic = topic ∧
      (next.session.stateName = "RECIPIENT_ACCEPTED" ↔ topic ≠ []) ∧
      (∀ mail, (∃ e, (next.session.data next.backend mail).result = .error (.gateway e) ∧
        e.errorClass.isA .noRecipient = true) ↔ topic = []) ∧
      (backend.config.NeedsTopic → topic ≠ []) := by
  intro next
  cases htopic : backend.config.topicOf recipient with
  | error fault =>
    rw [rcpt_of_error htopic] at h
    cases h
  | ok accepted =>
    have hnext : next = ⟨backend, ⟨accepted⟩, [], .ok accepted⟩ := rcpt_of_ok htopic
    obtain rfl : accepted = topic := by
      rw [rcpt_of_ok htopic] at h
      exact Except.ok.inj h
    rw [hnext]
    refine ⟨rfl, stateName_eq_accepted ⟨accepted⟩, ?_, ?_⟩
    · intro mail
      exact (data_raises_noRecipient ..).trans List.isEmpty_iff
    · exact fun hconfig ↦ hconfig.topic_ne_nil htopic

section Bare

attribute [local instance] Platform.bare

theorem rcpt_accepts_one_letter :
    (idle.rcpt Connections.oneTopic.server.backend "x@b").result = .ok "x" ∧
      (idle.rcpt Connections.oneTopic.server.backend "x@b").session.stateName =
        "RECIPIENT_ACCEPTED" := by
  have hresult : (idle.rcpt Connections.oneTopic.server.backend "x@b").result = .ok "x" := by
    rw [rcpt_of_ok Connections.topicOf_oneTopic]
  exact ⟨hresult, (rcpt_accepts_iff_topic hresult).2.1.mpr (by decide)⟩

/-- A backend whose pattern matches the empty text, and whose prefix may be a whole local part. -/
def looseBackend : Backend :=
  ⟨⟨"b", some "x", 4096, some "[a-z]*"⟩, .memory .empty, .empty, ⟨[], 0⟩, ⟨0, []⟩⟩

/-- The recipient that is the prefix alone is accepted, yet the session stays idle and the next mail
raises the error of a missing recipient. -/
theorem rcpt_accepts_nothing :
    let next := idle.rcpt looseBackend "x@b"
    looseBackend.config.checked = .ok looseBackend.config ∧ next.result = .ok [] ∧
      next.session.stateName = "IDLE" ∧
      (next.session.data next.backend []).result = .error (.gateway .noRecipient) := by
  intro next
  have htopic : looseBackend.config.topicOf "x@b" = .ok [] :=
    Topic.resolve_eq_ok.mpr ⟨_, "x", Connections.addresses_one, rfl, rfl, rfl⟩
  have hnext : next = ⟨looseBackend, ⟨[]⟩, [], .ok []⟩ := rcpt_of_ok htopic
  rw [hnext]
  exact ⟨rfl, rfl, rfl, rfl⟩

end Bare

end Session

end MailGateway
