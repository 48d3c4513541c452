import MailGateway.Assembly

/-!
# What assembling a publication can end in

A mail that cannot be assembled ends in an error of its content: one of the classes of extraction or
of header decoding, or a fault of a field or of a charset that the gateway does not handle.  In
particular it never ends in an error of publishing, nor in the error of a missing recipient, so these
two classes tell apart the stages of a delivery.  A mail that is assembled keeps the topic it was
assembled for.
-/

namespace MailGateway

variable {ε δ α β : Type}

/-- Every fault that the result can end in satisfies the condition. -/
def EndsOnlyIn (condition : ε → Prop) (result : Except ε α) : Prop :=
  ∀ fault, result = .error fault → condition fault

section EndsOnlyIn

variable {condition : ε → Prop}

theorem endsOnlyIn_ok (a : α) : EndsOnlyIn condition (.ok a) := by
  intro fault h
  cases h

theorem endsOnlyIn_error {fault : ε} (h : condition fault) :
    EndsOnlyIn condition (.error fault : Except ε α) := by
  intro other hother
  cases hother
  exact h

/-- Two steps end only in faults that either of them may end in. -/
theorem endsOnlyIn_bind {result : Except ε α} {next : α → Except ε β}
    (h : EndsOnlyIn condition result) (hnext : ∀ a, EndsOnlyIn condition (next a)) :
    EndsOnlyIn condition (result >>= next) := by
  cases result with
  | ok a => exact hnext a
  | error fault => exact endsOnlyIn_error (h fault rfl)

theorem endsOnlyIn_map {result : Except ε α} (f : α → β)
    (h : EndsOnlyIn condition result) : EndsOnlyIn condition (result.map f) := by
  cases result with
  | ok a => exact endsOnlyIn_ok (f a)
  | error fault => exact endsOnlyIn_error (h fault rfl)

theorem endsOnlyIn_mapError {result : Except δ α} {f : δ → ε}
    (h : ∀ e, condition (f e)) : EndsOnlyIn condition (result.mapError f) := by
  cases result with
  | ok a => exact endsOnlyIn_ok a
  | error e => exact endsOnlyIn_error (h e)

/-- A fault of a list is the fault of one of its items. -/
theorem endsOnlyIn_mapM {f : α → Except ε β} {items : List α}
    (h : ∀ a ∈ items, EndsOnlyIn condition (f a)) : EndsOnlyIn condition (items.mapM f) := by
  induction items with
  | nil => exact endsOnlyIn_ok []
  | cons a items ih =>
    rw [List.mapM_cons]
    apply endsOnlyIn_bind (h a List.mem_cons_self)
    intro b
    apply endsOnlyIn_bind (ih fun c hc ↦ h c (List.mem_cons_of_mem _ hc))
    intro rest
    exact endsOnlyIn_ok (b :: rest)

end EndsOnlyIn

/-- A fault that the text of a mail can end in: an error about the media type or the parts, or a fault that
is no error of the gateway. -/
inductive Fault.IsOfText : Fault → Prop
  | noMediaType : IsOfText (.gateway .noMediaType)
  | invalidMediaType (value : Text) : IsOfText (.gateway (.invalidMediaType value))
  | invalidMediaParameter (value : Text) : IsOfText (.gateway (.invalidMediaParameter value))
  | unsupportedContentType : IsOfText (.gateway .unsupportedContentType)
  | unreadableBody : IsOfText (.gateway .unreadableBody)
  | emptyBoundary : IsOfText (.gateway .emptyBoundary)
  | missingParts : IsOfText (.gateway .missingParts)
  | noPlainTextPart : IsOfText (.gateway .noPlainTextPart)
  | field (fault : Mail.FieldFault) : IsOfText (.field fault)
  | charset (e : Charset.Error) : IsOfText (.charset e)

/-- A fault of the content of a mail. -/
def Fault.IsContent : Fault → Prop
  | .gateway e => e.errorClass.isA .extraction = true ∨ e.errorClass.isA .headerDecode = true
  | .field _ | .charset _ | .charsetName _ => True
  | .pattern _ | .config _ | .unsupported .. | .external _ => False

/-- What is wrong with a text is wrong with the content of its mail. -/
theorem Fault.IsOfText.isContent {fault : Fault} (h : fault.IsOfText) : fault.IsContent := by
  cases h with
  | field | charset => trivial
  | _ => exact .inl rfl

namespace ErrorClass

/-- The classes of content errors are disjoint from those of the stages around the assembling. -/
theorem not_isA_of_content {c : ErrorClass}
    (h : c.isA .extraction = true ∨ c.isA .headerDecode = true) :
    c.isA .noRecipient = false ∧ c.isA .publish = false := by
  revert h
  cases c <;> decide

end ErrorClass

/-! ## The text of a mail -/

namespace Mail

theorem MediaType.parse_endsOnlyIn [Platform] (value : Option Text) :
    EndsOnlyIn Fault.IsOfText (MediaType.parse value) := by
  unfold MediaType.parse
  dsimp only
  split
  · exact endsOnlyIn_error .noMediaType
  split
  · exact endsOnlyIn_error (.invalidMediaType _)
  split
  · exact endsOnlyIn_error (.field _)
  split
  · exact endsOnlyIn_error (.invalidMediaParameter _)
  · exact endsOnlyIn_ok _

namespace Body

variable [Platform]

theorem charsetName_endsOnlyIn (fields : List Field) :
    EndsOnlyIn Fault.IsOfText (charsetName fields) := by
  unfold charsetName
  refine endsOnlyIn_bind (endsOnlyIn_mapError .field) ?_
  intro shown
  cases shown with
  | none => exact endsOnlyIn_ok _
  | some shown =>
    refine endsOnlyIn_bind (endsOnlyIn_mapError .charset) ?_
    intro name
    exact endsOnlyIn_ok _

theorem text_endsOnlyIn (message : Message) :
    EndsOnlyIn Fault.IsOfText (text message).2 := by
  cases message with
  | container fields parts => exact endsOnlyIn_error .unreadableBody
  | leaf fields body =>
    unfold text
    dsimp only
    split
    · exact endsOnlyIn_error (.field _)
    · next fault _ h => exact endsOnlyIn_error (charsetName_endsOnlyIn fields fault h)
    split
    · exact endsOnlyIn_ok _
    split
    · exact endsOnlyIn_ok _
    · exact endsOnlyIn_error (.charset _)

theorem mediaType_endsOnlyIn (message : Message) :
    EndsOnlyIn Fault.IsOfText (mediaType message) := by
  refine endsOnlyIn_bind (endsOnlyIn_mapError .field) ?_
  intro shown
  exact MediaType.parse_endsOnlyIn shown

theorem firstPlain_endsOnlyIn (index : Nat) (parts : List Message) :
    EndsOnlyIn Fault.IsOfText (firstPlain index parts).2 := by
  induction parts generalizing index with
  | nil => exact endsOnlyIn_error .noPlainTextPart
  | cons part parts ih =>
    unfold firstPlain
    split
    · next fault h => exact endsOnlyIn_error (mediaType_endsOnlyIn part fault h)
    split
    · exact text_endsOnlyIn part
    · exact ih (index + 1)

/-- The parts of a message add no faults to those of a text. -/
theorem ofMessage_endsOnlyIn (message : Message) :
    EndsOnlyIn Fault.IsOfText (ofMessage message).2 := by
  unfold ofMessage
  split
  · next fault h => exact endsOnlyIn_error (mediaType_endsOnlyIn message fault h)
  split
  · exact text_endsOnlyIn message
  split
  · split
    · exact endsOnlyIn_error .emptyBoundary
    split
    · exact endsOnlyIn_error .missingParts
    · exact firstPlain_endsOnlyIn 0 message.parts
  · exact endsOnlyIn_error .unsupportedContentType

/-- A mail that cannot be taken apart is an error of the content. -/
theorem readMessage_endsOnlyIn (bytes : List UInt8) :
    EndsOnlyIn Fault.IsContent (readMessage bytes) := by
  apply endsOnlyIn_mapError
  intro fault
  split
  · trivial
  · exact .inl rfl

end Body

/-! ## The subject of a mail -/

namespace Subject

theorem charsetFault_isContent (subject : Text) (e : Charset.Error) :
    (charsetFault subject e).IsContent := by
  cases e with
  | nulInName | refused | unwritable => trivial
  | unknown | transformation | unwritableTransformation | undecodable => exact .inr rfl

theorem Chunk.run_endsOnlyIn [Platform] (chunk : Chunk) (subject : Text) :
    EndsOnlyIn Fault.IsContent (chunk.run subject) := by
  unfold Chunk.run
  dsimp only
  split
  · split
    · exact endsOnlyIn_ok _
    · exact endsOnlyIn_error (charsetFault_isContent subject _)
  · exact endsOnlyIn_error trivial

/-- A subject that cannot be decoded is an error of the content. -/
theorem decode_endsOnlyIn [Platform] (subject : Text) :
    EndsOnlyIn Fault.IsContent (decode subject) := by
  unfold decode
  split
  · split
    · exact endsOnlyIn_error (.inr rfl)
    · apply endsOnlyIn_bind (endsOnlyIn_mapM fun chunk _ ↦ Chunk.run_endsOnlyIn chunk subject)
      intro runs
      exact endsOnlyIn_ok _
  · exact endsOnlyIn_ok subject

end Subject

end Mail

/-! ## The publication of a mail -/

namespace Publication

theorem withTitle_topic (p : Publication) (title : Text) : (p.withTitle title).topic = p.topic := by
  unfold withTitle
  split <;> rfl

variable [Platform]

/-- A subject does not change the topic. -/
theorem withSubject_topic {p q : Publication} {subject : Text}
    (h : p.withSubject subject = .ok q) : q.topic = p.topic := by
  unfold withSubject at h
  split at h
  · cases h
    rfl
  · cases hdecode : Mail.Subject.decode subject with
    | error fault => rw [hdecode] at h; cases h
    | ok title =>
      rw [hdecode] at h
      cases h
      exact withTitle_topic p title

theorem withSubject_endsOnlyIn (p : Publication) (subject : Text) :
    EndsOnlyIn Fault.IsContent (p.withSubject subject) := by
  unfold withSubject
  split
  · exact endsOnlyIn_ok p
  · exact endsOnlyIn_map p.withTitle (Mail.Subject.decode_endsOnlyIn subject)

/-- Whatever the bytes of a mail are, assembling it ends in a publication or in a fault of its
content. -/
theorem assemble_endsOnlyIn (ids : IdSource) (time : Int) (topic : Text) (limit : Int)
    (mail : List UInt8) :
    EndsOnlyIn Fault.IsContent (assemble ids time topic limit mail).result := by
  unfold assemble
  split
  · next fault h => exact endsOnlyIn_error (Mail.Body.readMessage_endsOnlyIn mail fault h)
  · next message _ =>
    have hbody := Mail.Body.ofMessage_endsOnlyIn message
    dsimp only
    split
    · next fault h => exact endsOnlyIn_error (hbody fault h).isContent
    · exact withSubject_endsOnlyIn _ _

/-- A publication is on the topic that it was assembled for. -/
theorem assemble_topic {ids : IdSource} {time limit : Int} {topic : Text} {mail : List UInt8}
    {p : Publication} (h : (assemble ids time topic limit mail).result = .ok p) :
    p.topic = topic := by
  unfold assemble at h
  split at h
  · cases h
  · dsimp only at h
    split at h
    · cases h
    · exact withSubject_topic h

end Publication

end MailGateway
