import MailGateway.Proofs.Assembly
import MailGateway.Proofs.NamedCharsets

/-!
# Faulty mails

Whoever sends a mail chooses the names of the charsets in it and how its fields are written, and some of
these choices end in faults that the gateway does not turn into errors of its own.  The conditions below
say which mails these are, without a session or a publisher: one with a field that ends where a symbol has
to follow, one in which the part that decides about the text has a media type that cannot be read or a
text that its charset forbids, and one with a subject in which a chunk that its charset forbids comes
before every other chunk that cannot be decoded.  Which charsets forbid what is a matter of the codecs of
the platform, and the conditions hold whatever these codecs are.
-/

namespace MailGateway

variable {α β : Type}

def Fault.isUnhandled : Fault → Bool
  | .gateway _ => false
  | .field _ | .charset _ | .charsetName _ | .pattern _ | .config _ | .unsupported .. | .external _ =>
    true

/-- Whether a result is a fault that is no error of the gateway. -/
def isUnhandled : Except Fault α → Bool
  | .ok _ => false
  | .error fault => fault.isUnhandled

section isUnhandled

@[simp]
theorem isUnhandled_ok (a : α) : isUnhandled (.ok a) = false := rfl

@[simp]
theorem isUnhandled_error (fault : Fault) :
    isUnhandled (.error fault : Except Fault α) = fault.isUnhandled := rfl

/-- What is handled is a result or an error of the gateway. -/
theorem isUnhandled_eq_false {result : Except Fault α} :
    isUnhandled result = false ↔ (∃ a, result = .ok a) ∨ ∃ e, result = .error (.gateway e) := by
  cases result with
  | ok a => exact iff_of_true rfl (.inl ⟨a, rfl⟩)
  | error fault =>
    cases fault with
    | gateway e => exact iff_of_true rfl (.inr ⟨e, rfl⟩)
    | field | charset | charsetName | pattern | config | unsupported | external =>
      refine iff_of_false (by rintro ⟨⟩) ?_
      rintro (⟨_, ⟨⟩⟩ | ⟨_, ⟨⟩⟩)

/-- Two steps are unhandled if the first is, or the second after the first. -/
theorem isUnhandled_bind {result : Except Fault α} {next : α → Except Fault β} :
    isUnhandled (result >>= next) = true ↔
      isUnhandled result = true ∨ ∃ a, result = .ok a ∧ isUnhandled (next a) = true := by
  cases result with
  | ok a =>
    change isUnhandled (next a) = true ↔ _
    simp
  | error fault =>
    change fault.isUnhandled = true ↔ _
    simp

theorem isUnhandled_map (f : α → β) (result : Except Fault α) :
    isUnhandled (result.map f) = isUnhandled result := by
  cases result <;> rfl

/-- A list ends in a fault at its first member that does not succeed, if this member does. -/
theorem isUnhandled_mapM {f : α → Except Fault β} {items : List α} :
    isUnhandled (items.mapM f) = true ↔
      ∃ before a after, items = before ++ a :: after ∧ (∀ b ∈ before, (f b).isOk = true) ∧
        isUnhandled (f a) = true := by
  induction items with
  | nil =>
    refine iff_of_false (by rintro ⟨⟩) ?_
    rintro ⟨before, a, after, hitems, -⟩
    simp at hitems
  | cons first items ih =>
    rw [List.mapM_cons, isUnhandled_bind]
    constructor
    · rintro (h | ⟨b, hfirst, h⟩)
      · exact ⟨[], first, items, rfl, by simp, h⟩
      · rw [isUnhandled_bind] at h
        rcases h with h | ⟨rest, -, ⟨⟩⟩
        obtain ⟨before, a, after, rfl, hbefore, ha⟩ := ih.mp h
        refine ⟨first :: before, a, after, rfl, ?_, ha⟩
        rw [List.forall_mem_cons, hfirst]
        exact ⟨rfl, hbefore⟩
    · rintro ⟨before, a, after, hitems, hbefore, ha⟩
      cases before with
      | nil =>
        cases hitems
        exact .inl ha
      | cons b before =>
        obtain ⟨rfl, rfl⟩ := List.cons.inj hitems
        rw [List.forall_mem_cons] at hbefore
        cases hfirst : f first with
        | error fault =>
          rw [hfirst] at hbefore
          cases hbefore.1
        | ok c =>
          refine .inr ⟨c, rfl, isUnhandled_bind.mpr (.inl ?_)⟩
          exact ih.mpr ⟨before, a, after, rfl, hbefore.2, ha⟩

end isUnhandled

/-- A charset fault is unhandled if its error forbids. -/
theorem Mail.Subject.isUnhandled_charsetFault (subject : Text) (e : Charset.Error) :
    (charsetFault subject e).isUnhandled = e.isForbidding := by
  cases e <;> rfl

variable [Platform]

/-! ## The text of a mail -/

namespace Mail

/-- Whether a media type is in front of a value whose parameters cannot be read or not be shown. -/
def MediaType.IsUnreadable (shown : Text) : Prop :=
  isMediaType (Text.trim (Text.cut (· == ';') (Text.trim shown)).1) = true ∧
    ∃ fault, ContentType.readShowable (Symbol.ofText (Text.dropTail (· == ';') (Text.trim shown))) =
      .error fault

/-- A media type is unhandled if its value cannot be read. -/
theorem MediaType.isUnhandled_parse (value : Option Text) :
    isUnhandled (parse value) = true ↔ IsUnreadable (value.getD []) := by
  unfold parse IsUnreadable
  dsimp only
  split
  · next hempty =>
    rw [List.isEmpty_iff] at hempty
    rw [hempty]
    exact iff_of_false Bool.false_ne_true fun h ↦ Bool.false_ne_true h.1
  split
  · next hhead =>
    rw [Bool.not_eq_true'] at hhead
    exact iff_of_false Bool.false_ne_true fun h ↦ Bool.false_ne_true (hhead.symm.trans h.1)
  · next hhead =>
    rw [Bool.not_eq_true, Bool.not_eq_false'] at hhead
    rw [and_iff_right hhead]
    cases ContentType.readShowable _ with
    | error fault => exact iff_of_true rfl ⟨fault, rfl⟩
    | ok contentType =>
      refine iff_of_false ?_ (by rintro ⟨_, ⟨⟩⟩)
      dsimp only
      split <;> exact Bool.false_ne_true

namespace Body

/-- Whether the media type of a message cannot be read: its field cannot be shown, or what is shown
cannot be read again. -/
def HasUnreadableType (message : Message) : Prop :=
  (∃ fault, shownContentType? message.fields = .error fault) ∨
    ∃ shown, shownContentType? message.fields = .ok shown ∧ MediaType.IsUnreadable (shown.getD [])

theorem isUnhandled_mediaType (message : Message) :
    isUnhandled (mediaType message) = true ↔ HasUnreadableType message := by
  unfold mediaType HasUnreadableType
  cases shownContentType? message.fields with
  | error fault => exact iff_of_true rfl (.inl ⟨fault, rfl⟩)
  | ok shown =>
    refine (MediaType.isUnhandled_parse shown).trans ?_
    constructor
    · exact fun h ↦ .inr ⟨shown, rfl, h⟩
    · rintro (⟨_, ⟨⟩⟩ | ⟨_, ⟨⟩, h⟩)
      exact h

/-- Whether the text of a message without parts cannot be had: its transfer encoding or the name of its
charset cannot be shown, or this name forbids to decode its bytes. -/
def HasForbiddenText : Message → Prop
  | .container .. => False
  | .leaf fields body =>
    (∃ fault, transferEncoding fields = .error fault) ∨ (∃ fault, charsetName fields = .error fault) ∨
      ∃ encoding name, transferEncoding fields = .ok encoding ∧ charsetName fields = .ok name ∧
        Charset.IsForbidden name (transferDecoded encoding body)

/-- No error of a charset parameter is handled. -/
theorem isUnhandled_of_charsetName {fields : List Field} {fault : Fault}
    (h : charsetName fields = .error fault) : fault.isUnhandled = true := by
  unfold charsetName at h
  cases hshown : shownContentType? fields with
  | error wrong =>
    rw [hshown] at h
    cases h
    rfl
  | ok shown =>
    rw [hshown] at h
    cases shown with
    | none => cases h
    | some shown =>
      dsimp only [Except.mapError, bind, Except.bind] at h
      cases hname : ShownField.charset? shown with
      | error wrong =>
        rw [hname] at h
        cases h
        rfl
      | ok name =>
        rw [hname] at h
        cases h

/-- The text of a message is unhandled if its charset may not be used on it. -/
theorem isUnhandled_text (message : Message) :
    isUnhandled (text message).2 = true ↔ HasForbiddenText message := by
  cases message with
  | container fields parts => exact iff_of_false Bool.false_ne_true id
  | leaf fields body =>
    unfold text HasForbiddenText
    dsimp only
    cases transferEncoding fields with
    | error fault => exact iff_of_true rfl (.inl ⟨fault, rfl⟩)
    | ok encoding =>
      cases hname : charsetName fields with
      | error fault => exact iff_of_true (isUnhandled_of_charsetName hname) (.inr (.inl ⟨fault, rfl⟩))
      | ok name =>
        simp only [reduceCtorEq, exists_false, false_or, Except.ok.injEq, exists_and_left,
          exists_eq_left', Charset.isForbidden_iff]
        cases Charset.decodeLossy name (transferDecoded encoding body) with
        | ok text => exact iff_of_false Bool.false_ne_true (by rintro ⟨_, ⟨⟩, -⟩)
        | error e =>
          simp only [Except.error.injEq, exists_eq_left']
          cases e.isLookup with
          | false => exact iff_of_true rfl rfl
          | true => exact iff_of_false Bool.false_ne_true nofun

/-- Whether a part is passed over on the way to the first plain text part. -/
def isSkipped (part : Message) : Bool :=
  match mediaType part with
  | .ok found => found.name != "text/plain"
  | .error _ => false

/-- Whether the text of a message is looked for in its parts. -/
def isMultipart (message : Message) : Bool :=
  match mediaType message with
  | .ok found => (Text.after? "multipart/" found.name).isSome &&
      !((found.parameter? "boundary").getD []).isEmpty && message.isContainer
  | .error _ => false

/-- The message that decides about the text: the first part that is not passed over if the text is looked
for in the parts, and else the message itself. -/
def decidingPart? (message : Message) : Option Message :=
  if isMultipart message then message.parts.find? fun part ↦ !isSkipped part else some message

/-- Whether what decides about the text has an unreadable media type, or is plain text that cannot be
had. -/
def IsFaulty (part : Message) : Prop :=
  HasUnreadableType part ∨
    ∃ found, mediaType part = .ok found ∧ found.name = "text/plain" ∧ HasForbiddenText part

section IsFaulty

variable {part : Message} {found : MediaType} {fault : Fault}

/-- A part without a media type is faulty if what is wrong with it is unhandled. -/
theorem isFaulty_of_error (h : mediaType part = .error fault) :
    IsFaulty part ↔ fault.isUnhandled = true := by
  have htype := isUnhandled_mediaType part
  rw [h] at htype
  refine Iff.trans (or_iff_left ?_) htype.symm
  rintro ⟨found, hfound, -⟩
  rw [h] at hfound
  cases hfound

/-- A part with a media type is faulty if it is plain text that may not be decoded. -/
theorem isFaulty_of_ok (h : mediaType part = .ok found) :
    IsFaulty part ↔ found.name = "text/plain" ∧ HasForbiddenText part := by
  have htype := isUnhandled_mediaType part
  rw [h] at htype
  refine Iff.trans (or_iff_right fun hunreadable ↦ Bool.false_ne_true (htype.mpr hunreadable)) ?_
  rw [h]
  simp only [Except.ok.injEq, exists_eq_left']

end IsFaulty

/-- The first part that is not skipped decides about the text of a mail. -/
theorem isUnhandled_firstPlain (index : Nat) (parts : List Message) :
    isUnhandled (firstPlain index parts).2 = true ↔
      ∃ part, parts.find? (fun part ↦ !isSkipped part) = some part ∧ IsFaulty part := by
  induction parts generalizing index with
  | nil => exact iff_of_false Bool.false_ne_true (by rintro ⟨_, ⟨⟩, -⟩)
  | cons part parts ih =>
    unfold firstPlain
    cases htype : mediaType part with
    | error fault =>
      have hskipped : isSkipped part = false := by rw [isSkipped, htype]
      simp only [List.find?_cons, hskipped, Bool.not_false, Option.some.injEq, exists_eq_left']
      exact (isFaulty_of_error htype).symm
    | ok found =>
      dsimp only
      by_cases hname : found.name = "text/plain"
      · have hskipped : isSkipped part = false := by simp [isSkipped, htype, hname]
        simp only [List.find?_cons, hskipped, Bool.not_false, Option.some.injEq, exists_eq_left']
        rw [if_pos hname, isFaulty_of_ok htype, and_iff_right hname]
        exact isUnhandled_text part
      · have hskipped : isSkipped part = true := by
          rw [isSkipped, htype]
          exact bne_iff_ne.mpr hname
        simp only [List.find?_cons, hskipped, Bool.not_true]
        rw [if_neg hname]
        exact ih (index + 1)

/-- The text of a message ends in no error of the gateway exactly if what decides about it is faulty. -/
theorem isUnhandled_ofMessage (message : Message) :
    isUnhandled (ofMessage message).2 = true ↔
      ∃ part, decidingPart? message = some part ∧ IsFaulty part := by
  unfold ofMessage decidingPart?
  cases htype : mediaType message with
  | error fault =>
    have hmultipart : isMultipart message = false := by rw [isMultipart, htype]
    rw [hmultipart, if_neg Bool.false_ne_true]
    simp only [Option.some.injEq, exists_eq_left']
    exact (isFaulty_of_error htype).symm
  | ok found =>
    have hfaulty := isFaulty_of_ok htype
    dsimp only
    by_cases hname : found.name = "text/plain"
    · have hmultipart : isMultipart message = false := by
        rw [isMultipart, htype]
        dsimp only
        rw [hname]
        rfl
      rw [hmultipart, if_neg Bool.false_ne_true, if_pos hname]
      simp only [Option.some.injEq, exists_eq_left']
      rw [hfaulty, and_iff_right hname]
      exact isUnhandled_text message
    rw [if_neg hname]
    have hself : ¬∃ part, some message = some part ∧ IsFaulty part := by
      rintro ⟨_, ⟨⟩, h⟩
      exact hname (hfaulty.mp h).1
    have hmultipart : isMultipart message =
        ((Text.after? "multipart/" found.name).isSome &&
          !((found.parameter? "boundary").getD []).isEmpty && message.isContainer) := by
      rw [isMultipart, htype]
    rw [hmultipart]
    cases (Text.after? "multipart/" found.name).isSome with
    | false => exact iff_of_false Bool.false_ne_true hself
    | true =>
      cases ((found.parameter? "boundary").getD []).isEmpty with
      | true => exact iff_of_false Bool.false_ne_true hself
      | false =>
        cases message.isContainer with
        | false => exact iff_of_false Bool.false_ne_true hself
        | true => exact isUnhandled_firstPlain 0 message.parts

end Body

/-! ## The subject of a mail -/

namespace Subject

/-- Whether the bytes of a chunk are forbidden by the official name of its charset: the codec that reads
them refuses them, or the codec that their text would be written in refuses this text. -/
def RefusesBytes (name : Text) (bytes : List UInt8) : Prop :=
  name ≠ unknownBytesName ∧ (Charset.RefusesBytes (inputCodec name) bytes ∨
    ∃ symbols, Charset.decodeStrict (inputCodec name) bytes = .ok symbols ∧
      Charset.RefusesSymbols (outputCodec name) symbols)

/-- Bytes are refused if decoding them ends in an error that forbids. -/
theorem refusesBytes_iff {name : Text} {bytes : List UInt8} :
    RefusesBytes name bytes ↔ ∃ e, decodeBytes name bytes = .error e ∧ e.isForbidding = true := by
  unfold RefusesBytes decodeBytes
  by_cases hunknown : name = unknownBytesName
  · rw [if_pos hunknown]
    exact iff_of_false (fun h ↦ h.1 hunknown) (by rintro ⟨_, ⟨⟩, -⟩)
  rw [if_neg hunknown, and_iff_right hunknown, Charset.refusesBytes_iff]
  simp only [Charset.refusesSymbols_iff]
  cases Charset.decodeStrict (inputCodec name) bytes with
  | error e => simp [bind, Except.bind]
  | ok symbols =>
    simp only [reduceCtorEq, false_and, exists_false, false_or, Except.ok.injEq, exists_eq_left']
    change _ ↔ ∃ e, (Charset.checkWritable (outputCodec name) symbols >>= fun _ ↦
      pure (Symbol.display symbols)) = Except.error e ∧ e.isForbidding = true
    cases Charset.checkWritable (outputCodec name) symbols <;> simp [bind, Except.bind, pure, Except.pure]

/-- Whether the charset of a chunk forbids to decode it: its name is not ASCII, or its official name
refuses its bytes. -/
def Chunk.IsForbidden (chunk : Chunk) : Prop :=
  let name := chunk.charset.getD asciiName
  (¬∀ c ∈ name, c.toNat < 0x80) ∨ RefusesBytes (officialName name) chunk.bytes

theorem Chunk.isUnhandled_run (subject : Text) (chunk : Chunk) :
    isUnhandled (chunk.run subject) = true ↔ chunk.IsForbidden := by
  have hall : (∀ c ∈ chunk.charset.getD asciiName, c.toNat < 0x80) ↔
      (chunk.charset.getD asciiName).all (fun c ↦ c.toNat < 0x80) = true := by
    simp
  unfold Chunk.run Chunk.IsForbidden
  dsimp only
  rw [refusesBytes_iff, hall]
  split
  · next hascii =>
    rw [or_iff_right (not_not_intro hascii)]
    cases decodeBytes (officialName _) chunk.bytes with
    | ok text => exact iff_of_false Bool.false_ne_true (by rintro ⟨_, ⟨⟩, -⟩)
    | error e =>
      simp only [Except.error.injEq, exists_eq_left']
      rw [isUnhandled_error, isUnhandled_charsetFault]
  · next hascii => exact iff_of_true rfl (.inl hascii)

/-- Whether a chunk that its charset forbids comes before every other chunk of the subject that cannot be
decoded. -/
def IsFaulty (subject : Text) : Prop :=
  hasWord subject = true ∧ ∃ chunks before chunk after,
    (pieces subject).mapM Piece.chunk = .ok chunks ∧ merge chunks = before ++ chunk :: after ∧
      (∀ earlier ∈ before, (earlier.run subject).isOk = true) ∧ chunk.IsForbidden

/-- A subject is unhandled if a forbidden chunk comes before every other fault. -/
theorem isUnhandled_decode (subject : Text) :
    isUnhandled (decode subject) = true ↔ IsFaulty subject := by
  unfold decode IsFaulty
  cases hasWord subject with
  | false => exact iff_of_false Bool.false_ne_true fun h ↦ Bool.false_ne_true h.1
  | true =>
    rw [if_pos rfl, and_iff_right rfl]
    cases (pieces subject).mapM Piece.chunk with
    | error e => exact iff_of_false Bool.false_ne_true (by rintro ⟨_, _, _, _, ⟨⟩, -⟩)
    | ok chunks =>
      simp only [Except.ok.injEq, exists_and_left, exists_eq_left']
      rw [isUnhandled_bind, isUnhandled_mapM, or_iff_left]
      · simp only [Chunk.isUnhandled_run]
      · rintro ⟨runs, -, ⟨⟩⟩

end Subject

end Mail

/-! ## The publication of a mail -/

/-- Whether a mail ends in a fault that is no error of the gateway: one of its fields ends where a symbol
has to follow, what decides about its text is faulty, or it has a text and its subject is faulty. -/
inductive Mail.IsFaulty (mail : List UInt8) : Prop
  | fields {fault : Mail.FieldFault} (hread : Mail.Message.read mail = .error fault)
      (hindex : fault.isIndex = true)
  | body {message part : Mail.Message} (hread : Mail.Message.read mail = .ok message)
      (hpart : Mail.Body.decidingPart? message = some part) (hfaulty : Mail.Body.IsFaulty part)
  | subject {message : Mail.Message} {text : Text} (hread : Mail.Message.read mail = .ok message)
      (htext : (Mail.Body.ofMessage message).2 = .ok text)
      (hfaulty : Mail.Subject.IsFaulty (Publication.subject message))

namespace Mail

variable {mail : List UInt8}

/-- A mail that cannot be read is faulty if its fields end too early. -/
theorem isFaulty_of_unread {fault : FieldFault} (hread : Message.read mail = .error fault) :
    IsFaulty mail ↔ fault.isIndex = true := by
  constructor
  · rintro (⟨hother, hindex⟩ | hother | hother)
    · cases hread.symm.trans hother
      exact hindex
    · cases hread.symm.trans hother
    · cases hread.symm.trans hother
  · exact .fields hread

/-- A mail that was read is faulty if its text is, or its subject after its text. -/
theorem isFaulty_of_read {message : Message} (hread : Message.read mail = .ok message) :
    IsFaulty mail ↔ isUnhandled (Body.ofMessage message).2 = true ∨
      ∃ text, (Body.ofMessage message).2 = .ok text ∧
        Subject.IsFaulty (Publication.subject message) := by
  rw [Body.isUnhandled_ofMessage]
  constructor
  · rintro (hother | ⟨hother, hpart, hfaulty⟩ | ⟨hother, htext, hfaulty⟩)
    · cases hread.symm.trans hother
    · cases hread.symm.trans hother
      exact .inl ⟨_, hpart, hfaulty⟩
    · cases hread.symm.trans hother
      exact .inr ⟨_, htext, hfaulty⟩
  · rintro (⟨part, hpart, hfaulty⟩ | ⟨text, htext, hfaulty⟩)
    · exact .body hread hpart hfaulty
    · exact .subject hread htext hfaulty

end Mail

namespace Publication

theorem isUnhandled_withSubject (p : Publication) (subject : Text) :
    isUnhandled (p.withSubject subject) = true ↔ Mail.Subject.IsFaulty subject := by
  unfold withSubject
  cases subject with
  | nil => exact iff_of_false Bool.false_ne_true fun h ↦ Bool.false_ne_true h.1
  | cons c subject =>
    rw [List.isEmpty_cons, if_neg Bool.false_ne_true, isUnhandled_map]
    exact Mail.Subject.isUnhandled_decode (c :: subject)

/-- Assembling the publication of a mail ends in no error of the gateway exactly if the mail is faulty. -/
theorem isUnhandled_assemble (ids : IdSource) (time : Int) (topic : Text) (limit : Int)
    (mail : List UInt8) :
    isUnhandled (assemble ids time topic limit mail).result = true ↔ Mail.IsFaulty mail := by
  unfold assemble Mail.Body.readMessage
  cases hread : Mail.Message.read mail with
  | error fault =>
    rw [Mail.isFaulty_of_unread hread, mapError_error]
    dsimp only
    cases fault.isIndex with
    | false => exact iff_of_false Bool.false_ne_true Bool.false_ne_true
    | true => exact iff_of_true rfl rfl
  | ok message =>
    rw [Mail.isFaulty_of_read hread, mapError_ok]
    dsimp only
    cases (Mail.Body.ofMessage message).2 with
    | error fault => exact (or_iff_left (by rintro ⟨_, ⟨⟩, -⟩)).symm
    | ok text =>
      simp only [isUnhandled_ok, Bool.false_eq_true, false_or, Except.ok.injEq, exists_eq_left']
      exact isUnhandled_withSubject _ (subject message)

end Publication

end MailGateway
