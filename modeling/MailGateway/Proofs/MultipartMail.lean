import MailGateway.Proofs.FaultyMail
import MailGateway.Proofs.WrittenHead

/-!
# Multipart mails

A multipart mail is written part by part, each behind a delimiter line, and the last delimiter closes
it.  As long as no line of a part starts like a delimiter, reading finds the parts that were written, and
the text of the mail is decided by the first part that is plain text or has no valid media type.  There
is one exception: a part of a digest that has no media type is a message itself, and if that message
cannot be read then no part counts.
-/

namespace MailGateway.Mail

open Mail.Field

/-! ## Delimiter lines -/

def delimiterLine (boundary : List UInt8) : Line :=
  45 :: 45 :: boundary ++ Line.crlf

def closeLine (boundary : List UInt8) : Line :=
  45 :: 45 :: boundary ++ 45 :: 45 :: Line.crlf

theorem delimiter_delimiterLine (boundary : List UInt8) :
    (delimiterLine boundary).delimiter boundary = .next := by
  have hafter : Text.after? (45 :: 45 :: boundary) (delimiterLine boundary) = some Line.crlf :=
    Text.after?_eq_some.mpr rfl
  rw [Line.delimiter, hafter]
  rfl

theorem delimiter_closeLine (boundary : List UInt8) :
    (closeLine boundary).delimiter boundary = .last := by
  have hafter : Text.after? (45 :: 45 :: boundary) (closeLine boundary) =
      some (45 :: 45 :: Line.crlf) :=
    Text.after?_eq_some.mpr rfl
  rw [Line.delimiter, hafter]
  rfl

theorem delimiter_eq_none {boundary : List UInt8} {line : Line}
    (h : ¬(45 :: 45 :: boundary) <+: line) : line.delimiter boundary = .none := by
  cases hafter : Text.after? (45 :: 45 :: boundary) line with
  | none => rw [Line.delimiter, hafter]
  | some rest => exact absurd ⟨rest, (Text.after?_eq_some.mp hafter).symm⟩ h

/-! ## Parts between delimiter lines -/

/-- The lines of parts, with the delimiter lines before and behind them. -/
def partLines (boundary : List UInt8) : List (List Line) → List Line
  | [] => [closeLine boundary]
  | part :: parts => delimiterLine boundary :: (part ++ partLines boundary parts)

/-- The part before the next delimiter line is read on its own. -/
theorem readLines_part [Platform] {boundary : List UInt8} {part : List Line}
    (hfree : FreeOf [.delimiter boundary] part) (parts : List (List Line)) {fuel : Nat}
    (inDigest : Bool) (hfuel : 3 * part.length + 2 ≤ fuel) :
    Message.readLines fuel inDigest [.delimiter boundary] (part ++ partLines boundary parts) =
      (Message.ofLines inDigest part).map fun message ↦ (message, partLines boundary parts) := by
  have hends : EndsIn [.delimiter boundary] (partLines boundary parts) := by
    cases parts with
    | nil =>
      rintro line ⟨⟩
      simp [Stop.holds, delimiter_closeLine]
    | cons next parts =>
      rintro line ⟨⟩
      simp [Stop.holds, delimiter_delimiterLine]
  exact Message.readLines_append hfree hends inDigest hfuel

/-- A part is not skipped: no line of it is a delimiter. -/
theorem skipDelimiters_part {boundary : List UInt8} {part : List Line} (hne : part ≠ [])
    (hfree : FreeOf [.delimiter boundary] part) (rest : List Line) :
    skipDelimiters [] boundary (part ++ rest) = part ++ rest := by
  cases part with
  | nil => exact absurd rfl hne
  | cons line part =>
    have hline : line.delimiter boundary = .none := by
      simpa [Stop.holds] using hfree line List.mem_cons_self
    simp [skipDelimiters, hline]

def readPart [Platform] (inDigest : Bool) (part : List Line) : Except FieldFault Message :=
  (Message.ofLines inDigest part).map Message.dropEnd

/-- The parts that were written are read one by one. -/
theorem readParts_partLines [Platform] {boundary : List UInt8} {part : List Line} {parts : List (List Line)}
    (hne : ∀ lines ∈ part :: parts, lines ≠ [])
    (hfree : ∀ lines ∈ part :: parts, FreeOf [.delimiter boundary] lines) (inDigest : Bool) {fuel : Nat}
    (hfuel : 3 * (part ++ partLines boundary parts).length ≤ fuel) :
    Message.readParts fuel inDigest [] boundary (part ++ partLines boundary parts) =
      ((part :: parts).mapM (readPart inDigest)).map fun messages ↦ (messages, []) := by
  induction parts generalizing part fuel with
  | nil =>
    simp only [partLines, List.length_append, List.length_singleton] at hfuel
    obtain ⟨fuel, rfl⟩ : ∃ n, fuel = n + 1 := ⟨fuel - 1, by omega⟩
    have hpart := hfree part List.mem_cons_self
    rw [Message.readParts_succ, skipDelimiters_part (hne part List.mem_cons_self) hpart,
      readLines_part hpart [] inDigest (by omega)]
    rw [List.mapM_cons, List.mapM_nil, readPart]
    cases Message.ofLines inDigest part with
    | error fault => rfl
    | ok message =>
      have hlast : (closeLine boundary).delimiter boundary = .last := delimiter_closeLine boundary
      change Message.afterPart fuel inDigest [] boundary (message, partLines boundary []) = _
      simp only [Message.afterPart, partLines, nextLine?, List.any_nil, Bool.false_eq_true, if_false,
        hlast, if_true, linesUntil]
      rfl
  | cons next parts ih =>
    simp only [partLines, List.length_append, List.length_cons] at hfuel
    obtain ⟨fuel, rfl⟩ : ∃ n, fuel = n + 1 := ⟨fuel - 1, by omega⟩
    have hpart := hfree part List.mem_cons_self
    have hnextFuel : 3 * (next ++ partLines boundary parts).length ≤ fuel := by
      rw [List.length_append]
      omega
    have ih := ih (fun lines h ↦ hne lines (List.mem_cons_of_mem _ h))
      (fun lines h ↦ hfree lines (List.mem_cons_of_mem _ h)) hnextFuel
    rw [Message.readParts_succ, skipDelimiters_part (hne part List.mem_cons_self) hpart,
      readLines_part hpart (next :: parts) inDigest (by omega)]
    rw [List.mapM_cons, readPart]
    cases Message.ofLines inDigest part with
    | error fault => rfl
    | ok message =>
      have hnext : (delimiterLine boundary).delimiter boundary ≠ .last := by
        rw [delimiter_delimiterLine]
        decide
      change Message.afterPart fuel inDigest [] boundary (message, partLines boundary (next :: parts)) = _
      simp only [Message.afterPart, partLines, nextLine?, List.any_nil, Bool.false_eq_true, if_false,
        hnext, ih]
      cases (next :: parts).mapM (readPart inDigest) <;> rfl

/-! ## Written parts -/

/-- A part of a multipart mail: what it says about its content, other fields, and a text in UTF-8. -/
structure WrittenPart where
  contentType : Option ContentType.Written
  before : List Field.Written
  after : List Field.Written
  text : Text
  isOther_before : ∀ field ∈ before, field.IsOther
  isOther_after : ∀ field ∈ after, field.IsOther
  major_ne : ∀ type, contentType = some (.type type) →
    Text.lower type.major ≠ "message" ∧ Text.lower type.major ≠ "multipart"
  parameter_eq : ∀ type, contentType = some (.type type) →
    type.parameter = none ∨ type.parameter = some ("charset".toList, "utf-8".toList)

namespace WrittenPart

variable (part : WrittenPart)

def head : Head where
  contentType := part.contentType
  encoding := none
  before := part.before
  after := part.after
  isOther_before := part.isOther_before
  isOther_after := part.isOther_after

def body : List UInt8 :=
  part.text.utf8 ++ Line.crlf

def bytes : List UInt8 :=
  part.head.bytesWith part.body

def lines : List Line :=
  Line.split part.bytes

/-- What the part says about the text of the mail, if it does not leave that to the parts after it. -/
def verdict : Option (Except Fault Text) :=
  match part.contentType with
  | none => some (.error (.gateway .noMediaType))
  | some (.word word) => some (.error (.gateway (.invalidMediaType word.text)))
  | some (.type type) =>
    if Text.lower type.halves = "text/plain" then some (.ok part.text) else none

/-- The part is a message itself, for it says nothing else in a digest. -/
def IsMessage (inDigest : Bool) : Prop :=
  inDigest = true ∧ part.contentType = none

theorem lines_ne_nil : part.lines ≠ [] := by
  rw [lines, bytes, Head.split_bytesWith]
  simp

/-- A part is read line by line, and what follows it starts a new line. -/
theorem split_bytes_append (rest : List UInt8) :
    Line.split (part.bytes ++ rest) = part.lines ++ Line.split rest := by
  rw [lines, bytes, Head.bytesWith, body, ← List.append_assoc, Line.split_append]

/-- The type by which the part is taken apart. -/
theorem structuralType_eq {inDigest : Bool} (h : ¬part.IsMessage inDigest) :
    majorType (part.head.structuralType inDigest) ≠ "message" ∧
      majorType (part.head.structuralType inDigest) ≠ "multipart" := by
  rw [Head.structuralType, head]
  cases htype : part.contentType with
  | none =>
    have hdigest : inDigest = false := by
      cases inDigest with
      | false => rfl
      | true => exact absurd ⟨rfl, htype⟩ h
    rw [hdigest]
    change majorType (structuralType false none) ≠ _ ∧ majorType (structuralType false none) ≠ _
    decide
  | some contentType =>
    cases contentType with
    | word word =>
      change majorType (structuralType inDigest (some word.text)) ≠ _ ∧
        majorType (structuralType inDigest (some word.text)) ≠ _
      rw [word.structuralType_text]
      decide
    | type type =>
      change majorType (structuralType inDigest (some type.shown)) ≠ _ ∧
        majorType (structuralType inDigest (some type.shown)) ≠ _
      rw [type.structuralType_shown, type.majorType_halves]
      exact part.major_ne type htype

/-- A part that is no message is read as the text that was written. -/
theorem readPart_leaf [Platform] {inDigest : Bool} (h : ¬part.IsMessage inDigest) :
    readPart inDigest part.lines = .ok (.leaf part.head.fields part.text.utf8) := by
  obtain ⟨hmessage, hmultipart⟩ := part.structuralType_eq h
  rw [readPart, lines, bytes, Head.ofLines_leaf _ _ hmessage hmultipart]
  change Except.ok (Message.leaf part.head.fields (Line.dropEnd part.body)) = _
  rw [body, Line.dropEnd_append]

/-- A part that is a message holds what its body is read as. -/
theorem readPart_message [Platform] {inDigest : Bool} (h : part.IsMessage inDigest) :
    readPart inDigest part.lines =
      (Message.read part.body).map fun inner ↦ .container part.head.fields [inner] := by
  obtain ⟨rfl, htype⟩ := h
  have hshown : Content.ofShown true (part.head.contentType.map ContentType.Written.shown)
      part.head.fields [] (Line.split part.body) = .ok (.inner (Line.split part.body)) := by
    rw [head, htype]
    rfl
  have hfuel : 3 * (Line.split part.body).length + 2 ≤
      3 * (part.head.lines ++ Line.crlf :: Line.split part.body).length + 3 := by
    simp only [List.length_append, List.length_cons]
    omega
  have hfree : FreeOf [] (Line.split part.body) := fun _ _ ↦ rfl
  have hends : EndsIn [] [] := nofun
  have hinner := Message.readLines_append hfree hends false hfuel
  rw [List.append_nil] at hinner
  rw [readPart, lines, bytes, Head.ofLines_eq _ hshown, Content.read, hinner, Message.read_eq_ofLines]
  cases Message.ofLines false (Line.split part.body) <;> rfl

/-- The part is a message that cannot be read. -/
def IsUnreadable [Platform] (inDigest : Bool) : Prop :=
  part.IsMessage inDigest ∧ ∃ fault, Message.read part.body = .error fault

theorem readPart_eq_error_iff [Platform] (inDigest : Bool) :
    (∃ fault, readPart inDigest part.lines = .error fault) ↔ part.IsUnreadable inDigest := by
  by_cases h : part.IsMessage inDigest
  · rw [part.readPart_message h, IsUnreadable]
    cases Message.read part.body with
    | error fault => simp [Except.map, h]
    | ok inner => simp [Except.map]
  · rw [part.readPart_leaf h, IsUnreadable]
    simp [h]

theorem charset_eq {type : MediaType.Written} (h : part.contentType = some (.type type)) :
    ∀ name ∈ type.mediaType.parameter? "charset", name = "utf-8".toList := by
  intro name hname
  rw [MediaType.parameter?, MediaType.Written.mediaType, MediaType.Written.parameters] at hname
  rcases part.parameter_eq type h with hparameter | hparameter
  · rw [hparameter] at hname
    cases hname
  · rw [hparameter] at hname
    exact (Option.some.inj hname).symm

/-- The first part decides about the text, or leaves it to the parts after it. -/
theorem firstPlain_cons [Platform] {inDigest : Bool} {message : Message}
    (h : readPart inDigest part.lines = .ok message) (index : Nat) (messages : List Message) :
    (Body.firstPlain index (message :: messages)).2 =
      part.verdict.getD (Body.firstPlain (index + 1) messages).2 := by
  have hleaf (htype : part.contentType ≠ none) :
      message = .leaf part.head.fields part.text.utf8 := by
    rw [part.readPart_leaf fun hmessage ↦ htype hmessage.2] at h
    exact (Except.ok.inj h).symm
  have hfields : message.fields = part.head.fields := by
    by_cases hmessage : part.IsMessage inDigest
    · rw [part.readPart_message hmessage] at h
      obtain ⟨inner, -, rfl⟩ := map_eq_ok.mp h
      rfl
    · rw [part.readPart_leaf hmessage] at h
      rw [← Except.ok.inj h]
      rfl
  have htype := part.head.mediaType_eq hfields
  rw [Body.firstPlain, htype, verdict]
  cases hcontent : part.contentType with
  | none =>
    have hnone : part.head.contentType.map ContentType.Written.shown = none := by
      rw [head, hcontent]
      rfl
    rw [hnone]
    rfl
  | some contentType =>
    cases contentType with
    | word word =>
      have hword : part.head.contentType.map ContentType.Written.shown = some word.text := by
        rw [head, hcontent]
        rfl
      rw [hword, word.parse_text]
      rfl
    | type type =>
      have hshown : part.head.contentType.map ContentType.Written.shown = some type.shown := by
        rw [head, hcontent]
        rfl
      rw [hshown, type.parse_shown]
      have hname : type.mediaType.name = Text.lower type.halves := rfl
      simp only [hname]
      split
      · have hne : part.contentType ≠ none := by
          rw [hcontent]
          exact Option.some_ne_none _
        have htext : Body.text (.leaf part.head.fields part.text.utf8) = ([], .ok part.text) :=
          part.head.text_leaf hcontent (part.charset_eq hcontent) rfl
        rw [hleaf hne, htext]
        rfl
      · rfl

end WrittenPart

/-! ## Written multipart mails -/

/-- A multipart mail: its subtype, its boundary, which may stand between quotes, fields of its own and
its parts, none of which has a line that starts like a delimiter. -/
structure MultipartMail where
  minor : Text
  boundary : Text
  quotes : Bool
  before : List Field.Written
  after : List Field.Written
  parts : List WrittenPart
  isWord_minor : IsWordOf MediaType.isTokenChar minor
  isWord_boundary : IsWordOf isNameChar boundary
  isOther_before : ∀ field ∈ before, field.IsOther
  isOther_after : ∀ field ∈ after, field.IsOther
  parts_ne_nil : parts ≠ []
  not_delimiter : ∀ part ∈ parts, ∀ line ∈ part.lines, ¬(45 :: 45 :: boundary.utf8) <+: line

namespace MultipartMail

variable (mail : MultipartMail)

def type : MediaType.Written where
  major := "multipart"
  minor := mail.minor
  parameter := some ("boundary", mail.boundary)
  quotes := mail.quotes
  isWord_major := by decide
  isWord_minor := mail.isWord_minor
  isWord_parameter := by
    rintro p ⟨⟩
    exact ⟨show IsWordOf isNameChar "boundary".toList by decide, mail.isWord_boundary⟩

def head : Head where
  contentType := some (.type mail.type)
  encoding := none
  before := mail.before
  after := mail.after
  isOther_before := mail.isOther_before
  isOther_after := mail.isOther_after

def body : List UInt8 :=
  (mail.parts.flatMap fun part ↦ delimiterLine mail.boundary.utf8 ++ part.bytes) ++
    closeLine mail.boundary.utf8

def bytes : List UInt8 :=
  mail.head.bytesWith mail.body

/-- The mail is a digest, whose parts are messages unless they say otherwise. -/
def isDigest : Bool :=
  Text.lower mail.type.halves = "multipart/digest"

/-- What the first part says that decides about the text. -/
def outcome : Except Fault Text :=
  (mail.parts.findSome? WrittenPart.verdict).getD (.error (.gateway .noPlainTextPart))

/-- Some part is a message that cannot be read. -/
def HasUnreadablePart [Platform] : Prop :=
  ∃ part ∈ mail.parts, part.IsUnreadable mail.isDigest

/-! ### The lines of a multipart mail -/

theorem isAscii_boundary {c : Char} (h : c ∈ mail.boundary) : c.toNat < 128 :=
  isNameChar_lt (mail.isWord_boundary.2 c h)

theorem boundaryBytes?_eq : boundaryBytes? mail.boundary = some mail.boundary.utf8 := by
  have hascii {text : Text} (h : ∀ c ∈ text, c.toNat < 128) :
      boundaryBytes? text = some (text.map fun c ↦ UInt8.ofNat c.toNat) := by
    rw [boundaryBytes?]
    induction text with
    | nil => rfl
    | cons c text ih =>
      have hc : c.toNat < 0x80 := h c List.mem_cons_self
      rw [List.mapM_cons, if_pos hc, ih fun d hd ↦ h d (List.mem_cons_of_mem _ hd)]
      rfl
  rw [hascii fun c ↦ mail.isAscii_boundary, Text.utf8_ascii fun c ↦ mail.isAscii_boundary]

theorem isUnbroken_boundary : Line.IsUnbroken (45 :: 45 :: mail.boundary.utf8) := by
  intro b hb
  rcases List.mem_cons.mp hb with rfl | hb
  · decide
  rcases List.mem_cons.mp hb with rfl | hb
  · decide
  rw [Text.utf8_ascii fun c ↦ mail.isAscii_boundary] at hb
  obtain ⟨c, hc, rfl⟩ := List.mem_map.mp hb
  apply forall_ascii isNameChar_lt _ (mail.isWord_boundary.2 c hc)
  decide

/-- The body of a mail is the lines of its parts between delimiters. -/
theorem split_body :
    Line.split mail.body = partLines mail.boundary.utf8 (mail.parts.map WrittenPart.lines) := by
  have hunbroken := mail.isUnbroken_boundary
  rw [body]
  induction mail.parts with
  | nil =>
    have hclose : closeLine mail.boundary.utf8 =
        (45 :: 45 :: mail.boundary.utf8 ++ [45, 45]) ++ Line.crlf ++ [] := by
      simp [closeLine]
    have hunbroken' : Line.IsUnbroken (45 :: 45 :: mail.boundary.utf8 ++ [45, 45]) := by
      intro b hb
      rcases List.mem_append.mp hb with hb | hb
      · exact hunbroken b hb
      · have hhyphen : ∀ b ∈ ([45, 45] : List UInt8), b ≠ 10 ∧ b ≠ 13 := by simp
        exact hhyphen b hb
    rw [List.flatMap_nil, List.nil_append, hclose, Line.split_unbroken hunbroken', List.map_nil,
      partLines, hclose]
    simp [Line.split]
  | cons part parts ih =>
    rw [List.flatMap_cons, List.append_assoc, List.append_assoc, delimiterLine,
      Line.split_unbroken hunbroken, WrittenPart.split_bytes_append, List.map_cons, partLines]
    rw [delimiterLine] at ih
    rw [ih]
    rfl

/-- No line of a part is a delimiter. -/
theorem freeOf_lines {part : WrittenPart} (h : part ∈ mail.parts) :
    FreeOf [.delimiter mail.boundary.utf8] part.lines := by
  intro line hline
  simp [Stop.holds, delimiter_eq_none (mail.not_delimiter part h line hline)]

/-! ### Reading a multipart mail -/

/-- What follows the fields are the parts, behind the first delimiter. -/
theorem ofShown_parts [Platform] {part : WrittenPart} {parts : List WrittenPart}
    (h : mail.parts = part :: parts) :
    Content.ofShown false (some mail.type.shown) mail.head.fields [] (Line.split mail.body) =
      .ok (.parts mail.isDigest mail.boundary.utf8
        (part.lines ++ partLines mail.boundary.utf8 (parts.map WrittenPart.lines))) := by
  have hmajor : majorType (Text.lower mail.type.halves) = "multipart" := by
    rw [mail.type.majorType_halves]
    change Text.lower "multipart" = "multipart"
    decide
  have hstatus : Text.lower mail.type.halves ≠ "message/delivery-status" := by
    intro heq
    rw [heq] at hmajor
    exact absurd hmajor (by decide)
  have hmessage : ¬"multipart".toList = "message".toList := by decide
  have hboundary : ShownField.boundary? mail.type.shown = .ok (some mail.boundary) := by
    rw [mail.type.boundary?_shown]
    rfl
  have hpreamble : preamble [] (some mail.boundary.utf8) (Line.split mail.body) =
      ([], .next, part.lines ++ partLines mail.boundary.utf8 (parts.map WrittenPart.lines)) := by
    rw [split_body, h, List.map_cons, partLines, preamble]
    simp [delimiter_delimiterLine]
  rw [Content.ofShown, mail.type.structuralType_shown]
  simp only [hmajor, hstatus, hmessage, if_false, if_true, Option.getD_some, hboundary]
  change Content.ofMultipart _ (some mail.boundary) mail.head.fields [] (Line.split mail.body) = _
  rw [Content.ofMultipart, mail.head.transferEncoding_fields, Content.ofBoundary,
    mail.boundaryBytes?_eq, hpreamble]
  rfl

/-- Reading a multipart mail is reading its parts one by one. -/
theorem read_bytes [Platform] : Message.read mail.bytes =
    (mail.parts.mapM fun part ↦ readPart mail.isDigest part.lines).map
      (Message.container mail.head.fields) := by
  obtain ⟨part, parts, hparts⟩ := List.exists_cons_of_ne_nil mail.parts_ne_nil
  have hcontent := mail.ofShown_parts hparts
  have hne : ∀ lines ∈ part.lines :: parts.map WrittenPart.lines, lines ≠ [] := by
    intro lines hlines
    rw [← List.map_cons] at hlines
    obtain ⟨part, -, rfl⟩ := List.mem_map.mp hlines
    exact part.lines_ne_nil
  have hfree : ∀ lines ∈ part.lines :: parts.map WrittenPart.lines,
      FreeOf [.delimiter mail.boundary.utf8] lines := by
    intro lines hlines
    rw [← List.map_cons, ← hparts] at hlines
    obtain ⟨part, hpart, rfl⟩ := List.mem_map.mp hlines
    exact mail.freeOf_lines hpart
  have hlength : (part.lines ++ partLines mail.boundary.utf8 (parts.map WrittenPart.lines)).length ≤
      (mail.head.lines ++ Line.crlf :: Line.split mail.body).length := by
    rw [split_body, hparts, List.map_cons, partLines]
    simp only [List.length_append, List.length_cons]
    omega
  have hfuel : 3 * (part.lines ++ partLines mail.boundary.utf8 (parts.map WrittenPart.lines)).length ≤
      3 * (mail.head.lines ++ Line.crlf :: Line.split mail.body).length + 3 := by
    omega
  have hread := readParts_partLines hne hfree mail.isDigest hfuel
  rw [← List.map_cons, ← hparts] at hread
  rw [Message.read_eq_ofLines, bytes, mail.head.ofLines_eq hcontent, Content.read, hread, List.mapM_map,
    Function.comp_def]
  cases mail.parts.mapM fun part ↦ readPart mail.isDigest part.lines <;> rfl

/-- Parts that are all read decide as they are written. -/
theorem firstPlain_parts [Platform] {inDigest : Bool} {parts : List WrittenPart}
    {messages : List Message}
    (h : (parts.mapM fun part ↦ readPart inDigest part.lines) = .ok messages) (index : Nat) :
    (Body.firstPlain index messages).2 =
      (parts.findSome? WrittenPart.verdict).getD (.error (.gateway .noPlainTextPart)) := by
  induction parts generalizing messages index with
  | nil =>
    rw [List.mapM_nil] at h
    rw [← Except.ok.inj h]
    rfl
  | cons part parts ih =>
    rw [List.mapM_cons] at h
    obtain ⟨message, hmessage, h⟩ := bind_eq_ok.mp h
    obtain ⟨more, hmore, h⟩ := bind_eq_ok.mp h
    rw [← Except.ok.inj h, part.firstPlain_cons hmessage, ih hmore, List.findSome?_cons]
    cases part.verdict <;> rfl

/-- Reading parts fails exactly if some part cannot be read. -/
theorem mapM_readPart_eq_error_iff [Platform] (inDigest : Bool) (parts : List WrittenPart) :
    (∃ fault, (parts.mapM fun part ↦ readPart inDigest part.lines) = .error fault) ↔
      ∃ part ∈ parts, part.IsUnreadable inDigest := by
  induction parts with
  | nil =>
    rw [List.mapM_nil]
    constructor
    · rintro ⟨fault, ⟨⟩⟩
    · rintro ⟨part, hpart, -⟩
      cases hpart
  | cons part parts ih =>
    simp only [List.mapM_cons, List.mem_cons, exists_eq_or_imp]
    rw [← part.readPart_eq_error_iff, ← ih]
    cases readPart inDigest part.lines with
    | error fault =>
      simp [bind, Except.bind]
    | ok message =>
      cases parts.mapM fun part ↦ readPart inDigest part.lines with
      | error fault => simp [bind, Except.bind]
      | ok messages => simp [bind, Except.bind, pure, Except.pure]

/-- The parts are looked at one by one when they have been read. -/
theorem ofMessage_parts [Platform] (messages : List Message) :
    Body.ofMessage (.container mail.head.fields messages) = Body.firstPlain 0 messages := by
  have htype : Body.mediaType (.container mail.head.fields messages) = .ok mail.type.mediaType :=
    (mail.head.mediaType_eq rfl).trans mail.type.parse_shown
  have hname : mail.type.mediaType.name = "multipart/".toList ++ Text.lower mail.minor := by
    have hmajor : Text.lower mail.type.major = "multipart".toList := by
      change Text.lower "multipart" = _
      decide
    change Text.lower mail.type.halves = _
    rw [mail.type.lower_halves, hmajor]
    rfl
  have hplain : mail.type.mediaType.name ≠ "text/plain" := by
    rw [hname]
    exact fun h ↦ absurd (List.cons.inj h).1 (by decide)
  have hafter : (Text.after? "multipart/" mail.type.mediaType.name).isSome = true := by
    rw [Text.after?_eq_some.mpr hname]
    rfl
  have hboundary : ((mail.type.mediaType.parameter? "boundary").getD []).isEmpty = false := by
    change mail.boundary.isEmpty = false
    simpa using mail.isWord_boundary.1
  rw [Body.ofMessage, htype]
  simp only [hplain, hafter, hboundary, if_false, if_true, Bool.false_eq_true, Message.isContainer,
    Message.parts, Bool.not_true]

/-- No part says that a message cannot be read. -/
theorem outcome_ne (fault : FieldFault) : mail.outcome ≠ .error (.field fault) ∧
    mail.outcome ≠ .error (.gateway (.unreadableMessage fault)) := by
  rw [outcome]
  cases hfound : mail.parts.findSome? WrittenPart.verdict with
  | none => exact ⟨nofun, nofun⟩
  | some verdict =>
    obtain ⟨part, -, hverdict⟩ := List.exists_of_findSome?_eq_some hfound
    rw [Option.getD_some]
    rw [WrittenPart.verdict] at hverdict
    split at hverdict
    · rw [← Option.some.inj hverdict]
      exact ⟨nofun, nofun⟩
    · rw [← Option.some.inj hverdict]
      exact ⟨nofun, nofun⟩
    split at hverdict
    · rw [← Option.some.inj hverdict]
      exact ⟨nofun, nofun⟩
    · cases hverdict

/-- The text of a multipart mail is decided by the first part that is plain text or has no valid media
type, unless some part is a message that cannot be read. -/
theorem extract_bytes_eq_outcome_iff [Platform] :
    (Body.extract mail.bytes).2 = mail.outcome ↔ ¬mail.HasUnreadablePart := by
  have herror := mapM_readPart_eq_error_iff mail.isDigest mail.parts
  rw [HasUnreadablePart, ← herror, Body.extract, Body.readMessage, read_bytes]
  cases hread : mail.parts.mapM fun part ↦ readPart mail.isDigest part.lines with
  | error fault =>
    obtain ⟨hfield, hgateway⟩ := mail.outcome_ne fault
    constructor
    · intro h
      change Except.error (if fault.isIndex then Fault.field fault
        else .gateway (.unreadableMessage fault)) = mail.outcome at h
      split at h
      · exact absurd h.symm hfield
      · exact absurd h.symm hgateway
    · intro h
      exact absurd ⟨fault, rfl⟩ h
  | ok messages =>
    have houtcome : (Body.firstPlain 0 messages).2 = mail.outcome := firstPlain_parts hread 0
    constructor
    · rintro - ⟨fault, ⟨⟩⟩
    · intro _
      change (Body.ofMessage (.container mail.head.fields messages)).2 = mail.outcome
      rw [ofMessage_parts, houtcome]

/-- A digest whose only part has no media type and a parameter name that ends in an asterisk at the end of
a field of the message inside. -/
def unreadableDigest : MultipartMail where
  minor := "digest"
  boundary := "b"
  quotes := true
  before := []
  after := []
  parts := [⟨none, [], [], "Content-Type: text/plain; x*\r\n\r\nfoo", by simp, by simp, nofun, nofun⟩]
  isWord_minor := by decide
  isWord_boundary := by decide
  isOther_before := by simp
  isOther_after := by simp
  parts_ne_nil := by simp
  not_delimiter := by decide +kernel

section Bare

attribute [local instance] Platform.bare

/-- The part without a media type should decide, but the message inside cannot be read. -/
theorem unreadableDigest_faults :
    unreadableDigest.bytes =
        Text.utf8 ("Content-Type: multipart/digest; boundary=\"b\"\r\n\r\n--b\r\n\r\n" ++
          "Content-Type: text/plain; x*\r\n\r\nfoo\r\n--b--\r\n" : String) ∧
      unreadableDigest.outcome = .error (.gateway .noMediaType) ∧
      (Body.extract unreadableDigest.bytes).2 ≠ unreadableDigest.outcome ∧
      isUnhandled (Body.extract unreadableDigest.bytes).2 = true := by
  have hfault : isUnhandled (Body.extract unreadableDigest.bytes).2 = true := by decide +kernel
  refine ⟨by decide +kernel, rfl, ?_, hfault⟩
  intro heq
  rw [heq] at hfault
  cases hfault

end Bare

end MultipartMail

end MailGateway.Mail
