import MailGateway.Proofs.LineReaders
import MailGateway.Proofs.Topic

/-!
# The fields of a message and what follows them

A message starts with its fields, and its `Content-Type` decides what follows: a body, or lines that hold
blocks, another message or parts.  `Message.readLines_succ` takes reading apart at this point.  A
`Content-Type` takes a line, so there are fewer lines to read after it.
-/

namespace MailGateway.Mail

open scoped List

/-! ## Fields first, then what follows them -/

/-- The fields of a message, and the lines after them. -/
def splitFields (stops : List Stop) (lines : List Line) : List Field × List Line :=
  let block := fieldBlock stops lines
  let found := Field.ofBlock true none block.1
  (found.1, found.2 ++ block.2)

/-- What follows the fields of a message: a body with the lines after it, or lines that hold blocks, a
message or parts. -/
inductive Content where
  | body (bytes : List UInt8) (after : List Line)
  | blocks (lines : List Line)
  | inner (lines : List Line)
  | parts (inDigest : Bool) (boundary : List UInt8) (lines : List Line)

namespace Content

/-- What follows the fields of a multipart message with a boundary. -/
def ofBoundary (mediaType boundary : Text) (stops : List Stop) (lines : List Line) : Content :=
  let bytes := boundaryBytes? boundary
  match preamble stops bytes lines, bytes with
  | (_, .next, after), some bytes => .parts (mediaType = "multipart/digest".toList) bytes after
  | (before, _, after), _ => .body before.flatten (linesUntil stops after).2

def ofBody (stops : List Stop) (lines : List Line) : Content :=
  .body (linesUntil stops lines).1.flatten (linesUntil stops lines).2

/-- What follows the fields of a multipart message that may have a boundary.  If it has one, its
transfer encoding is looked at. -/
def ofMultipart [Platform] (mediaType : Text) (boundary : Option Text) (fields : List Field)
    (stops : List Stop) (lines : List Line) : Except FieldFault Content :=
  match boundary with
  | none => .ok (ofBody stops lines)
  | some boundary =>
    (transferEncoding fields).map fun _ ↦ ofBoundary mediaType boundary stops lines

/-- What follows fields with a `Content-Type` that is shown like this. -/
def ofShown [Platform] (inDigest : Bool) (shown : Option Text) (fields : List Field)
    (stops : List Stop) (lines : List Line) : Except FieldFault Content :=
  let mediaType := structuralType inDigest shown
  if mediaType = "message/delivery-status" then .ok (.blocks lines)
  else if majorType mediaType = "message" then .ok (.inner lines)
  else if majorType mediaType = "multipart" then
    (ShownField.boundary? (shown.getD [])).mapError .charset >>= fun boundary ↦
      ofMultipart mediaType boundary fields stops lines
  else .ok (ofBody stops lines)

def read [Platform] (fuel : Nat) (fields : List Field) (stops : List Stop) :
    Content → Except FieldFault (Message × List Line)
  | .body bytes after => .ok (.leaf fields bytes, after)
  | .blocks lines =>
    (Message.readBlocks fuel stops lines).map fun found ↦ (.container fields found.1, found.2)
  | .inner lines =>
    (Message.readLines fuel false stops lines).map fun found ↦ (.container fields [found.1], found.2)
  | .parts inDigest boundary lines =>
    (Message.readParts fuel inDigest stops boundary lines).map fun found ↦
      (.container fields found.1, found.2)

end Content

/-- What follows the fields of a message, and the fields. -/
def readContent [Platform] (inDigest : Bool) (stops : List Stop) (lines : List Line) :
    Except FieldFault (List Field × Content) := do
  let found := splitFields stops lines
  let shown ← shownContentType? found.1
  let content ← Content.ofShown inDigest shown found.1 stops found.2
  return (found.1, content)

/-- A message is its fields and its content, read one after the other. -/
theorem Message.readLines_succ [Platform] (fuel : Nat) (inDigest : Bool) (stops : List Stop)
    (lines : List Line) :
    Message.readLines (fuel + 1) inDigest stops lines =
      readContent inDigest stops lines >>= fun found ↦ found.2.read fuel found.1 stops := by
  rw [Message.readLines, readContent, splitFields]
  dsimp only
  cases shownContentType? (Field.ofBlock true none (fieldBlock stops lines).1).1 with
  | error fault => rfl
  | ok shown =>
    simp only [Content.ofShown, bind, Except.bind, pure, Except.pure]
    split
    · simp only [Content.read, Except.map]
    split
    · simp only [Content.read, Except.map]
    split
    · cases (ShownField.boundary? (shown.getD [])).mapError FieldFault.charset with
      | error fault => rfl
      | ok boundary =>
        cases boundary with
        | none => rfl
        | some boundary =>
          simp only [Content.ofMultipart, Content.ofBoundary]
          generalize boundaryBytes? boundary = bytes
          rcases preamble stops bytes _ with ⟨before, delimiter, after⟩
          cases transferEncoding (Field.ofBlock true none (fieldBlock stops lines).1).1 with
          | error fault => rfl
          | ok transfer =>
            cases delimiter with
            | none | last => rfl
            | next =>
              cases bytes with
              | none => rfl
              | some bytes => simp only [Except.map, Content.read]
    · rfl

/-- The lines after the line that ends a block, if it may be skipped. -/
def skipLine (stops : List Stop) (lines : List Line) : List Line :=
  match nextLine? stops lines with
  | some (_, rest) => rest
  | none => lines

namespace Message

variable [Platform]

def afterBlock (fuel : Nat) (stops : List Stop) (block : Message × List Line) :
    Except FieldFault (List Message × List Line) :=
  match nextLine? stops (skipLine stops block.2) with
  | none => .ok ([block.1], skipLine stops block.2)
  | some _ =>
    (readBlocks fuel stops (skipLine stops block.2)).map fun more ↦ (block.1 :: more.1, more.2)

def afterPart (fuel : Nat) (inDigest : Bool) (stops : List Stop) (boundary : List UInt8)
    (part : Message × List Line) : Except FieldFault (List Message × List Line) :=
  match nextLine? stops part.2 with
  | none => .ok ([part.1.dropEnd], part.2)
  | some (line, rest) =>
    if line.delimiter boundary = .last then .ok ([part.1.dropEnd], (linesUntil stops rest).2)
    else
      (readParts fuel inDigest stops boundary rest).map fun more ↦ (part.1.dropEnd :: more.1, more.2)

theorem readBlocks_succ (fuel : Nat) (stops : List Stop) (lines : List Line) :
    readBlocks (fuel + 1) stops lines =
      readLines fuel false (.blank :: stops) lines >>= afterBlock fuel stops := by
  rw [readBlocks]
  cases readLines fuel false (.blank :: stops) lines <;> rfl

theorem readParts_succ (fuel : Nat) (inDigest : Bool) (stops : List Stop)
    (boundary : List UInt8) (lines : List Line) :
    readParts (fuel + 1) inDigest stops boundary lines =
      readLines fuel inDigest (.delimiter boundary :: stops) (skipDelimiters stops boundary lines) >>=
        afterPart fuel inDigest stops boundary := by
  rw [readParts]
  cases readLines fuel inDigest (.delimiter boundary :: stops) _ <;> rfl

end Message

/-! ## How much is left to read -/

/-- Every field takes a line at least. -/
theorem Field.ofBlock_length (first : Bool) (current : Option (List UInt8 × List UInt8))
    (block : List Line) :
    (Field.ofBlock first current block).1.length + (Field.ofBlock first current block).2.length ≤
      current.toList.length + block.length := by
  fun_induction Field.ofBlock first current block with
  | case1 first current => cases current <;> simp
  | case2 first current line rest _ ih => cases current <;> simp_all <;> omega
  | case3 first current line rest _ done _ _ => cases current <;> simp_all [done]
  | case4 first current line rest _ done _ _ fields body hrest ih =>
    cases current <;> simp_all [done] <;> omega
  | case5 first current line rest _ done _ name value fields body hrest ih =>
    by_cases hname : name.isEmpty <;> cases current <;> simp_all [done] <;> omega

theorem Field.ofBlock_sublist (first : Bool) (current : Option (List UInt8 × List UInt8))
    (block : List Line) : (Field.ofBlock first current block).2 <+ block := by
  fun_induction Field.ofBlock first current block with
  | case1 => exact .slnil
  | case2 first current line rest _ ih => exact .cons line ih
  | case3 first current line rest => exact .cons_cons line (List.nil_sublist rest)
  | case4 first current line rest _ done _ _ fields body hrest ih =>
    rw [hrest] at ih
    exact .cons line ih
  | case5 first current line rest _ done _ name value fields body hrest ih =>
    rw [hrest] at ih
    exact .cons line ih

theorem splitFields_sublist (stops : List Stop) (lines : List Line) :
    (splitFields stops lines).2 <+ lines :=
  ((Field.ofBlock_sublist ..).append_right _).trans (fieldBlock_sublist stops lines)

theorem splitFields_length (stops : List Stop) (lines : List Line) :
    (splitFields stops lines).1.length + (splitFields stops lines).2.length ≤ lines.length := by
  have hfields := Field.ofBlock_length true none (fieldBlock stops lines).1
  have hblock := (fieldBlock_sublist stops lines).length_le
  simp only [splitFields, List.length_append, Option.toList_none, List.length_nil] at hfields hblock ⊢
  omega

namespace Content

def lines : Content → List Line
  | .body _ lines | .blocks lines | .inner lines | .parts _ _ lines => lines

def extend (rest : List Line) : Content → Content
  | .body bytes lines => .body bytes (lines ++ rest)
  | .blocks lines => .blocks (lines ++ rest)
  | .inner lines => .inner (lines ++ rest)
  | .parts inDigest boundary lines => .parts inDigest boundary (lines ++ rest)

theorem ofBoundary_sublist (mediaType boundary : Text) (stops : List Stop) (lines : List Line) :
    (ofBoundary mediaType boundary stops lines).lines <+ lines := by
  have hpreamble := preamble_sublist stops (boundaryBytes? boundary) lines
  unfold ofBoundary
  dsimp only
  split
  · next h _ =>
    rw [h] at hpreamble
    exact hpreamble
  · next h _ =>
    rw [h] at hpreamble
    exact (linesUntil_sublist ..).trans hpreamble

/-- What can follow the fields.  Without a `Content-Type` there are only bodies, and messages in a
digest. -/
theorem ofShown_cases [Platform] {inDigest : Bool} {shown : Option Text} {fields : List Field}
    {stops : List Stop} {lines : List Line} {content : Content}
    (h : ofShown inDigest shown fields stops lines = .ok content) :
    content = ofBody stops lines ∨
      (content = .inner lines ∧ (shown.isSome = true ∨ inDigest = true)) ∨
      (content = .blocks lines ∧ shown.isSome = true) ∨
      ((∃ mediaType boundary, content = ofBoundary mediaType boundary stops lines) ∧
        shown.isSome = true) := by
  cases shown with
  | none =>
    cases inDigest with
    | false =>
      cases h
      exact .inl rfl
    | true =>
      cases h
      exact .inr (.inl ⟨rfl, .inr rfl⟩)
  | some shown =>
    unfold ofShown at h
    dsimp only at h
    split at h
    · cases h
      exact .inr (.inr (.inl ⟨rfl, rfl⟩))
    split at h
    · cases h
      exact .inr (.inl ⟨rfl, .inl rfl⟩)
    split at h
    · cases hboundary : (ShownField.boundary? ((some shown).getD [])).mapError FieldFault.charset with
      | error fault =>
        rw [hboundary] at h
        cases h
      | ok boundary =>
        rw [hboundary] at h
        cases boundary with
        | none =>
          cases h
          exact .inl rfl
        | some boundary =>
          obtain ⟨_, -, rfl⟩ := map_eq_ok.mp h
          exact .inr (.inr (.inr ⟨⟨_, _, rfl⟩, rfl⟩))
    · cases h
      exact .inl rfl

theorem ofShown_sublist [Platform] {inDigest : Bool} {shown : Option Text} {fields : List Field}
    {stops : List Stop} {lines : List Line} {content : Content}
    (h : ofShown inDigest shown fields stops lines = .ok content) :
    content.lines <+ lines := by
  obtain rfl | ⟨rfl, -⟩ | ⟨rfl, -⟩ | ⟨⟨mediaType, boundary, rfl⟩, -⟩ := ofShown_cases h
  · exact linesUntil_sublist ..
  · exact .refl _
  · exact .refl _
  · exact ofBoundary_sublist ..

/-- A boundary finds the same lines before lines that end something outside. -/
theorem ofBoundary_append {mediaType boundary : Text} {inner outer : List Stop}
    {lines rest : List Line} (hfree : FreeOf outer lines) (hends : EndsIn outer rest) :
    ofBoundary mediaType boundary (inner ++ outer) (lines ++ rest) =
      (ofBoundary mediaType boundary inner lines).extend rest := by
  have hafter := hfree.sublist (preamble_sublist inner (boundaryBytes? boundary) lines)
  have huntil := linesUntil_append inner hafter hends
  unfold ofBoundary
  dsimp only
  rw [preamble_append inner _ hfree hends]
  generalize boundaryBytes? boundary = bytes at huntil
  generalize preamble inner bytes lines = found at huntil
  rcases found with ⟨before, delimiter, after⟩
  cases delimiter with
  | none | last => simp only [extend, huntil]
  | next =>
    cases bytes with
    | none => simp only [extend, huntil]
    | some bytes => rfl

theorem ofBody_append {inner outer : List Stop} {lines rest : List Line}
    (hfree : FreeOf outer lines) (hends : EndsIn outer rest) :
    ofBody (inner ++ outer) (lines ++ rest) = (ofBody inner lines).extend rest := by
  simp only [ofBody, linesUntil_append inner hfree hends, extend]

theorem ofMultipart_append [Platform] {mediaType : Text} {boundary : Option Text}
    {fields : List Field} {inner outer : List Stop} {lines rest : List Line}
    (hfree : FreeOf outer lines) (hends : EndsIn outer rest) :
    ofMultipart mediaType boundary fields (inner ++ outer) (lines ++ rest) =
      (ofMultipart mediaType boundary fields inner lines).map (extend rest) := by
  cases boundary with
  | none => exact congrArg Except.ok (ofBody_append hfree hends)
  | some boundary =>
    simp only [ofMultipart, ofBoundary_append hfree hends]
    cases transferEncoding fields <;> rfl

/-- A content is chosen the same before lines that end something outside. -/
theorem ofShown_append [Platform] {inDigest : Bool} {shown : Option Text} {fields : List Field}
    {inner outer : List Stop} {lines rest : List Line} (hfree : FreeOf outer lines)
    (hends : EndsIn outer rest) :
    ofShown inDigest shown fields (inner ++ outer) (lines ++ rest) =
      (ofShown inDigest shown fields inner lines).map (extend rest) := by
  unfold ofShown
  dsimp only
  rw [ofBody_append hfree hends]
  split
  · rfl
  split
  · rfl
  split
  · cases (ShownField.boundary? (shown.getD [])).mapError FieldFault.charset with
    | error fault => rfl
    | ok boundary => exact ofMultipart_append hfree hends
  · rfl

/-- How much fuel reading the content takes at most. -/
def need : Content → Nat
  | .body _ _ => 0
  | .blocks lines => 3 * lines.length + 2
  | .inner lines => 3 * lines.length + 1
  | .parts _ _ lines => 3 * lines.length + 3

end Content

/-- How much fuel reading a message takes at most. -/
def linesNeed (inDigest : Bool) (lines : List Line) : Nat :=
  3 * lines.length + (if inDigest then 2 else 1)

/-- How much fuel lines need is bounded by their number. -/
theorem linesNeed_le (inDigest : Bool) (lines : List Line) :
    1 ≤ linesNeed inDigest lines ∧ linesNeed inDigest lines ≤ 3 * lines.length + 2 := by
  unfold linesNeed
  split <;> omega

theorem linesNeed_false (lines : List Line) : linesNeed false lines = 3 * lines.length + 1 := rfl

/-- Parts need no more fuel than the lines they are read from. -/
theorem ofBoundary_need (mediaType boundary : Text) (stops : List Stop) (lines : List Line) :
    (Content.ofBoundary mediaType boundary stops lines).need ≤ 3 * lines.length + 3 := by
  have hlines := (Content.ofBoundary_sublist mediaType boundary stops lines).length_le
  revert hlines
  unfold Content.ofBoundary
  dsimp only
  split
  · simp only [Content.lines, Content.need]
    omega
  · simp only [Content.need]
    omega

/-- What is read of a message: its fields, and the content that its shown type asks for. -/
theorem readContent_eq_ok [Platform] {inDigest : Bool} {stops : List Stop} {lines : List Line}
    {found : List Field × Content} (h : readContent inDigest stops lines = .ok found) :
    found.1 = (splitFields stops lines).1 ∧ ∃ shown, shownContentType? found.1 = .ok shown ∧
      Content.ofShown inDigest shown found.1 stops (splitFields stops lines).2 = .ok found.2 := by
  obtain ⟨shown, hshown, h⟩ := bind_eq_ok.mp h
  obtain ⟨content, hcontent, h⟩ := bind_eq_ok.mp h
  cases h
  exact ⟨rfl, shown, hshown, hcontent⟩

theorem readContent_sublist [Platform] {inDigest : Bool} {stops : List Stop} {lines : List Line}
    {found : List Field × Content} (h : readContent inDigest stops lines = .ok found) :
    found.2.lines <+ lines := by
  obtain ⟨-, shown, -, hcontent⟩ := readContent_eq_ok h
  exact (Content.ofShown_sublist hcontent).trans (splitFields_sublist stops lines)

/-- The content of a message needs less fuel than its lines. -/
theorem readContent_need [Platform] {inDigest : Bool} {stops : List Stop} {lines : List Line}
    {found : List Field × Content} (h : readContent inDigest stops lines = .ok found) :
    found.2.need < linesNeed inDigest lines := by
  obtain ⟨hfields, shown, hshown, hcontent⟩ := readContent_eq_ok h
  have hlength := splitFields_length stops lines
  -- A `Content-Type` takes at least one line.
  have hsome : shown.isSome = true → (splitFields stops lines).2.length < lines.length := by
    intro hsome
    have : found.1 ≠ [] := by
      rintro hnil
      rw [hnil] at hshown
      cases hshown
      cases hsome
    have := List.length_pos_iff.mpr this
    rw [hfields] at this
    omega
  obtain h | ⟨h, hor⟩ | ⟨h, hor⟩ | ⟨⟨mediaType, boundary, h⟩, hor⟩ := Content.ofShown_cases hcontent
  · rw [h]
    simp only [Content.ofBody, Content.need, linesNeed]
    split <;> omega
  · rw [h]
    rcases hor with hor | rfl
    · have := hsome hor
      simp only [Content.need, linesNeed]
      split <;> omega
    · simp only [Content.need, linesNeed, if_true]
      omega
  · rw [h]
    have := hsome hor
    simp only [Content.need, linesNeed]
    split <;> omega
  · rw [h]
    have := hsome hor
    have := ofBoundary_need mediaType boundary stops (splitFields stops lines).2
    simp only [linesNeed]
    split <;> omega

theorem Content.ofBoundary_endsIn {mediaType boundary : Text} {stops : List Stop} {lines : List Line}
    {bytes : List UInt8} {after : List Line}
    (h : ofBoundary mediaType boundary stops lines = .body bytes after) : EndsIn stops after := by
  unfold ofBoundary at h
  dsimp only at h
  split at h
  · cases h
  · cases h
    exact linesUntil_endsIn stops _

/-- A body goes up to a stop. -/
theorem readContent_endsIn [Platform] {inDigest : Bool} {stops : List Stop} {lines : List Line}
    {fields : List Field} {bytes : List UInt8} {after : List Line}
    (h : readContent inDigest stops lines = .ok (fields, .body bytes after)) : EndsIn stops after := by
  obtain ⟨-, shown, -, hcontent⟩ := readContent_eq_ok h
  obtain h | ⟨h, -⟩ | ⟨h, -⟩ | ⟨⟨mediaType, boundary, h⟩, -⟩ := Content.ofShown_cases hcontent
  · cases h
    exact linesUntil_endsIn stops _
  · cases h
  · cases h
  · exact Content.ofBoundary_endsIn h.symm

theorem splitFields_append {inner outer : List Stop} {lines rest : List Line}
    (hfree : FreeOf outer lines) (hends : EndsIn outer rest) :
    splitFields (inner ++ outer) (lines ++ rest) =
      ((splitFields inner lines).1, (splitFields inner lines).2 ++ rest) := by
  simp only [splitFields, fieldBlock_append inner hfree hends, List.append_assoc]

/-- A message is read the same before lines that end something outside. -/
theorem readContent_append [Platform] {inDigest : Bool} {inner outer : List Stop} {lines rest : List Line}
    (hfree : FreeOf outer lines) (hends : EndsIn outer rest) :
    readContent inDigest (inner ++ outer) (lines ++ rest) =
      (readContent inDigest inner lines).map fun found ↦ (found.1, found.2.extend rest) := by
  have hfree' := hfree.sublist (splitFields_sublist inner lines)
  unfold readContent
  rw [splitFields_append hfree hends]
  dsimp only
  cases shownContentType? (splitFields inner lines).1 with
  | error fault => rfl
  | ok shown =>
    simp only [bind, Except.bind, Content.ofShown_append hfree' hends]
    cases Content.ofShown inDigest shown _ inner (splitFields inner lines).2 <;> rfl

end MailGateway.Mail
