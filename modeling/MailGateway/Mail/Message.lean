import MailGateway.Mail.ShownField

/-!
# Messages

A message is a list of fields and a body, or a list of fields and parts that are messages in turn.
Which of the two it is depends on its `Content-Type` as it is shown.  Reading takes line by line:
the lines of a part end where a delimiter of the message or of one around it begins, and the line end
before a delimiter belongs to the delimiter.
-/

namespace MailGateway.Mail

abbrev Line := List UInt8

/-- The lines of a message.  A line ends with carriage return and line feed or with one of them. -/
def Line.split : List UInt8 → List Line
  | [] => []
  | 13 :: 10 :: rest => [13, 10] :: Line.split rest
  | b :: rest =>
    if b = 10 ∨ b = 13 then [b] :: Line.split rest
    else match Line.split rest with
      | [] => [[b]]
      | line :: lines => (b :: line) :: lines

def Line.isEmpty (line : Line) : Bool :=
  match line with
  | b :: _ => b == 10 || b == 13
  | [] => false

def Line.dropEnd (bytes : List UInt8) : List UInt8 :=
  match bytes.reverse with
  | 10 :: 13 :: rest => rest.reverse
  | 10 :: rest => rest.reverse
  | 13 :: rest => rest.reverse
  | _ => bytes

/-- Whether the byte may stand in the name of a field. -/
def isFieldNameByte (b : UInt8) : Bool :=
  33 ≤ b && b ≤ 126 && b != 58

/-- Whether a line starts like the separator line of a mailbox file. -/
def Line.isEnvelope (line : Line) : Bool :=
  (Text.after? [70, 114, 111, 109, 32] line).isSome

def Line.isContinuation (line : Line) : Bool :=
  match line with
  | b :: _ => b == 32 || b == 9
  | [] => false

/-- Whether a line belongs to the fields of a message. -/
def Line.isField (line : Line) : Bool :=
  line.isEnvelope || line.isContinuation || (line.dropWhile isFieldNameByte).head? == some 58

/-- A field: its name, and its value with the line breaks inside. -/
structure Field where
  name : Text
  value : List Symbol
deriving DecidableEq, Repr

def Field.unfolded (field : Field) : List Symbol :=
  field.value.filter fun s ↦ !s.is fun c ↦ c == '\n' || c == '\r'

/-- A field under construction: its name and its lines so far. -/
def Field.ofLines (name : List UInt8) (value : List UInt8) : Field where
  name := name.map fun b ↦ Char.ofNat b.toNat
  value := ((Text.dropTail (fun b ↦ b == 10 || b == 13)
    (value.dropWhile fun b ↦ b == 32 || b == 9)).map Symbol.ofByte)

/-- The fields of a block of lines, and the line that starts the body if the block ends like a
mailbox file does.  `first` says that no line has been read, `current` is the field being read. -/
def Field.ofBlock (first : Bool) (current : Option (List UInt8 × List UInt8)) :
    List Line → List Field × List Line
  | [] => ((current.map fun (name, value) ↦ Field.ofLines name value).toList, [])
  | line :: rest =>
    if line.isContinuation then
      Field.ofBlock false (current.map fun (name, value) ↦ (name, value ++ line)) rest
    else
      let done := (current.map fun (name, value) ↦ Field.ofLines name value).toList
      if line.isEnvelope then
        if !first && rest.isEmpty then (done, [line])
        else
          let (fields, body) := Field.ofBlock false none rest
          (done ++ fields, body)
      else
        let name := line.takeWhile (· != 58)
        let value := (line.dropWhile (· != 58)).drop 1
        let (fields, body) :=
          Field.ofBlock false (if name.isEmpty then none else some (name, value)) rest
        (done ++ fields, body)

/-- A message: a leaf has a body, a container has parts. -/
inductive Message where
  | leaf (fields : List Field) (body : List UInt8)
  | container (fields : List Field) (parts : List Message)
deriving Repr, Inhabited

namespace Message

def fields : Message → List Field
  | .leaf fields _ | .container fields _ => fields

def isContainer : Message → Bool
  | .leaf .. => false
  | .container .. => true

def parts : Message → List Message
  | .leaf .. => []
  | .container _ parts => parts

end Message

/-- The first field of a name, given in lower case. -/
def field? (name : Text) (fields : List Field) : Option Field :=
  fields.find? fun field ↦ Text.lower field.name == name

variable [Platform]

/-- The `Content-Type` of fields as it is shown, if there is one. -/
def shownContentType? (fields : List Field) : Except FieldFault (Option Text) :=
  match field? "content-type" fields with
  | none => .ok none
  | some field =>
    (ContentType.readShowable field.unfolded).map fun contentType ↦ some (Symbol.toText contentType.shown)

/-- The `Content-Transfer-Encoding` of fields as it is shown, in lower case. -/
def transferEncoding (fields : List Field) : Except FieldFault Text :=
  match field? "content-transfer-encoding" fields with
  | none => .ok []
  | some field =>
    let shown := showTransferEncoding field.unfolded
    (checkShowable 0 shown).map fun () ↦ Text.lower (Symbol.toText shown)

/-- The media type that decides how a message is taken apart.  `inDigest` says that it is a part of
a digest, whose parts are messages unless they say otherwise. -/
def structuralType (inDigest : Bool) (shown : Option Text) : Text :=
  match shown with
  | none => if inDigest then "message/rfc822" else "text/plain"
  | some text =>
    let mediaType := Text.lower (Text.trim (Text.cut (· == ';') text).1)
    if mediaType.count '/' = 1 then mediaType else "text/plain"

def majorType (mediaType : Text) : Text :=
  (Text.cut (· == '/') mediaType).1

/-- A kind of line that ends what is being read. -/
inductive Stop where
  | blank
  | delimiter (boundary : List UInt8)
deriving DecidableEq, Repr

/-- What a line is with respect to a boundary. -/
inductive Delimiter where
  | none
  | next
  | last
deriving DecidableEq, Repr

/-- Whether only spaces, tabs and a line end follow. -/
def isDelimiterTail (rest : List UInt8) : Bool :=
  match rest.dropWhile fun b ↦ b == 32 || b == 9 with
  | [] | [10] | [13] | [13, 10] => true
  | _ => false

def Line.delimiter (boundary : List UInt8) (line : Line) : Delimiter :=
  match Text.after? (45 :: 45 :: boundary) line with
  | Option.none => .none
  | some rest =>
    match rest with
    | 45 :: 45 :: tail =>
      if isDelimiterTail tail then .last else .none
    | rest => if isDelimiterTail rest then .next else .none

def Stop.holds (line : Line) : Stop → Bool
  | .blank => line.isEmpty
  | .delimiter boundary => line.delimiter boundary != .none

/-- The lines up to one that ends what is being read, and the lines from there on. -/
def linesUntil (stops : List Stop) : List Line → List Line × List Line
  | [] => ([], [])
  | line :: rest =>
    if stops.any (Stop.holds line) then ([], line :: rest)
    else
      let (lines, after) := linesUntil stops rest
      (line :: lines, after)

/-- The block of fields at the start and the lines after it.  An empty line after the block is
dropped. -/
def fieldBlock (stops : List Stop) : List Line → List Line × List Line
  | [] => ([], [])
  | line :: rest =>
    if stops.any (Stop.holds line) then ([], line :: rest)
    else if line.isField then
      let (lines, after) := fieldBlock stops rest
      (line :: lines, after)
    else ([], if line.isEmpty then rest else line :: rest)

def skipDelimiters (stops : List Stop) (boundary : List UInt8) : List Line → List Line
  | [] => []
  | line :: rest =>
    if !stops.any (Stop.holds line) && line.delimiter boundary != .none then
      skipDelimiters stops boundary rest
    else line :: rest

/-- The next line, unless it ends what is being read. -/
def nextLine? (stops : List Stop) : List Line → Option (Line × List Line)
  | [] => none
  | line :: rest => if stops.any (Stop.holds line) then none else some (line, rest)

/-- The boundary as bytes.  A boundary with other characters than ASCII ends no part. -/
def boundaryBytes? (boundary : Text) : Option (List UInt8) :=
  boundary.mapM fun c ↦ if c.toNat < 0x80 then some (UInt8.ofNat c.toNat) else none

/-- The lines before the first delimiter, what that delimiter is, and the lines after it. -/
def preamble (stops : List Stop) (boundary : Option (List UInt8)) :
    List Line → List Line × Delimiter × List Line
  | [] => ([], .none, [])
  | line :: rest =>
    if stops.any (Stop.holds line) then ([], .none, line :: rest)
    else match boundary.map line.delimiter with
      | some .next => ([], .next, rest)
      | some .last => ([], .last, rest)
      | _ =>
        let (lines, delimiter, after) := preamble stops boundary rest
        (line :: lines, delimiter, after)

/-- A part without the line end that belongs to the delimiter after it. -/
def Message.dropEnd : Message → Message
  | .leaf fields body => .leaf fields (Line.dropEnd body)
  | message => message

mutual

def Message.readLines : Nat → Bool → List Stop → List Line →
    Except FieldFault (Message × List Line)
  | 0, _, _, lines => .ok (.leaf [] [], lines)
  | fuel + 1, inDigest, stops, lines => do
    let (block, after) := fieldBlock stops lines
    let (fields, pushed) := Field.ofBlock true none block
    let lines := pushed ++ after
    let shown ← shownContentType? fields
    let mediaType := structuralType inDigest shown
    let leaf : Message × List Line :=
      let (body, after) := linesUntil stops lines
      (.leaf fields body.flatten, after)
    if mediaType = "message/delivery-status" then
      let (parts, after) ← Message.readBlocks fuel stops lines
      return (.container fields parts, after)
    else if majorType mediaType = "message" then
      let (inner, after) ← Message.readLines fuel false stops lines
      return (.container fields [inner], after)
    else if majorType mediaType = "multipart" then
      match ← ((ShownField.boundary? (shown.getD [])).mapError FieldFault.charset) with
      | none => return leaf
      | some boundary =>
        -- The parts are not decoded, but a transfer encoding that cannot be shown is noticed here.
        let _ ← transferEncoding fields
        let bytes := boundaryBytes? boundary
        match preamble stops bytes lines, bytes with
        | (_, .next, after), some bytes =>
          let digest := mediaType = "multipart/digest"
          let (parts, after) ← Message.readParts fuel digest stops bytes after
          return (.container fields parts, after)
        | (before, _, after), _ =>
          return (.leaf fields before.flatten, (linesUntil stops after).2)
    else return leaf

/-- Read the blocks of a delivery status, which blank lines separate. -/
def Message.readBlocks : Nat → List Stop → List Line →
    Except FieldFault (List Message × List Line)
  | 0, _, lines => .ok ([], lines)
  | fuel + 1, stops, lines => do
    let (block, after) ← Message.readLines fuel false (.blank :: stops) lines
    let after := match nextLine? stops after with
      | some (_, rest) => rest
      | none => after
    match nextLine? stops after with
    | none => return ([block], after)
    | some _ =>
      let (blocks, after) ← Message.readBlocks fuel stops after
      return (block :: blocks, after)

def Message.readParts : Nat → Bool → List Stop → List UInt8 → List Line →
    Except FieldFault (List Message × List Line)
  | 0, _, _, _, lines => .ok ([], lines)
  | fuel + 1, inDigest, stops, boundary, lines => do
    let start := skipDelimiters stops boundary lines
    let (part, after) ← Message.readLines fuel inDigest (.delimiter boundary :: stops) start
    match nextLine? stops after with
    | none => return ([part.dropEnd], after)
    | some (line, rest) =>
      if line.delimiter boundary = .last then
        return ([part.dropEnd], (linesUntil stops rest).2)
      else
        let (parts, after) ← Message.readParts fuel inDigest stops boundary rest
        return (part.dropEnd :: parts, after)

end

def Message.read (bytes : List UInt8) : Except FieldFault Message :=
  let lines := Line.split bytes
  (Message.readLines (3 * lines.length + 4) false [] lines).map Prod.fst

end MailGateway.Mail
