import MailGateway.Mail.MediaType
import MailGateway.Transfer.Uuencode

/-!
# The body of a message

The text that the gateway forwards: the body of a plain text message, or of the first plain text part
of a multipart message.  Only direct parts count, and every part up to that one needs a valid media
type.
-/

namespace MailGateway.Mail

/-- What is worth a log line while a body is looked for. -/
inductive Notice where
  | skippedPart (index : Nat) (mediaType : Text)
  | unknownCharset (name : Text)
deriving DecidableEq, Repr

namespace Body

/-- The bytes of a body without its transfer encoding.  Unknown encodings, and bodies that are not
what their encoding says, are taken as they are. -/
def transferDecoded (encoding : Text) (body : List UInt8) : List UInt8 :=
  if encoding = "quoted-printable" then Transfer.QuotedPrintable.decode body
  else if encoding = "base64" then
    Transfer.Base64.decodeAny (body.filter fun b ↦ b != 10 && b != 13)
  else if encoding = "x-uuencode" ∨ encoding = "uuencode" ∨ encoding = "uue" ∨
      encoding = "x-uue" then
    (Transfer.Uuencode.decode? body).getD body
  else body

variable [Platform]

/-- The name of the charset of fields, UTF-8 if they name none. -/
def charsetName (fields : List Field) : Except Fault Text := do
  let shown ← (shownContentType? fields).mapError Fault.field
  match shown with
  | none => return "utf-8"
  | some shown =>
    let name ← (ShownField.charset? shown).mapError Fault.charset
    return match name with
      | none | some [] => "utf-8"
      | some name => name

/-- The text of a message without parts.  An unknown charset is read as UTF-8. -/
def text : Message → List Notice × Except Fault Text
  | .container .. => ([], .error (.gateway .unreadableBody))
  | .leaf fields body =>
    match transferEncoding fields, charsetName fields with
    | .error fault, _ => ([], .error (.field fault))
    | .ok _, .error fault => ([], .error fault)
    | .ok encoding, .ok name =>
      let bytes := transferDecoded encoding body
      match Charset.decodeLossy name bytes with
      | .ok text => ([], .ok text)
      | .error e =>
        if e.isLookup then ([.unknownCharset name], .ok (Charset.lossy .utf8 bytes))
        else ([], .error (.charset e))

def mediaType (message : Message) : Except Fault MediaType := do
  let shown ← (shownContentType? message.fields).mapError Fault.field
  MediaType.parse shown

/-- The text of the first plain text part, the parts being counted from `index` on. -/
def firstPlain (index : Nat) : List Message → List Notice × Except Fault Text
  | [] => ([], .error (.gateway .noPlainTextPart))
  | part :: parts =>
    match mediaType part with
    | .error fault => ([], .error fault)
    | .ok mediaType =>
      if mediaType.name = "text/plain" then text part
      else
        let (notices, result) := firstPlain (index + 1) parts
        (.skippedPart index mediaType.name :: notices, result)

def ofMessage (message : Message) : List Notice × Except Fault Text :=
  match mediaType message with
  | .error fault => ([], .error fault)
  | .ok found =>
    if found.name = "text/plain" then text message
    else if (Text.after? "multipart/" found.name).isSome then
      if ((found.parameter? "boundary").getD []).isEmpty then
        ([], .error (.gateway .emptyBoundary))
      else if !message.isContainer then ([], .error (.gateway .missingParts))
      else firstPlain 0 message.parts
    else ([], .error (.gateway .unsupportedContentType))

/-- Read a message.  A value that cannot be read makes the message invalid, a missing symbol is a
fault of its own. -/
def readMessage (bytes : List UInt8) : Except Fault Message :=
  (Message.read bytes).mapError fun fault ↦
    if fault.isIndex then .field fault else .gateway (.unreadableMessage fault)

def extract (bytes : List UInt8) : List Notice × Except Fault Text :=
  match readMessage bytes with
  | .ok message => ofMessage message
  | .error fault => ([], .error fault)

end Body

end MailGateway.Mail
