import MailGateway.Proofs.TransferEncoding
import MailGateway.Proofs.WrittenHead

/-!
# Plain text mails

A mail that carries a text in UTF-8 gives this text back, whatever characters and line ends the text has
and however its bytes are written: as they are, in base64 that is wrapped anywhere, or in
quoted-printable with escapes and soft line breaks.
-/

namespace MailGateway.Mail

/-- The bytes of a body as they may be written. -/
inductive WrittenBody (bytes : List UInt8) where
  | plain
  | base64 (lines : List (List UInt8)) (isWrapped : lines.flatten = Transfer.Base64.encode bytes)
  | quotedPrintable (pieces : List Transfer.QuotedPrintable.Piece)
      (isCarried : pieces.flatMap Transfer.QuotedPrintable.Piece.carried = bytes)

namespace WrittenBody

variable {bytes : List UInt8} (body : WrittenBody bytes)

/-- The name of the transfer encoding, if there is one. -/
def encoding : WrittenBody bytes → Option PlainWord
  | plain => none
  | base64 .. => some ⟨"base64", by decide⟩
  | quotedPrintable .. => some ⟨"quoted-printable", by decide⟩

def written : WrittenBody bytes → List UInt8
  | plain => bytes
  | base64 lines _ => Line.crlf.intercalate lines
  | quotedPrintable pieces _ => pieces.flatMap Transfer.QuotedPrintable.Piece.written

/-- A body is decoded from how it is written, in each of the three encodings. -/
theorem transferDecoded_written :
    Body.transferDecoded (Text.lower ((body.encoding.map PlainWord.text).getD [])) body.written =
      bytes := by
  cases body with
  | plain => rfl
  | base64 lines hwrapped =>
    have hname : Text.lower "base64" = "base64".toList := by decide
    have hother : "base64".toList ≠ "quoted-printable".toList := by decide
    have hfilter : (Line.crlf.intercalate lines).filter (fun b ↦ b != 10 && b != 13) =
        Transfer.Base64.encode bytes := by
      rw [Transfer.Base64.filter_intercalate (by decide), hwrapped,
        List.filter_eq_self.mpr Transfer.Base64.not_break_of_mem_encode]
    simp only [encoding, Option.map_some, Option.getD_some, hname, Body.transferDecoded]
    rw [if_neg hother, if_pos trivial, written, hfilter, Transfer.Base64.decodeAny_encode]
  | quotedPrintable pieces hcarried =>
    have hname : Text.lower "quoted-printable" = "quoted-printable".toList := by decide
    simp only [encoding, Option.map_some, Option.getD_some, hname, Body.transferDecoded]
    rw [if_pos trivial, written, Transfer.QuotedPrintable.decode_written, hcarried]

end WrittenBody

/-- A mail that carries a text. -/
structure PlainMail where
  text : Text
  body : WrittenBody text.utf8
  before : List Field.Written
  after : List Field.Written
  isOther_before : ∀ field ∈ before, field.IsOther
  isOther_after : ∀ field ∈ after, field.IsOther

namespace PlainMail

def type : MediaType.Written where
  major := "text"
  minor := "plain"
  parameter := some ("charset", "utf-8")
  quotes := false
  isWord_major := by decide
  isWord_minor := by decide
  isWord_parameter := by
    rintro p ⟨⟩
    decide

end PlainMail

/-! ## Plain text behind fields -/

namespace Head

variable {head : Head} (htype : head.contentType = some (.type PlainMail.type))

include htype

theorem readMessage_bytesWith [Platform] (body : List UInt8) :
    Body.readMessage (head.bytesWith body) = .ok (.leaf head.fields body) := by
  have hstructural : head.structuralType false = "text/plain" := by
    have hname : Text.lower PlainMail.type.halves = "text/plain" := by decide
    rw [structuralType, htype, ← hname]
    exact PlainMail.type.structuralType_shown false
  rw [Body.readMessage, Message.read_eq_ofLines, head.ofLines_leaf false (by rw [hstructural]; decide)
    (by rw [hstructural]; decide)]
  rfl

theorem ofMessage_leaf [Platform] (body : List UInt8) :
    Body.ofMessage (.leaf head.fields body) = ([], .ok (head.plainText body)) := by
  have htypes : Body.mediaType (.leaf head.fields body) = .ok PlainMail.type.mediaType := by
    rw [head.mediaType_eq rfl, htype]
    exact PlainMail.type.parse_shown
  have hplain : PlainMail.type.mediaType.name = "text/plain" :=
    (by decide : Text.lower PlainMail.type.halves = "text/plain")
  rw [Body.ofMessage, htypes]
  simp only [hplain, if_true]
  exact head.text_eq_plainText htype (by decide)

end Head

namespace PlainMail

variable (mail : PlainMail)

def head : Head where
  contentType := some (.type type)
  encoding := mail.body.encoding
  before := mail.before
  after := mail.after
  isOther_before := mail.isOther_before
  isOther_after := mail.isOther_after

def bytes : List UInt8 :=
  mail.head.bytesWith mail.body.written

/-- The text of a plain text mail is exactly the text that was written. -/
theorem extract_bytes [Platform] : Body.extract mail.bytes = ([], .ok mail.text) := by
  have htext : mail.head.plainText mail.body.written = mail.text := by
    have hdecoded : Body.transferDecoded mail.head.encodingName mail.body.written = mail.text.utf8 :=
      mail.body.transferDecoded_written
    rw [Head.plainText, hdecoded, Charset.lossy_utf8]
  rw [Body.extract, bytes, mail.head.readMessage_bytesWith rfl]
  dsimp only
  rw [mail.head.ofMessage_leaf rfl, htext]

example : (PlainMail.mk "Disk" (.quotedPrintable [.escape 68 true, .softBreak, .literal 105 (by decide),
      .literal 115 (by decide), .literal 107 (by decide)] (by decide)) [] [] (by simp) (by simp)).bytes =
    Text.utf8 ("Content-Type: text/plain; charset=utf-8\r\n" ++
      "Content-Transfer-Encoding: quoted-printable\r\n\r\n=44=\r\nisk" : String) := by
  decide +kernel

end PlainMail

end MailGateway.Mail
