import MailGateway.Proofs.MediaTypeReading
import MailGateway.Proofs.MessageReading
import MailGateway.Proofs.WrittenFields
import MailGateway.Mail.Body

/-!
# Written heads

The fields before a body as a writer puts them: a content type and a transfer encoding, where they are
given, and any other fields around them.  What these fields say is what the readers of the body find,
and a message that is neither multipart nor a message in a message has everything behind them as its
body.
-/

namespace MailGateway.Mail

open Mail.Field

/-! ## Content types -/

/-- A word of plain characters. -/
structure PlainWord where
  text : Text
  isWord : IsWordOf isPlain text

theorem PlainWord.token?_eq (word : PlainWord) :
    token? (Symbol.ofText word.text) =
      some ⟨Symbol.ofText word.text, Symbol.ofText word.text, Symbol.ofText word.text, false, []⟩ := by
  have htoken := Field.token?_eq word.isWord [] (by simp) (by simp)
  rwa [List.append_nil] at htoken

theorem isPlain_ne {c : Char} (h : isPlain c = true) :
    c ≠ ';' ∧ c ≠ '/' ∧ c.toLower ≠ '/' ∧ Text.isBlank c = false := by
  apply forall_ascii isPlain_lt _ h
  decide

theorem PlainWord.trim_text (word : PlainWord) : Text.trim word.text = word.text := by
  have hblank {c : Char} (h : c ∈ word.text) := (isPlain_ne (word.isWord.2 c h)).2.2.2
  exact Text.trimBy_of_ends (fun _ h ↦ hblank (List.mem_of_head? h))
    fun _ h ↦ hblank (List.mem_of_getLast? h)

theorem PlainWord.cut_text (word : PlainWord) :
    Text.cut (· == ';') word.text = (word.text, none) :=
  Text.cut_eq fun c h ↦ by simpa using (isPlain_ne (word.isWord.2 c h)).1

/-- A single word is no media type. -/
theorem PlainWord.parse_text [Platform] (word : PlainWord) :
    MediaType.parse (some word.text) = .error (.gateway (.invalidMediaType word.text)) := by
  have hne : word.text.isEmpty = false := by simpa using word.isWord.1
  have hslash : Text.cut (· == '/') word.text = (word.text, none) :=
    Text.cut_eq fun c h ↦ by simpa using (isPlain_ne (word.isWord.2 c h)).2.1
  have hmedia : MediaType.isMediaType word.text = false := by
    rw [MediaType.isMediaType, hslash]
  rw [MediaType.parse, Option.getD_some, word.trim_text, hne, word.cut_text, word.trim_text, hmedia]
  rfl

/-- A message whose type is a single word is read like plain text. -/
theorem PlainWord.structuralType_text (word : PlainWord) (inDigest : Bool) :
    structuralType inDigest (some word.text) = "text/plain" := by
  have hlower : '/' ∉ Text.lower word.text := by
    rw [Text.lower_ascii fun c h ↦ isPlain_lt (word.isWord.2 c h), List.mem_map]
    rintro ⟨c, hc, hslash⟩
    exact (isPlain_ne (word.isWord.2 c hc)).2.2.1 hslash
  have hcount : ¬(Text.lower word.text).count '/' = 1 := by
    rw [List.count_eq_zero.mpr hlower]
    decide
  rw [structuralType, word.cut_text, word.trim_text]
  simp only [hcount, if_false]

/-- A content type as it is written: a single word, or a media type. -/
inductive ContentType.Written where
  | word (word : PlainWord)
  | type (written : MediaType.Written)

namespace ContentType.Written

def text : ContentType.Written → Text
  | word plain => plain.text
  | type written => written.text

def shown : ContentType.Written → Text
  | word plain => plain.text
  | type written => written.shown

theorem isPrintable_of_isPlain {c : Char} (h : isPlain c = true) : isPrintable c = true ∧ c ≠ ' ' := by
  apply forall_ascii isPlain_lt _ h
  decide

theorem isFieldValue_word (word : PlainWord) : IsFieldValue word.text where
  isPrintable_of_mem c hc := (isPrintable_of_isPlain (word.isWord.2 c hc)).1
  head_ne hhead := (isPrintable_of_isPlain (word.isWord.2 _ (List.mem_of_head? hhead))).2 rfl

theorem isPrintable_writtenParameter {name value : Text} (hname : IsWordOf isNameChar name)
    (hvalue : IsWordOf isNameChar value) (quotes : Bool) :
    ∀ c ∈ writtenParameter quotes name value, isPrintable c = true := by
  have hchar {c : Char} (h : isNameChar c = true) : isPrintable c = true :=
    (isPrintable_of_isPlain (isNameChar_spec h).1).1
  have hwritten : ∀ c ∈ writtenValue quotes value, isPrintable c = true := by
    intro c hc
    cases quotes with
    | true =>
      rcases List.mem_append.mp hc with hc | hc
      · rcases List.mem_cons.mp hc with rfl | hc
        · decide
        · exact hchar (hvalue.2 c hc)
      · rw [List.mem_singleton.mp hc]
        decide
    | false => exact hchar (hvalue.2 c hc)
  intro c hc
  rcases List.mem_cons.mp hc with rfl | hc
  · decide
  rcases List.mem_append.mp hc with hc | hc
  · exact hchar (hname.2 c hc)
  rcases List.mem_cons.mp hc with rfl | hc
  · decide
  · exact hwritten c hc

theorem isFieldValue_text (written : ContentType.Written) : IsFieldValue written.text := by
  cases written with
  | word word => exact isFieldValue_word word
  | type written =>
    have htoken {c : Char} (h : MediaType.isTokenChar c = true) :=
      isPrintable_of_isPlain (isPlain_of_isTokenChar h)
    have hhalves : ∀ c ∈ written.halves, isPrintable c = true := by
      intro c hc
      rcases List.mem_append.mp hc with hc | hc
      · exact (htoken (written.isWord_major.2 c hc)).1
      rcases List.mem_cons.mp hc with rfl | hc
      · decide
      · exact (htoken (written.isWord_minor.2 c hc)).1
    constructor
    · intro c hc
      rcases List.mem_append.mp hc with hc | hc
      · exact hhalves c hc
      cases hparameter : written.parameter with
      | none => simp [hparameter] at hc
      | some parameter =>
        rw [hparameter] at hc
        rcases List.mem_cons.mp hc with rfl | hc
        · decide
        · obtain ⟨hname, hvalue⟩ := written.isWord_parameter _ hparameter
          exact isPrintable_writtenParameter hname hvalue _ c hc
    · obtain ⟨c, rest, hmajor⟩ := List.exists_cons_of_ne_nil written.isWord_major.1
      have hc := written.isWord_major.2 c (hmajor ▸ List.mem_cons_self)
      intro hhead
      simp only [text, MediaType.Written.text, MediaType.Written.textWith, MediaType.Written.halves,
        hmajor] at hhead
      exact (htoken hc).2 (Option.some.inj hhead)

/-- A written content type is read without a fault, and can be shown. -/
theorem readShowable_text [Platform] (written : ContentType.Written) :
    ∃ found, ContentType.readShowable (Symbol.ofText written.text) = .ok found ∧
      Symbol.toText found.shown = written.shown := by
  cases written with
  | word word =>
    refine ⟨⟨[], [], [], Symbol.ofText word.text, true⟩, ?_, Symbol.toText_ofText word.text⟩
    have htoken := word.token?_eq
    have hne : (Symbol.ofText word.text).isEmpty = false := by simpa using word.isWord.ofText_ne_nil
    have hread : ContentType.read (Symbol.ofText word.text) =
        .ok ⟨[], [], [], Symbol.ofText word.text, true⟩ := by
      simp [ContentType.read, hne, htoken]
    rw [ContentType.readShowable, ContentType.Written.text, hread]
    change ContentType.check _ >>= _ = _
    rw [ContentType.check_ofTexts (List.map_nil).symm rfl]
    rfl
  | type written =>
    exact ⟨_, written.readShowable_textWith written.quotes, Symbol.toText_ofText _⟩

end ContentType.Written

/-! ## Heads -/

/-- A field that says nothing about the body. -/
def Field.Written.IsOther (field : Field.Written) : Prop :=
  Text.lower field.field.name ≠ "content-type" ∧
    Text.lower field.field.name ≠ "content-transfer-encoding"

/-- What stands before a body: the content type and the transfer encoding, if they are given, among
other fields. -/
structure Head where
  contentType : Option ContentType.Written
  encoding : Option PlainWord
  before : List Field.Written
  after : List Field.Written
  isOther_before : ∀ field ∈ before, field.IsOther
  isOther_after : ∀ field ∈ after, field.IsOther

namespace Head

variable (head : Head)

def typeField (contentType : ContentType.Written) : Field.Written :=
  .ofTexts "Content-Type" contentType.text (by decide) contentType.isFieldValue_text

def encodingField (encoding : PlainWord) : Field.Written :=
  .ofTexts "Content-Transfer-Encoding" encoding.text (by decide)
    (ContentType.Written.isFieldValue_word encoding)

def contentFields : List Field.Written :=
  (head.contentType.map typeField).toList ++ (head.encoding.map encodingField).toList

def written : List Field.Written :=
  head.before ++ head.contentFields ++ head.after

def lines : List Line :=
  Field.Written.linesOf head.written

def fields : List Field :=
  head.written.map Field.Written.field

/-- The bytes of a message with these fields and the body. -/
def bytesWith (body : List UInt8) : List UInt8 :=
  head.lines.flatten ++ Line.crlf ++ body

section Lookup

variable {name : Text} {others fields : List Field}

theorem field?_append (h : ∀ field ∈ others, Text.lower field.name ≠ name) (rest : List Field) :
    field? name (others ++ rest) = field? name rest := by
  rw [field?, List.find?_append, List.find?_eq_none.mpr fun field hfield ↦ by simpa using h field hfield]
  rfl

theorem field?_eq_none (h : ∀ field ∈ others, Text.lower field.name ≠ name) :
    field? name others = none :=
  List.find?_eq_none.mpr fun field hfield ↦ by simpa using h field hfield

theorem field?_toList_append {found : Option Field} (h : ∀ field ∈ found, Text.lower field.name = name)
    (hothers : field? name others = none) : field? name (found.toList ++ others) = found := by
  cases found with
  | none => exact hothers
  | some field =>
    rw [Option.toList_some, List.singleton_append, field?, List.find?_cons_of_pos]
    simpa using h field rfl

end Lookup

/-- The field of the content type as it is read. -/
def typeRead : Option Field :=
  head.contentType.map fun contentType ↦ ⟨"Content-Type", Symbol.ofText contentType.text⟩

/-- The field of the transfer encoding as it is read. -/
def encodingRead : Option Field :=
  head.encoding.map fun encoding ↦ ⟨"Content-Transfer-Encoding", Symbol.ofText encoding.text⟩

/-- The fields are those before, the two about the body, and those after. -/
theorem fields_eq : head.fields =
    head.before.map Field.Written.field ++
      (head.typeRead.toList ++ (head.encodingRead.toList ++ head.after.map Field.Written.field)) := by
  rw [fields, written, contentFields, typeRead, encodingRead]
  cases head.contentType <;> cases head.encoding <;>
    simp [typeField, encodingField, Field.Written.ofTexts_field]

theorem lower_name_typeRead {field : Field} (h : field ∈ head.typeRead) :
    Text.lower field.name = "content-type" := by
  obtain ⟨contentType, -, rfl⟩ := Option.map_eq_some_iff.mp h
  change Text.lower "Content-Type" = "content-type"
  decide

theorem lower_name_encodingRead {field : Field} (h : field ∈ head.encodingRead) :
    Text.lower field.name = "content-transfer-encoding" := by
  obtain ⟨encoding, -, rfl⟩ := Option.map_eq_some_iff.mp h
  change Text.lower "Content-Transfer-Encoding" = "content-transfer-encoding"
  decide

theorem lower_name_other {fields : List Field.Written} (h : ∀ field ∈ fields, field.IsOther) :
    ∀ field ∈ fields.map Field.Written.field, Text.lower field.name ≠ "content-type" ∧
      Text.lower field.name ≠ "content-transfer-encoding" := by
  intro field hfield
  obtain ⟨written, hwritten, rfl⟩ := List.mem_map.mp hfield
  exact h written hwritten

theorem contentType_ne_encoding :
    ("content-type" : Text) ≠ "content-transfer-encoding" := by
  decide

/-- The field of the content type is found wherever it stands. -/
theorem field?_contentType : field? "content-type" head.fields = head.typeRead := by
  have hbefore field h := (lower_name_other head.isOther_before field h).1
  have hafter field h := (lower_name_other head.isOther_after field h).1
  have hencoding : ∀ field ∈ head.encodingRead.toList, Text.lower field.name ≠ "content-type" := by
    intro field h
    rw [head.lower_name_encodingRead (Option.mem_toList.mp h)]
    exact contentType_ne_encoding.symm
  rw [fields_eq, field?_append hbefore, field?_toList_append fun _ ↦ head.lower_name_typeRead]
  rw [field?_append hencoding, field?_eq_none hafter]

/-- The field of the transfer encoding is found wherever it stands. -/
theorem field?_encoding : field? "content-transfer-encoding" head.fields = head.encodingRead := by
  have hbefore field h := (lower_name_other head.isOther_before field h).2
  have hafter field h := (lower_name_other head.isOther_after field h).2
  have htype : ∀ field ∈ head.typeRead.toList,
      Text.lower field.name ≠ "content-transfer-encoding" := by
    intro field h
    rw [head.lower_name_typeRead (Option.mem_toList.mp h)]
    exact contentType_ne_encoding
  rw [fields_eq, field?_append hbefore, field?_append htype,
    field?_toList_append (fun _ ↦ head.lower_name_encodingRead) (field?_eq_none hafter)]

/-! ### What the fields say -/

theorem unfolded_eq (name : Text) {value : Text} (h : IsFieldValue value) :
    (Field.mk name (Symbol.ofText value)).unfolded = Symbol.ofText value := by
  rw [Field.unfolded, List.filter_eq_self]
  apply forall_ofText
  intro c hc
  have hspec := isPrintable_spec (h.isPrintable_of_mem c hc)
  simp [Symbol.is, hspec.2.2.2.2.1, hspec.2.2.2.2.2]

/-- The content type is shown as it was read, if it is there. -/
theorem shownContentType?_fields [Platform] :
    shownContentType? head.fields = .ok (head.contentType.map ContentType.Written.shown) := by
  rw [shownContentType?, field?_contentType, typeRead]
  cases head.contentType with
  | none => rfl
  | some contentType =>
    obtain ⟨found, hread, hshown⟩ := contentType.readShowable_text
    simp only [Option.map_some, unfolded_eq _ contentType.isFieldValue_text, hread, Except.map, hshown]

theorem transferEncoding_fields [Platform] :
    transferEncoding head.fields =
      .ok (Text.lower ((head.encoding.map PlainWord.text).getD [])) := by
  rw [transferEncoding, field?_encoding, encodingRead]
  cases head.encoding with
  | none => rfl
  | some encoding =>
    have hvalue := ContentType.Written.isFieldValue_word encoding
    have hshown : showTransferEncoding (Symbol.ofText encoding.text) = Symbol.ofText encoding.text := by
      simp [showTransferEncoding, encoding.token?_eq, junk]
    simp only [Option.map_some, unfolded_eq _ hvalue, hshown, checkShowable_ofText, Except.map,
      Symbol.toText_ofText, Option.getD_some]

theorem mediaType_eq [Platform] {message : Message} (h : message.fields = head.fields) :
    Body.mediaType message =
      MediaType.parse (head.contentType.map ContentType.Written.shown) := by
  rw [Body.mediaType, h, shownContentType?_fields]
  rfl

theorem charsetName_fields [Platform] {written : MediaType.Written}
    (htype : head.contentType = some (.type written))
    (hcharset : ∀ name ∈ written.mediaType.parameter? "charset", name = "utf-8".toList) :
    Body.charsetName head.fields = .ok "utf-8" := by
  rw [Body.charsetName, shownContentType?_fields, htype]
  change (ShownField.charset? written.shown).mapError Fault.charset >>= _ = _
  rw [written.charset?_shown]
  cases hname : written.mediaType.parameter? "charset" with
  | none => rfl
  | some name =>
    have hlower : Text.lower "utf-8" = "utf-8".toList := by decide
    rw [hcharset name hname, Option.map_some, hlower]
    rfl

/-- The name of the transfer encoding in lower case. -/
def encodingName : Text :=
  Text.lower ((head.encoding.map PlainWord.text).getD [])

/-- The text of a body in UTF-8, wrong bytes being replaced. -/
def plainText (body : List UInt8) : Text :=
  Charset.lossy .utf8 (Body.transferDecoded head.encodingName body)

section Text

variable {written : MediaType.Written} {body : List UInt8}
  (htype : head.contentType = some (.type written))
  (hcharset : ∀ name ∈ written.mediaType.parameter? "charset", name = "utf-8".toList)

include htype hcharset

/-- A body is read as UTF-8 if the fields name this charset or none. -/
theorem text_eq_plainText [Platform] :
    Body.text (.leaf head.fields body) = ([], .ok (head.plainText body)) := by
  have hname := head.charsetName_fields htype hcharset
  rw [Body.text]
  simp only [transferEncoding_fields, hname, Charset.decodeLossy_bytes]
  rfl

/-- The text of a body is what its bytes are in UTF-8 if the fields name this charset or none. -/
theorem text_leaf [Platform] {text : Text}
    (hdecoded : Body.transferDecoded head.encodingName body = text.utf8) :
    Body.text (.leaf head.fields body) = ([], .ok text) := by
  rw [head.text_eq_plainText htype hcharset, plainText, hdecoded, Charset.lossy_utf8]

end Text

/-! ### Reading a message with these fields -/

theorem split_bytesWith (body : List UInt8) :
    Line.split (head.bytesWith body) = head.lines ++ Line.crlf :: Line.split body := by
  rw [bytesWith, lines, List.append_assoc, Field.Written.split_linesOf]
  rfl

theorem splitFields_lines (lines : List Line) :
    splitFields [] (head.lines ++ Line.crlf :: lines) = (head.fields, lines) :=
  Field.Written.splitFields_linesOf fun _ _ ↦ rfl

/-- The media type that decides how the message is taken apart. -/
def structuralType (inDigest : Bool) : Text :=
  Mail.structuralType inDigest (head.contentType.map ContentType.Written.shown)

/-- A head is read from its lines, and the content from those after it. -/
theorem readContent_eq [Platform] (inDigest : Bool) (lines : List Line) :
    readContent inDigest [] (head.lines ++ Line.crlf :: lines) =
      (Content.ofShown inDigest (head.contentType.map ContentType.Written.shown) head.fields []
        lines).map fun content ↦ (head.fields, content) := by
  rw [readContent, splitFields_lines]
  simp only [shownContentType?_fields]
  rfl

/-- A message is read by what its fields say about its body. -/
theorem ofLines_eq [Platform] {inDigest : Bool} {body : List UInt8} {content : Content}
    (h : Content.ofShown inDigest (head.contentType.map ContentType.Written.shown) head.fields []
      (Line.split body) = .ok content) :
    Message.ofLines inDigest (Line.split (head.bytesWith body)) =
      (content.read (3 * (head.lines ++ Line.crlf :: Line.split body).length + 3) head.fields []).map
        Prod.fst := by
  rw [Message.ofLines, split_bytesWith, Message.readLines_succ, readContent_eq, h]
  rfl

theorem linesUntil_nil (lines : List Line) : linesUntil [] lines = (lines, []) := by
  induction lines with
  | nil => rfl
  | cons line lines ih => simp [linesUntil, ih]

/-- A message whose type is neither a message nor multipart is a leaf with everything behind its fields
as its body. -/
theorem ofLines_leaf [Platform] (inDigest : Bool)
    (hmessage : majorType (head.structuralType inDigest) ≠ "message")
    (hmultipart : majorType (head.structuralType inDigest) ≠ "multipart") (body : List UInt8) :
    Message.ofLines inDigest (Line.split (head.bytesWith body)) = .ok (.leaf head.fields body) := by
  have hstatus : head.structuralType inDigest ≠ "message/delivery-status" := by
    intro heq
    rw [heq] at hmessage
    exact hmessage (by decide)
  have hshown : Content.ofShown inDigest (head.contentType.map ContentType.Written.shown) head.fields
      [] (Line.split body) = .ok (.body body []) := by
    rw [structuralType] at hmessage hmultipart hstatus
    rw [Content.ofShown]
    simp only [hmessage, hmultipart, hstatus, if_false]
    rw [Content.ofBody, linesUntil_nil, Line.flatten_split]
  rw [head.ofLines_eq hshown]
  rfl

end Head

end MailGateway.Mail
