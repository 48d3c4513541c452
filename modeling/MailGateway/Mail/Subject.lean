import MailGateway.Error
import MailGateway.Mail.Message

/-!
# Subjects

A subject is plain text with encoded words in it, such as `=?utf-8?q?caf=C3=A9?=`.  It is taken apart
into pieces, neighbouring pieces of one charset become one chunk of bytes, and the decoded chunks are
joined with spaces where a word meets plain text.  Plain text beside encoded words has to be ASCII,
and characters outside Latin-1 are shown as escapes there.
-/

namespace MailGateway.Mail

/-- How the content of an encoded word is written. -/
inductive WordEncoding where
  | quoted
  | base64
deriving DecidableEq, Repr

def WordEncoding.ofLetter? (c : Char) : Option WordEncoding :=
  if c = 'q' ∨ c = 'Q' then some .quoted
  else if c = 'b' ∨ c = 'B' then some .base64
  else none

namespace Subject

/-- An encoded word: the name of its charset in lower case, its encoding, and its content. -/
structure Word where
  charset : Text
  encoding : WordEncoding
  content : Text
deriving DecidableEq, Repr

inductive Piece where
  | plain (text : Text)
  | word (word : Word)
deriving DecidableEq, Repr

namespace Piece

def isWord : Piece → Bool
  | .plain _ => false
  | .word _ => true

def written : Piece → Text
  | .plain t => t
  | .word w => w.content

/-- Whether the piece is written with nothing but blank characters. -/
def isBlank (piece : Piece) : Bool :=
  !piece.written.isEmpty && piece.written.all Text.isBlank

end Piece

/-- The encoded word at the start of a text, and the text after it. -/
def takeWord? (text : Text) : Option (Word × Text) :=
  match Text.after? ['=', '?'] text with
  | none => none
  | some text =>
    match Text.cut (· == '?') text with
    | (charset, some (letter :: '?' :: text)) =>
      match WordEncoding.ofLetter? letter, Text.cutAt? ['?', '='] text with
      | some encoding, some (content, rest) =>
        if content.contains '\n' then none else some (⟨Text.lower charset, encoding, content⟩, rest)
      | _, _ => none
    | _ => none

theorem length_of_takeWord? {text rest : Text} {word : Word}
    (h : takeWord? text = some (word, rest)) : rest.length < text.length := by
  unfold takeWord? at h
  split at h
  · simp at h
  next inner start =>
    have := Text.length_of_after? start
    split at h
    next charset letter content name =>
      have := Text.length_cut_lt name
      split at h
      next encoding finish =>
        have := Text.length_of_cutAt? finish
        split at h
        · simp at h
        · simp only [Option.some.injEq, Prod.mk.injEq] at h
          obtain ⟨-, rfl⟩ := h
          simp only [List.length_cons] at *
          omega
      · simp at h
    · simp at h

/-- The plain text before the first encoded word of a line, and every encoded word of the line with
the plain text that follows it. -/
def split : Text → Text × List (Word × Text)
  | [] => ([], [])
  | c :: text =>
    match _taken : takeWord? (c :: text) with
    | some (word, rest) =>
      let (plain, more) := split rest
      ([], (word, plain) :: more)
    | none =>
      let (plain, more) := split text
      (c :: plain, more)
termination_by text => text.length
decreasing_by
  · exact length_of_takeWord? _taken
  · simp

def hasWord : Text → Bool
  | [] => false
  | c :: text => (takeWord? (c :: text)).isSome || hasWord text

def plainPieces (text : Text) : List Piece :=
  if text.isEmpty then [] else [.plain text]

/-- The pieces of a line.  Blank characters at its start do not count. -/
def linePieces (line : Text) : List Piece :=
  let (plain, words) := split line
  plainPieces (Text.trimLeft plain) ++
    words.flatMap fun (word, plain) ↦ .word word :: plainPieces plain

/-- Drop blank pieces between two encoded words.  `afterWord` says that an encoded word precedes. -/
def dropBlank (afterWord : Bool) : List Piece → List Piece
  | piece :: next :: rest =>
    let tail := dropBlank piece.isWord (next :: rest)
    if afterWord && piece.isBlank && next.isWord then tail else piece :: tail
  | pieces => pieces

def pieces (subject : Text) : List Piece :=
  dropBlank false ((Text.lines subject).flatMap linePieces)

/-- Bytes and the charset that they are in.  Plain text has none. -/
structure Chunk where
  charset : Option Text
  bytes : List UInt8
deriving DecidableEq, Repr

def Piece.chunk : Piece → Except WordError Chunk
  | .plain text => .ok ⟨none, Text.latinBytes text⟩
  | .word ⟨charset, .quoted, content⟩ =>
    .ok ⟨some charset, Transfer.QuotedPrintable.decodeWord (Text.latinBytes content)⟩
  | .word ⟨charset, .base64, content⟩ =>
    match Transfer.Base64.decode? false
      (Text.latinBytes content ++ Transfer.Base64.missingPadding content.length) with
    | some bytes => .ok ⟨some charset, bytes⟩
    | none => .error .base64

/-- Neighbouring chunks of one charset as one chunk.  A space goes between plain texts. -/
def merge : List Chunk → List Chunk
  | [] => []
  | chunk :: rest =>
    match merge rest with
    | [] => [chunk]
    | next :: more =>
      if chunk.charset = next.charset then
        let gap : List UInt8 := if chunk.charset.isNone then [32] else []
        ⟨chunk.charset, chunk.bytes ++ gap ++ next.bytes⟩ :: more
      else chunk :: next :: more

/-- The names under which charsets go by other names in mail. -/
def officialNames : List (Text × Text) :=
  [("latin_1", "iso-8859-1"), ("latin-1", "iso-8859-1"), ("latin_2", "iso-8859-2"),
    ("latin-2", "iso-8859-2"), ("latin_3", "iso-8859-3"), ("latin-3", "iso-8859-3"),
    ("latin_4", "iso-8859-4"), ("latin-4", "iso-8859-4"), ("latin_5", "iso-8859-9"),
    ("latin-5", "iso-8859-9"), ("latin_6", "iso-8859-10"), ("latin-6", "iso-8859-10"),
    ("latin_7", "iso-8859-13"), ("latin-7", "iso-8859-13"), ("latin_8", "iso-8859-14"),
    ("latin-8", "iso-8859-14"), ("latin_9", "iso-8859-15"), ("latin-9", "iso-8859-15"),
    ("latin_10", "iso-8859-16"), ("latin-10", "iso-8859-16"), ("cp949", "ks_c_5601-1987"),
    ("euc_jp", "euc-jp"), ("euc_kr", "euc-kr"), ("ascii", "us-ascii")].map
    fun (known, name) ↦ (known.toList, name.toList)

def asciiName : Text := "us-ascii"

def unknownBytesName : Text := "unknown-8bit"

def officialName (name : Text) : Text :=
  (officialNames.lookup name).getD name

/-- Text and the official name of the charset that it was in. -/
structure Run where
  charset : Text
  text : Text
deriving DecidableEq, Repr

def Run.isAscii (run : Run) : Bool :=
  run.charset == asciiName

/-- A fault of the charset of an encoded word in a subject.  Unknown charsets and wrong bytes are
errors of the subject, anything else is a fault of its own. -/
def charsetFault (subject : Text) (e : Charset.Error) : Fault :=
  match e with
  | .nulInName | .refused .. | .unwritable .. => .charset e
  | .unknown _ | .transformation _ | .unwritableTransformation _ | .undecodable _ =>
    .gateway (.invalidEncodedWord subject (.charset e))

/-- The name of the codec that decodes what is in a charset.  No name is read as ASCII. -/
def inputCodec (charset : Text) : Text :=
  if charset = "gb2312".toList then "eucgb2312_cn"
  else if charset = "big5".toList then "big5_tw"
  else if charset.isEmpty then asciiName
  else charset

/-- The name of the codec that text in a charset would be sent in: Japanese texts are sent in ISO
2022. -/
def outputCodec (charset : Text) : Text :=
  if charset = "euc-jp".toList ∨ charset = "shift_jis".toList then "iso-2022-jp"
  else inputCodec charset

variable [Platform]

/-- The text of bytes under the official name of a charset.  It has to be possible to send the text,
also if there are no bytes. -/
def decodeBytes (name : Text) (bytes : List UInt8) : Except Charset.Error Text := do
  if name = unknownBytesName then
    return Charset.lossy .ascii bytes
  let symbols ← Charset.decodeStrict (inputCodec name) bytes
  Charset.checkWritable (outputCodec name) symbols
  return Symbol.display symbols

def Chunk.run (subject : Text) (chunk : Chunk) : Except Fault Run :=
  let name := chunk.charset.getD asciiName
  if name.all fun c ↦ c.toNat < 0x80 then
    match decodeBytes (officialName name) chunk.bytes with
    | .ok text => .ok ⟨officialName name, text⟩
    | .error e => .error (charsetFault subject e)
  else .error (.charsetName name)

/-- Neighbouring runs of one charset as one run with a space in between. -/
def mergeRuns : List Run → List Run
  | [] => []
  | run :: rest =>
    match mergeRuns rest with
    | [] => [run]
    | next :: more =>
      if run.charset = next.charset then ⟨run.charset, run.text ++ ' ' :: next.text⟩ :: more
      else run :: next :: more

/-- Whether a character keeps a word apart from its neighbour without a space. -/
def isLoose (c : Char) : Bool :=
  Text.isBlank c || c == '(' || c == ')' || c == '\\'

/-- What goes between two runs: a space where ASCII meets another charset, unless the ASCII text has
something of that kind already. -/
def gap (a b : Run) : Text :=
  if a.isAscii then if !b.isAscii && !a.text.getLast?.any isLoose then [' '] else []
  else if b.isAscii && !b.text.head?.any isLoose then [' '] else []

/-- The text of runs. -/
def joinRuns : List Run → Text
  | [] => []
  | [run] => run.text
  | run :: next :: rest => run.text ++ gap run next ++ joinRuns (next :: rest)

/-- Decode a subject.  One without encoded words is left as it is. -/
def decode (subject : Text) : Except Fault Text :=
  if hasWord subject then
    match (pieces subject).mapM Piece.chunk with
    | .error e => .error (.gateway (.invalidEncodedWord subject e))
    | .ok chunks => do
      let runs ← (merge chunks).mapM (Chunk.run subject)
      return joinRuns (mergeRuns runs)
  else .ok subject

end Subject

namespace Field

def startsIndented (text : Text) : Bool :=
  text.head?.any fun c ↦ c == ' ' || c == '\t'

/-- Remove the line breaks of folded lines: those before a space or a tab. -/
def unfoldText : Text → Text
  | [] => []
  | '\r' :: '\n' :: rest =>
    if startsIndented rest then unfoldText rest else '\r' :: '\n' :: unfoldText rest
  | '\n' :: rest => if startsIndented rest then unfoldText rest else '\n' :: unfoldText rest
  | c :: rest => c :: unfoldText rest

/-- The value as it was sent, with bytes above ASCII read as UTF-8 and without folding. -/
def raw (field : Field) : Text :=
  unfoldText (Symbol.toText field.value)

end Field

/-- The value of the first field of a name, as it was sent. -/
def rawField? (name : Text) (fields : List Field) : Option Text :=
  (field? (Text.lower name) fields).map Field.raw

end MailGateway.Mail
