import MailGateway.Charset.Basic
import MailGateway.Text.Blank
import MailGateway.Text.Case
import MailGateway.Transfer.Base64
import MailGateway.Transfer.QuotedPrintable

/-!
# Encoded words in structured fields

An encoded word names a charset and an encoding and carries bytes, as in `=?utf-8?q?caf=C3=A9?=`.
`EncodedWord.take?` reads the one at the start of a field value.  Bytes that the charset does not
allow and words of unknown charsets are kept undecoded, so that they can still be shown.
-/

namespace MailGateway.Mail

/-- Bytes as symbols, those above ASCII undecoded. -/
def asciiSymbols (bytes : List UInt8) : List Symbol :=
  bytes.map Symbol.ofByte

/-- The bytes of symbols, if all of them are ASCII characters or undecoded bytes. -/
def symbolBytes? (symbols : List Symbol) : Option (List UInt8) :=
  symbols.mapM fun
    | .scalar c => if c.toNat < 0x80 then some (UInt8.ofNat c.toNat) else none
    | .byte b => some b
    | .surrogate _ => none

def isSpacing (s : Symbol) : Bool :=
  s.is fun c ↦ c == ' ' || c == '\t'

def isBlankSymbol (s : Symbol) : Bool :=
  s.is Text.isBlank

namespace EncodedWord

def contentBytes? (encoding : List Symbol) (content : List UInt8) : Option (List UInt8) :=
  match encoding with
  | [.scalar c] =>
    if c = 'q' ∨ c = 'Q' then some (Transfer.QuotedPrintable.decodeWord content)
    else if c = 'b' ∨ c = 'B' then some (Transfer.Base64.decodeAny content)
    else none
  | _ => none

variable [Platform]

/-- The text of bytes under the name of a charset, undecodable bytes being kept.  There is none if
the name is no name at all, its codec refuses, or the bytes cannot be kept. -/
def decode? (charset : List Symbol) (bytes : List UInt8) : Option (List Symbol) :=
  match Symbol.toText? charset with
  | none => some (asciiSymbols bytes)
  | some name =>
    match Charset.decodeStrict name bytes with
    | .ok symbols => some symbols
    | .error (.undecodable _) => (Charset.decodeKeeping name bytes).toOption
    | .error (.unknown _) | .error (.transformation _) => some (asciiSymbols bytes)
    | .error _ => none

/-- The text of what stands between the outer marks of an encoded word. -/
def ofInner? (inner : List Symbol) : Option (List Symbol) :=
  match Text.splitAll (Symbol.eq '?') inner with
  | [charset, encoding, content] =>
    match symbolBytes? content with
    | none => none
    | some content =>
      match contentBytes? encoding content with
      | none => none
      | some bytes => decode? (Text.cut (Symbol.eq '*') charset).1 bytes
  | _ => none

def endMark : List Symbol := Symbol.ofText "?="

def startsWithHex : List Symbol → Bool
  | a :: b :: _ =>
    a.is (fun c ↦ (Text.hexValue? c).isSome) && b.is fun c ↦ (Text.hexValue? c).isSome
  | _ => false

/-- What stands between the marks of the encoded word at the start, and the symbols after it.  The
end mark does not count when it is the question mark before the content and an escape. -/
def inner? (symbols : List Symbol) : Option (List Symbol × List Symbol) :=
  match Text.after? (Symbol.ofText "=?") symbols with
  | none => none
  | some start =>
    match Text.cutAt? endMark start with
    | none => none
    | some (inner, after) =>
      if startsWithHex after && inner.countP (Symbol.eq '?') < 2 then
        match Text.cutAt? endMark after with
        | some (more, after) => some (inner ++ endMark ++ more, after)
        | none => some (inner ++ endMark ++ after, [])
      else some (inner, after)

/-- A symbol of a word, white space being no part of words. -/
def words (symbols : List Symbol) : List (List Symbol) :=
  (Text.splitAll isBlankSymbol symbols).filter (!·.isEmpty)

/-- The text of the encoded word at the start, whether the word is flawed, and the symbols after it.
A word is flawed if it holds white space or something else than a space follows it. -/
def take? (symbols : List Symbol) : Option (List Symbol × Bool × List Symbol) :=
  match inner? symbols with
  | none => none
  | some (inner, after) =>
    (ofInner? inner).map fun text ↦
      let glued := match after with
        | s :: _ => !isSpacing s
        | [] => false
      (text, 1 < (words inner).length || glued, after)

end EncodedWord

end MailGateway.Mail
