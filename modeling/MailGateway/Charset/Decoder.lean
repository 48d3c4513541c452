import MailGateway.Text.Symbol

/-!
# Decoding bytes

A decoder reads one character at a time: from the remaining bytes it takes a character, or it
reports how many bytes are wrong and why.  The three ways to treat wrong bytes are written once for
all charsets: stop with an error, put the replacement character, or keep the bytes as they are.
-/

namespace MailGateway

def Text.utf8 (text : Text) : List UInt8 :=
  text.flatMap String.utf8EncodeChar

/-- Text in Latin-1, with escapes for the characters outside of it. -/
def Text.latinBytes (text : Text) : List UInt8 :=
  text.flatMap fun c ↦
    if c.toNat < 0x100 then [UInt8.ofNat c.toNat]
    else
      let escape : Text :=
        if c.toNat < 0x10000 then "\\u" ++ Text.hex 4 c.toNat else "\\U" ++ Text.hex 8 c.toNat
      escape.map fun d ↦ UInt8.ofNat d.toNat

namespace Charset

/-- What is wrong with a sequence of bytes.  Codecs of the platform have reasons of their own. -/
inductive Defect where
  | invalidStart
  | invalidContinuation
  | unexpectedEnd
  | outsideAscii
  | undefinedByte
  | truncated
  | illegalEncoding
  | illegalSurrogate
  | other (reason : Text)
deriving DecidableEq, Repr

namespace Defect

def message : Defect → Text
  | .invalidStart => "invalid start byte"
  | .invalidContinuation => "invalid continuation byte"
  | .unexpectedEnd => "unexpected end of data"
  | .outsideAscii => "ordinal not in range(128)"
  | .undefinedByte => "character maps to <undefined>"
  | .truncated => "truncated data"
  | .illegalEncoding => "illegal encoding"
  | .illegalSurrogate => "illegal UTF-16 surrogate"
  | .other reason => reason

end Defect

/-- What a decoder finds at the first of the remaining bytes: a character, or wrong bytes.  Both
say how many bytes belong to it beside the first. -/
inductive Step where
  | char (c : Char) (extra : Nat)
  | bad (extra : Nat) (defect : Defect)
deriving DecidableEq, Repr

/-- A decoder looks at the first byte and the bytes after it. -/
abbrev Decoder := UInt8 → List UInt8 → Step

/-- Wrong bytes in a text that had to be correct. -/
structure DecodeError where
  codec : Text
  position : Nat
  bytes : List UInt8
  defect : Defect
deriving DecidableEq, Repr

/-- The wording of a decoding error: a single byte is shown, several are counted. -/
def DecodeError.message (e : DecodeError) : Text :=
  let place : Text := match e.bytes with
    | [b] => "byte 0x" ++ Text.hex 2 b.toNat ++ " in position " ++ Text.ofNat e.position
    | bytes => "bytes in position " ++ Text.ofNat e.position ++ "-" ++
        Text.ofNat (e.position + bytes.length - 1)
  "'" ++ e.codec ++ "' codec can't decode " ++ place ++ ": " ++ e.defect.message

namespace Decoder

/-- Decode with the replacement character in the place of wrong bytes. -/
def lossy (decoder : Decoder) : List UInt8 → Text
  | [] => []
  | b :: rest => match decoder b rest with
    | .char c extra => c :: lossy decoder (rest.drop extra)
    | .bad extra _ => '\ufffd' :: lossy decoder (rest.drop extra)
termination_by bytes => bytes.length
decreasing_by all_goals (simp only [List.length_drop, List.length_cons]; omega)

/-- Decode, or stop at the first wrong bytes.  `position` is the place of the first byte. -/
def strict (decoder : Decoder) (codec : Text) (position : Nat) :
    List UInt8 → Except DecodeError Text
  | [] => .ok []
  | b :: rest => match decoder b rest with
    | .char c extra =>
      (strict decoder codec (position + 1 + extra) (rest.drop extra)).map (c :: ·)
    | .bad extra defect => .error ⟨codec, position, b :: rest.take extra, defect⟩
termination_by bytes => bytes.length
decreasing_by simp only [List.length_drop, List.length_cons]; omega

/-- Decode and keep wrong bytes as they are, at most four at a time.  Only bytes above ASCII can be
kept: a wrong sequence that starts below is an error. -/
def keeping (decoder : Decoder) (codec : Text) (position : Nat) :
    List UInt8 → Except DecodeError (List Symbol)
  | [] => .ok []
  | b :: rest => match decoder b rest with
    | .char c extra =>
      (keeping decoder codec (position + 1 + extra) (rest.drop extra)).map (.scalar c :: ·)
    | .bad extra defect =>
      if b < 0x80 then .error ⟨codec, position, b :: rest.take extra, defect⟩
      else
        let kept := ((rest.take extra).takeWhile (0x80 ≤ ·)).take 3
        (keeping decoder codec (position + 1 + kept.length) (rest.drop kept.length)).map
          ((b :: kept).map .byte ++ ·)
termination_by bytes => bytes.length
decreasing_by all_goals (simp only [List.length_drop, List.length_cons]; omega)

end Decoder

end Charset

end MailGateway
