import MailGateway.Text.Basic

/-!
# Quoted-printable

An equals sign with two hexadecimal digits stands for a byte, and one at the end of a line joins the
line with the next.  Anything else stands for itself, so every text can be read.
-/

namespace MailGateway.Transfer.QuotedPrintable

/-- The value of a byte that is a hexadecimal digit. -/
def hexValue? (b : UInt8) : Option Nat :=
  if b < 0x80 then Text.hexValue? (Char.ofNat b.toNat) else none

def hexPair? (a b : UInt8) : Option UInt8 :=
  match hexValue? a, hexValue? b with
  | some high, some low => some (UInt8.ofNat (high * 16 + low))
  | _, _ => none

inductive Mode where
  | text
  | escape
  | skipLine
deriving DecidableEq, Repr

/-- The bytes of a body in quoted-printable.  After a carriage return that follows an equals sign,
everything up to the next line feed is part of the line break. -/
def decodeIn : Mode → List UInt8 → List UInt8
  | _, [] => []
  | .skipLine, b :: rest => if b = 10 then decodeIn .text rest else decodeIn .skipLine rest
  | .text, b :: rest => if b = 61 then decodeIn .escape rest else b :: decodeIn .text rest
  | .escape, b :: rest =>
    if b = 10 then decodeIn .text rest
    else if b = 13 then decodeIn .skipLine rest
    else if b = 61 then 61 :: decodeIn .text rest
    else match rest with
      | [] => [61, b]
      | c :: more => match hexPair? b c with
        | some byte => byte :: decodeIn .text more
        | none => 61 :: b :: decodeIn .text (c :: more)

def decode (body : List UInt8) : List UInt8 :=
  decodeIn .text body

/-- The bytes of an encoded word: an underscore is a space, and only complete escapes are read. -/
def decodeWord : List UInt8 → List UInt8
  | [] => []
  | [b] => [if b = 95 then 32 else b]
  | [b, c] => (if b = 95 then 32 else b) :: decodeWord [c]
  | b :: c :: d :: rest =>
    if b = 61 then
      match hexPair? c d with
      | some byte => byte :: decodeWord rest
      | none => b :: decodeWord (c :: d :: rest)
    else (if b = 95 then 32 else b) :: decodeWord (c :: d :: rest)

end MailGateway.Transfer.QuotedPrintable
