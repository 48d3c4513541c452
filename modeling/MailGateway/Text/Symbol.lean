import MailGateway.Text.Basic

/-!
# Text with undecoded bytes

Header fields are ASCII by rule, but clients send bytes above ASCII as well.  Such a byte is kept
beside the characters until it is known how to read it, so that nothing is lost while a field is
taken apart.  Some charsets decode to halves of surrogate pairs.  They are kept too, although no text
can be written with one of them.
-/

namespace MailGateway

/-- A character, a byte above ASCII whose charset is not known, or half of a surrogate pair, given by
its distance from the first of the surrogates. -/
inductive Symbol where
  | scalar (c : Char)
  | byte (b : UInt8)
  | surrogate (offset : Fin 0x800)
deriving DecidableEq, Repr, Inhabited

namespace Symbol

def ofByte (b : UInt8) : Symbol :=
  if b < 0x80 then .scalar (Char.ofNat b.toNat) else .byte b

/-- Whether the symbol is a character with the given property.  Only characters have one. -/
def is (p : Char → Bool) : Symbol → Bool
  | .scalar c => p c
  | .byte _ | .surrogate _ => false

def eq (c : Char) (s : Symbol) : Bool :=
  s.is (· == c)

/-- The bytes of the symbol, characters being written in UTF-8.  Half of a surrogate pair is written
as the replacement character. -/
def bytes : Symbol → List UInt8
  | .scalar c => String.utf8EncodeChar c
  | .byte b => [b]
  | .surrogate _ => String.utf8EncodeChar '\ufffd'

def ofText (text : Text) : List Symbol :=
  text.map .scalar

/-- The text of the symbols, if all of them are characters. -/
def toText? (symbols : List Symbol) : Option Text :=
  symbols.mapM fun
    | .scalar c => some c
    | .byte _ | .surrogate _ => none

/-- The symbols as text, with the replacement character for everything that is no character. -/
def display (symbols : List Symbol) : Text :=
  symbols.map fun
    | .scalar c => c
    | .byte _ | .surrogate _ => '\ufffd'

end Symbol

instance : Coe Text (List Symbol) := ⟨Symbol.ofText⟩

end MailGateway
