import MailGateway.Charset.Decoder

/-!
# What the platform provides

Mails may name any charset that the platform of the gateway has a codec for, and patterns any
character that it has a name for.  The customary charsets are written out in the modules on charsets;
everything beyond them is a parameter of the gateway.  A codec is described by its answers: what it
decodes bytes to in each of three ways, whether it can write a text, and how it refuses to do so.

A platform also has a limit on the digits of integers that become texts or are read from them.  It is
a setting for the whole process: it may be raised, or switched off.
-/

namespace MailGateway

namespace Charset

/-- Why a codec does not work on what it is given.  A named refusal is shown together with the name
that the codec was asked for under, a worded one as it is. -/
inductive Refusal where
  | named (reason : Text)
  | worded (text : Text)
deriving DecidableEq, Repr

/-- Why a codec does not decode bytes: some of them are wrong, or it refuses to decode. -/
inductive Codec.Failure where
  | undecodable (e : DecodeError)
  | refused (refusal : Refusal)
deriving DecidableEq, Repr

/-- A codec.  Decoding is strict, with the replacement character for what is no text, or keeps wrong
bytes above ASCII.  No codec is asked to decode no bytes. -/
structure Codec where
  strict : List UInt8 → Except Codec.Failure (List Symbol)
  lossy : List UInt8 → Except Codec.Failure Text
  keeping : List UInt8 → Except Codec.Failure (List Symbol)
  write : List Symbol → Except Refusal Unit

def Codec.undefined : Codec :=
  let reason : Text := "UnicodeError: undefined encoding"
  { strict := fun _ ↦ .error (.refused (.named reason))
    lossy := fun _ ↦ .error (.refused (.named reason))
    keeping := fun _ ↦ .error (.refused (.named reason))
    write := fun _ ↦ .error (.named reason) }

end Charset

/-- What the platform knows beyond what is written out here: codecs by the canonical names of
charsets, and characters by their names.  `digitLimit` is its limit on the digits of integers, if it
is not switched off. -/
class Platform where
  codec? : Text → Option Charset.Codec
  character? : Text → Option Char
  digitLimit : Option Nat
  maxDigits_le_digitLimit : ∀ limit ∈ digitLimit, Text.maxDigits ≤ limit

/-- A platform that knows nothing more and has the usual limit. -/
@[reducible]
def Platform.bare : Platform where
  codec? _ := none
  character? _ := none
  digitLimit := some Text.maxDigits
  maxDigits_le_digitLimit := by
    rintro limit ⟨⟩
    exact Nat.le_refl _

end MailGateway
