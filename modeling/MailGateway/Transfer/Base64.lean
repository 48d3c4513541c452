import MailGateway.Charset.Decoder

/-!
# Base64

Four characters carry three bytes.  A reader may be strict or skip characters outside the alphabet.
`decodeAny` reads whatever a client calls base64: strictly with the padding completed, then
skipping, then skipping with padding added, and in the end not at all.
-/

namespace MailGateway.Transfer.Base64

def value? (b : UInt8) : Option Nat :=
  let n := b.toNat
  if 65 ≤ n ∧ n ≤ 90 then some (n - 65)
  else if 97 ≤ n ∧ n ≤ 122 then some (n - 97 + 26)
  else if 48 ≤ n ∧ n ≤ 57 then some (n - 48 + 52)
  else if n = 43 then some 62
  else if n = 47 then some 63
  else none

/-- How far a reader is: the characters read of the current four, the bits not yet written, the
padding characters in a row, and whether there was any padding. -/
structure State where
  quad : Nat
  bits : Nat
  pads : Nat
  padded : Bool
deriving DecidableEq, Repr

/-- The byte that the bits of a character complete. -/
def State.emit (s : State) (v : Nat) : List UInt8 :=
  match s.quad with
  | 0 => []
  | 1 => [UInt8.ofNat (s.bits * 4 + v / 16)]
  | 2 => [UInt8.ofNat (s.bits * 16 + v / 4)]
  | _ => [UInt8.ofNat (s.bits * 64 + v)]

def State.next (s : State) (v : Nat) : State :=
  match s.quad with
  | 0 => { s with quad := 1, bits := v, pads := 0 }
  | 1 => { s with quad := 2, bits := v % 16, pads := 0 }
  | 2 => { s with quad := 3, bits := v % 4, pads := 0 }
  | _ => { s with quad := 0, bits := 0, pads := 0 }

/-- The bytes of the characters from a state on.  Padding that completes four characters ends the
data; without it the data has to end after four characters. -/
def decodeFrom (strict : Bool) (s : State) : List UInt8 → Option (List UInt8)
  | [] => if s.quad = 0 then some [] else none
  | b :: rest =>
    if b = 61 then
      if 2 ≤ s.quad then
        if 4 ≤ s.quad + (s.pads + 1) then
          if strict && !rest.isEmpty then none else some []
        else decodeFrom strict { s with pads := s.pads + 1, padded := true } rest
      else decodeFrom strict { s with padded := true } rest
    else match value? b with
      | none => if strict then none else decodeFrom strict s rest
      | some v =>
        if strict && s.padded then none
        else (decodeFrom strict (s.next v) rest).map (s.emit v ++ ·)

def decode? (strict : Bool) (text : List UInt8) : Option (List UInt8) :=
  decodeFrom strict ⟨0, 0, 0, false⟩ text

/-- The padding that completes the last four characters. -/
def missingPadding (length : Nat) : List UInt8 :=
  if length % 4 = 0 then [] else List.replicate (4 - length % 4) 61

/-- Read what is called base64, whatever it is. -/
def decodeAny (text : List UInt8) : List UInt8 :=
  match decode? true (text ++ missingPadding text.length) with
  | some bytes => bytes
  | none => match decode? false text with
    | some bytes => bytes
    | none => (decode? false (text ++ [61, 61])).getD text

end MailGateway.Transfer.Base64
