import MailGateway.Text.Blank

/-!
# Uuencoding

A `begin` line with a mode, then lines that state how many bytes they carry, then `end`.  Lines are
read leniently: missing characters count as zero bits, and a line that is longer than its count is
cut.  What cannot be read at all is left as it is.
-/

namespace MailGateway.Transfer.Uuencode

def lines : List UInt8 → List (List UInt8)
  | [] => []
  | 13 :: 10 :: rest => [] :: lines rest
  | b :: rest =>
    if b = 10 ∨ b = 13 then [] :: lines rest
    else match lines rest with
      | [] => [[b]]
      | line :: more => (b :: line) :: more

/-- Octal digits with single underscores between them. -/
def isOctalRun : List UInt8 → Bool
  | [] => false
  | [b] => 48 ≤ b && b ≤ 55
  | b :: c :: rest =>
    48 ≤ b && b ≤ 55 && (if c = 95 then isOctalRun rest else isOctalRun (c :: rest))

def isSpace (b : UInt8) : Bool :=
  b == 32 || (9 ≤ b && b ≤ 13)

/-- Whether the mode of a `begin` line is an octal number: a sign and the mark `0o` may precede it,
and white space stand around it. -/
def isMode (mode : List UInt8) : Bool :=
  let trimmed := Text.trimBy isSpace mode
  let unsigned := match trimmed with
    | b :: rest => if b = 43 ∨ b = 45 then rest else trimmed
    | [] => []
  match unsigned with
  | 48 :: b :: rest =>
    if b = 79 ∨ b = 111 then
      match rest with
      | 95 :: digits => isOctalRun digits
      | digits => isOctalRun digits
    else isOctalRun unsigned
  | _ => isOctalRun unsigned

/-- The lines after the `begin` line. -/
def afterBegin? : List (List UInt8) → Option (List (List UInt8))
  | [] => none
  | line :: rest =>
    match Text.after? [98, 101, 103, 105, 110, 32] line with
    | some tail => if isMode (Text.cut (· == 32) tail).1 then some rest else afterBegin? rest
    | none => afterBegin? rest

/-- The bytes that a line still has to carry: their number, the bits read so far and how many.  Every
character brings six bits, and a missing character brings zeros. -/
def decodeBits (fuel count bits width : Nat) (chars : List UInt8) :
    Option (List UInt8 × List UInt8) :=
  match fuel, count with
  | _, 0 => some ([], chars)
  | 0, _ => none
  | fuel + 1, count + 1 =>
    let value? : Option (Nat × List UInt8) := match chars with
      | [] => some (0, [])
      | b :: rest =>
        if b = 10 ∨ b = 13 then some (0, rest)
        else if b < 32 ∨ 96 < b then none
        else some ((b.toNat - 32) % 64, rest)
    match value? with
    | none => none
    | some (v, rest) =>
      let all := bits * 64 + v
      if 2 ≤ width then
        let kept := width - 2
        (decodeBits fuel count (all % 2 ^ kept) kept rest).map fun (bytes, left) ↦
          (UInt8.ofNat (all / 2 ^ kept) :: bytes, left)
      else decodeBits fuel (count + 1) all (width + 6) rest

/-- The bytes of one line.  Only padding may follow them. -/
def decodeLine? : List UInt8 → Option (List UInt8)
  | [] => none
  | first :: chars =>
    let count := (first.toNat + 32) % 64
    match decodeBits (2 * count + 1) count 0 0 chars with
    | some (bytes, rest) =>
      if rest.all fun b ↦ b == 32 || b == 96 || b == 10 || b == 13 then some bytes else none
    | none => none

/-- The line cut to the length that its count asks for. -/
def cutLine : List UInt8 → List UInt8
  | [] => []
  | first :: chars => (first :: chars).take (((first.toNat + 32) % 64 * 4 + 5) / 3)

/-- The bytes of the lines up to `end`. -/
def decodeLines? : List (List UInt8) → Option (List UInt8)
  | [] => some []
  | line :: rest =>
    if line.isEmpty then none
    else if Text.trimBy (fun b ↦ b == 32 || b == 9 || b == 13 || b == 10 || b == 12) line =
        [101, 110, 100] then some []
    else
      match decodeLine? line with
      | some bytes => (decodeLines? rest).map (bytes ++ ·)
      | none => match decodeLine? (cutLine line) with
        | some bytes => (decodeLines? rest).map (bytes ++ ·)
        | none => none

def decode? (body : List UInt8) : Option (List UInt8) :=
  match afterBegin? (lines body) with
  | some rest => decodeLines? rest
  | none => none

end MailGateway.Transfer.Uuencode
