import MailGateway.Text.Basic

/-!
# Binary fractions

Times and other fractional numbers are binary fractions with 53 significant bits.  Every operation
is exact arithmetic on natural numbers followed by one rounding to the nearest fraction, ties going
to the even one.  `shortest` is the decimal number with the fewest digits that reads back.
-/

namespace MailGateway

/-- The quotient of two numbers rounded to the nearest number, ties going to the even one. -/
def roundDiv (num den : Nat) : Nat :=
  let q := num / den
  let r := num % den
  if 2 * r < den then q else if den < 2 * r then q + 1 else q + q % 2

/-- The fraction `mantissa * 2 ^ exponent` with a sign. -/
structure Binary64 where
  negative : Bool
  mantissa : Nat
  exponent : Int
deriving DecidableEq, Repr, Inhabited

namespace Binary64

def leastExponent : Int := -1074

/-- Numerator and denominator after multiplication with a power of `base`. -/
def scale (base : Nat) (power : Int) (num den : Nat) : Nat × Nat :=
  match power with
  | .ofNat n => (num * base.pow n, den)
  | .negSucc n => (num, den * base.pow (n + 1))

/-- The fraction nearest to `num / den`. -/
def round (negative : Bool) (num den : Nat) : Binary64 :=
  if num = 0 then ⟨negative, 0, leastExponent⟩
  else
    let size : Int := (Nat.log2 num : Int) - (Nat.log2 den : Int)
    let (top, one) := scale 2 (-size) num den
    let exponent := max leastExponent (if one ≤ top then size - 52 else size - 53)
    let (num, den) := scale 2 (-exponent) num den
    let mantissa := roundDiv num den
    if mantissa = Nat.pow 2 53 then ⟨negative, Nat.pow 2 52, exponent + 1⟩
    else ⟨negative, mantissa, exponent⟩

/-- The fraction nearest to `digits * 10 ^ power`. -/
def ofDecimal (negative : Bool) (digits : Nat) (power : Int) : Binary64 :=
  let (num, den) := scale 10 power digits 1
  round negative num den

/-- Numerator and denominator of the absolute value. -/
def absFraction (x : Binary64) : Nat × Nat :=
  scale 2 x.exponent x.mantissa 1

def signed (x : Binary64) (n : Nat) : Int :=
  if x.negative then -(n : Int) else n

def sub (x y : Binary64) : Binary64 :=
  let (xn, xd) := x.absFraction
  let (yn, yd) := y.absFraction
  let difference := x.signed xn * yd - y.signed yn * xd
  round (difference < 0) difference.natAbs (xd * yd)

def mulNat (x : Binary64) (n : Nat) : Binary64 :=
  let (num, den) := x.absFraction
  round x.negative (num * n) den

def isZero (x : Binary64) : Bool :=
  x.mantissa == 0

/-- The fraction without the part behind the point. -/
def truncate (x : Binary64) : Int :=
  let (num, den) := x.absFraction
  x.signed (num / den)

/-- The position of the first digit of a positive fraction: zero for the digit before the point. -/
def decimalExponent (num den : Nat) : Int :=
  ((Text.ofNat (num * Nat.pow 10 330 / den)).length : Int) - 331

/-- The two numbers with `count` digits that surround a positive fraction, and the position of their
last digit. -/
def decimalNeighbours (num den count : Nat) : Nat × Nat × Int :=
  let power := decimalExponent num den - count + 1
  let (n, d) := scale 10 (-power) num den
  (n / d, n / d + 1, power)

/-- Whether a decimal number reads back as the fraction. -/
def readsBack (x : Binary64) (digits : Nat) (power : Int) : Bool :=
  let below := if x.mantissa = Nat.pow 2 52 ∧ leastExponent < x.exponent then 1 else 2
  let (low, one) := scale 2 (x.exponent - 2) (4 * x.mantissa - below) 1
  let (high, _) := scale 2 (x.exponent - 2) (4 * x.mantissa + 2) 1
  let (n, d) := scale 10 power digits 1
  if x.mantissa % 2 = 0 then low * d ≤ n * one && n * one ≤ high * d
  else low * d < n * one && n * one < high * d

/-- The decimal number with `count` digits that is nearest to the fraction among those that read back
as it. -/
def withDigits? (x : Binary64) (count : Nat) : Option (Nat × Int) :=
  let (num, den) := x.absFraction
  let (down, up, power) := decimalNeighbours num den count
  match x.readsBack down power, x.readsBack up power with
  | false, false => none
  | true, false => some (down, power)
  | false, true => some (up, power)
  | true, true =>
    let (n, d) := scale 10 (-power) num den
    some (roundDiv n d, power)

/-- The shortest decimal number that reads back as the fraction: its digits, and the position of the
point counted from their start. -/
def shortest (x : Binary64) : Text × Int :=
  if x.isZero then ("0", 1)
  else
    let counts := (List.range 17).map (· + 1)
    let (digits, power) := (counts.findSome? x.withDigits?).getD (0, 0)
    let text := Text.ofNat digits
    let kept := (text.reverse.dropWhile (· == '0')).reverse
    (kept, text.length + power)

def sign (x : Binary64) : Text :=
  if x.negative then ['-'] else []

def exponentText (exponent : Int) : Text :=
  (if exponent < 0 then '-' else '+') :: Text.padLeft '0' 2 (Text.ofNat exponent.natAbs)

/-- Digits with a point after `before` of them. -/
def withPoint (digits : Text) (before : Nat) : Text :=
  let rest := digits.drop before
  if rest.isEmpty then digits else digits.take before ++ '.' :: rest

/-- The shortest text that reads back.  Numbers from one ten-thousandth to ten quadrillions are
written out, others have an exponent. -/
def toText (x : Binary64) : Text :=
  let (digits, point) := x.shortest
  let body : Text :=
    if -4 < point ∧ point ≤ 16 then
      if point ≤ 0 then "0." ++ List.replicate point.natAbs '0' ++ digits
      else
        let whole := digits ++ List.replicate (point.toNat - digits.length) '0'
        if whole.length = point.toNat then whole ++ ".0" else withPoint whole point.toNat
    else withPoint digits 1 ++ 'e' :: exponentText (point - 1)
  x.sign ++ body

/-- The absolute value with a fixed number of decimal places. -/
def fixed (places : Nat) (x : Binary64) : Text :=
  let (num, den) := x.absFraction
  let digits := Text.padLeft '0' (places + 1) (Text.ofNat (roundDiv (num * Nat.pow 10 places) den))
  withPoint digits (digits.length - places)

/-- The fraction nearest to the fraction rounded to a number of decimal places. -/
def roundTo (places : Nat) (x : Binary64) : Binary64 :=
  let (num, den) := x.absFraction
  ofDecimal x.negative (roundDiv (num * Nat.pow 10 places) den) (-(places : Int))

/-- The fraction with its sign and a fixed number of decimal places. -/
def toFixed (places : Nat) (x : Binary64) : Text :=
  x.sign ++ x.fixed places

/-- The absolute value rounded to a number of significant digits, and the position of the first of
them. -/
def significant (count : Nat) (x : Binary64) : Text × Int :=
  if x.isZero then (List.replicate count '0', 0)
  else
    let (num, den) := x.absFraction
    let exponent := decimalExponent num den
    let (n, d) := scale 10 ((count : Int) - 1 - exponent) num den
    let digits := Text.ofNat (roundDiv n d)
    if count < digits.length then (digits.take count, exponent + 1) else (digits, exponent)

/-- The absolute value with an exponent and a number of decimal places. -/
def scientific (places : Nat) (x : Binary64) : Text :=
  let (digits, exponent) := x.significant (places + 1)
  withPoint digits 1 ++ 'e' :: exponentText exponent

end Binary64

end MailGateway
