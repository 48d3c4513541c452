/-!
# Text

A text is its list of characters.  Mail is cut, compared and rebuilt character by character, and
lists keep each of those steps a structural recursion.
-/

namespace MailGateway

abbrev Text := List Char

instance : Coe String Text := ⟨String.toList⟩

namespace Text

def ofNat (n : Nat) : Text :=
  Nat.toDigits 10 n

/-- An integer in decimal digits, with a leading minus sign when it is negative. -/
def ofInt : Int → Text
  | .ofNat n => ofNat n
  | .negSucc n => '-' :: ofNat (n + 1)

/-- How many digits an integer has, its sign aside. -/
def digitCount (n : Int) : Nat :=
  (ofNat n.natAbs).length

/-- The number of digits that an integer may have on every platform. -/
def maxDigits : Nat := 4300

/-- Put `fill` before the text until it has at least `width` characters. -/
def padLeft (fill : Char) (width : Nat) (text : Text) : Text :=
  List.replicate (width - text.length) fill ++ text

/-- A number in lower-case hexadecimal digits, at least `width` of them. -/
def hex (width n : Nat) : Text :=
  padLeft '0' width (Nat.toDigits 16 n)

def hexValue? (c : Char) : Option Nat :=
  if c.isDigit then some (c.toNat - '0'.toNat)
  else if 'a' ≤ c ∧ c ≤ 'f' then some (c.toNat - 'a'.toNat + 10)
  else if 'A' ≤ c ∧ c ≤ 'F' then some (c.toNat - 'A'.toNat + 10)
  else none

/-- What follows `start` in the text, if the text starts with it. -/
def after? [BEq α] : (start text : List α) → Option (List α)
  | [], text => some text
  | _ :: _, [] => none
  | a :: start, b :: text => if a == b then after? start text else none

theorem length_of_after? [BEq α] {start text rest : List α} (h : after? start text = some rest) :
    rest.length + start.length = text.length := by
  induction start generalizing text with
  | nil => simp_all [after?]
  | cons a start ih =>
    cases text with
    | nil => simp [after?] at h
    | cons b text =>
      by_cases same : a == b
      · have := ih (by simpa [after?, same] using h)
        simp only [List.length_cons]
        omega
      · simp [after?, same] at h

/-- What precedes `finish` in the text, if the text ends with it. -/
def before? [BEq α] (finish text : List α) : Option (List α) :=
  (after? finish.reverse text.reverse).map List.reverse

/-- The text before the first element that satisfies `p`, and the text after that element if there
is one. -/
def cut (p : α → Bool) : List α → List α × Option (List α)
  | [] => ([], none)
  | a :: text =>
    if p a then ([], some text)
    else
      let (first, rest) := cut p text
      (a :: first, rest)

theorem length_cut_lt {p : α → Bool} {text first rest : List α}
    (h : cut p text = (first, some rest)) : rest.length < text.length := by
  induction text generalizing first with
  | nil => simp [cut] at h
  | cons a text ih =>
    by_cases found : p a
    · simp_all [cut]
    · have tail : (cut p text).2 = some rest := by simp_all [cut]
      have := ih (Prod.ext rfl tail)
      simp only [List.length_cons]
      omega

/-- The pieces between the elements that satisfy `p`.  There is always at least one piece. -/
def splitAll (p : α → Bool) : List α → List (List α)
  | [] => [[]]
  | a :: text =>
    if p a then [] :: splitAll p text
    else match splitAll p text with
      | [] => [[a]]
      | piece :: pieces => (a :: piece) :: pieces

/-- The text before the first occurrence of `mark`, and the text after that occurrence. -/
def cutAt? [BEq α] (mark : List α) : List α → Option (List α × List α)
  | [] => if mark.isEmpty then some ([], []) else none
  | a :: text =>
    match after? mark (a :: text) with
    | some rest => some ([], rest)
    | none => (cutAt? mark text).map fun (first, rest) ↦ (a :: first, rest)

theorem length_of_cutAt? [BEq α] {mark text first rest : List α}
    (h : cutAt? mark text = some (first, rest)) : rest.length ≤ text.length := by
  induction text generalizing first with
  | nil => simp_all [cutAt?]
  | cons a text ih =>
    rw [cutAt?] at h
    split at h
    · next found =>
      have := length_of_after? found
      simp_all only [Option.some.injEq, Prod.mk.injEq]
      omega
    · simp only [Option.map_eq_some_iff, Prod.mk.injEq, Prod.exists] at h
      obtain ⟨first, rest, cut, -, rfl⟩ := h
      have := ih cut
      simp only [List.length_cons]
      omega

def substitute (c : Char) (replacement text : Text) : Text :=
  text.flatMap fun d ↦ if d == c then replacement else [d]

/-- The texts one after the other with `separator` between them. -/
def join (separator : Text) (texts : List Text) : Text :=
  List.intercalate separator texts

/-- Whether the code point `n` lies in one of the closed ranges.  The tables of the text modules hold
the ranges of Unicode 14.0 above ASCII; ASCII is spelled out where a property is defined. -/
def inRanges (ranges : List (Nat × Nat)) (n : Nat) : Bool :=
  ranges.any fun range ↦ range.1 ≤ n && n ≤ range.2

def le (a b : Text) : Bool :=
  match a, b with
  | [], _ => true
  | _ :: _, [] => false
  | c :: a, d :: b => if c == d then le a b else c.toNat < d.toNat

end Text

end MailGateway
