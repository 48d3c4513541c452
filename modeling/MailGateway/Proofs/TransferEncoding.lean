import MailGateway.Transfer.Base64
import MailGateway.Transfer.QuotedPrintable
import MailGateway.Proofs.FieldWords

/-!
# Transfer encodings

Writers for the two transfer encodings, and the proofs that reading undoes them: base64 for every list
of bytes, and quoted-printable for every choice of escapes and soft line breaks.
-/

namespace MailGateway.Transfer

/-! ## Base64 -/

namespace Base64

def digit (n : Nat) : UInt8 :=
  if n < 26 then UInt8.ofNat (65 + n)
  else if n < 52 then UInt8.ofNat (71 + n)
  else if n < 62 then UInt8.ofNat (n - 4)
  else if n = 62 then 43
  else 47

/-- Bytes in base64, with padding. -/
def encode : List UInt8 → List UInt8
  | [] => []
  | [a] => [digit (a.toNat / 4), digit (a.toNat % 4 * 16), 61, 61]
  | [a, b] =>
    [digit (a.toNat / 4), digit (a.toNat % 4 * 16 + b.toNat / 16), digit (b.toNat % 16 * 4), 61]
  | a :: b :: c :: rest =>
    digit (a.toNat / 4) :: digit (a.toNat % 4 * 16 + b.toNat / 16) ::
      digit (b.toNat % 16 * 4 + c.toNat / 64) :: digit (c.toNat % 64) :: encode rest

/-- A digit stands for its six bits, and it is no padding and no line break. -/
theorem digit_spec {n : Nat} (h : n < 64) :
    value? (digit n) = some n ∧ digit n ≠ 61 ∧ digit n ≠ 10 ∧ digit n ≠ 13 := by
  have hall : ∀ n < 64, value? (digit n) = some n ∧ digit n ≠ 61 ∧ digit n ≠ 10 ∧ digit n ≠ 13 := by
    decide
  exact hall n h

theorem decodeFrom_digit {s : State} (hs : s.padded = false) {n : Nat} (h : n < 64)
    (rest : List UInt8) :
    decodeFrom true s (digit n :: rest) = (decodeFrom true (s.next n) rest).map (s.emit n ++ ·) := by
  obtain ⟨hvalue, hpad, -, -⟩ := digit_spec h
  simp only [decodeFrom, hpad, if_false, hvalue, hs, Bool.and_false]
  rfl

theorem ofNat_eq {a : UInt8} {n : Nat} (h : n = a.toNat) : UInt8.ofNat n = a := by
  rw [h, UInt8.ofNat_toNat]

theorem decode?_encode (bytes : List UInt8) : decode? true (encode bytes) = some bytes := by
  rw [decode?]
  fun_induction encode bytes with
  | case1 => rfl
  | case2 a =>
    have ha := a.toNat_lt
    have hbyte : UInt8.ofNat (a.toNat / 4 * 4 + a.toNat % 4 * 16 / 16) = a := ofNat_eq (by omega)
    rw [decodeFrom_digit rfl (by omega), decodeFrom_digit rfl (by omega)]
    simp only [decodeFrom, State.next, State.emit, hbyte]
    rfl
  | case3 a b =>
    have ha := a.toNat_lt
    have hb := b.toNat_lt
    have hfirst : UInt8.ofNat (a.toNat / 4 * 4 + (a.toNat % 4 * 16 + b.toNat / 16) / 16) = a :=
      ofNat_eq (by omega)
    have hsecond : UInt8.ofNat ((a.toNat % 4 * 16 + b.toNat / 16) % 16 * 16 + b.toNat % 16 * 4 / 4) = b :=
      ofNat_eq (by omega)
    rw [decodeFrom_digit rfl (by omega), decodeFrom_digit rfl (by omega),
      decodeFrom_digit rfl (by omega)]
    simp only [decodeFrom, State.next, State.emit, hfirst, hsecond]
    rfl
  | case4 a b c rest ih =>
    have ha := a.toNat_lt
    have hb := b.toNat_lt
    have hc := c.toNat_lt
    have hfirst : UInt8.ofNat (a.toNat / 4 * 4 + (a.toNat % 4 * 16 + b.toNat / 16) / 16) = a :=
      ofNat_eq (by omega)
    have hsecond : UInt8.ofNat ((a.toNat % 4 * 16 + b.toNat / 16) % 16 * 16 +
        (b.toNat % 16 * 4 + c.toNat / 64) / 4) = b := ofNat_eq (by omega)
    have hthird : UInt8.ofNat ((b.toNat % 16 * 4 + c.toNat / 64) % 4 * 64 + c.toNat % 64) = c :=
      ofNat_eq (by omega)
    rw [decodeFrom_digit rfl (by omega), decodeFrom_digit rfl (by omega),
      decodeFrom_digit rfl (by omega), decodeFrom_digit rfl (by omega)]
    simp only [State.next, State.emit, hfirst, hsecond, hthird, ih]
    rfl

theorem length_encode (bytes : List UInt8) : (encode bytes).length % 4 = 0 := by
  fun_induction encode bytes with
  | case1 | case2 | case3 => simp
  | case4 a b c rest ih =>
    simp only [List.length_cons]
    omega

/-- Correct base64 is read the same by the lenient reader. -/
theorem decodeAny_encode (bytes : List UInt8) : decodeAny (encode bytes) = bytes := by
  rw [decodeAny, missingPadding, if_pos (length_encode bytes), List.append_nil, decode?_encode]

/-- What a strict reader accepts, a lenient one reads in the same way. -/
theorem decodeFrom_lenient {s : State} {text bytes : List UInt8}
    (h : decodeFrom true s text = some bytes) : decodeFrom false s text = some bytes := by
  induction text generalizing s bytes with
  | nil => exact h
  | cons b rest ih =>
    rw [decodeFrom] at h ⊢
    by_cases hpad : b = 61
    · rw [if_pos hpad] at h ⊢
      split at h
      · next hquad =>
        rw [if_pos hquad]
        split at h
        · next hclosed =>
          rw [if_pos hclosed]
          split at h
          · cases h
          · exact h
        · next hopen =>
          rw [if_neg hopen]
          exact ih h
      · next hquad =>
        rw [if_neg hquad]
        exact ih h
    · rw [if_neg hpad] at h ⊢
      split at h
      · cases h
      · next v hvalue =>
        split at h
        · cases h
        · obtain ⟨found, hfound, hbytes⟩ := Option.map_eq_some_iff.mp h
          exact Option.map_eq_some_iff.mpr ⟨found, ih hfound, hbytes⟩

theorem decode?_lenient_encode (bytes : List UInt8) : decode? false (encode bytes) = some bytes :=
  decodeFrom_lenient (decode?_encode bytes)

/-- What holds of all digits and of the padding holds of all that is written in base64. -/
theorem forall_mem_encode {P : UInt8 → Prop} (hdigit : ∀ n < 64, P (digit n)) (hpad : P 61)
    (bytes : List UInt8) : ∀ b ∈ encode bytes, P b := by
  fun_induction encode bytes with
  | case1 => simp
  | case2 a =>
    have ha := a.toNat_lt
    rw [List.forall_mem_cons, List.forall_mem_cons]
    exact ⟨hdigit _ (by omega), hdigit _ (by omega), by simp [hpad]⟩
  | case3 a b =>
    have ha := a.toNat_lt
    have hb := b.toNat_lt
    rw [List.forall_mem_cons, List.forall_mem_cons, List.forall_mem_cons]
    exact ⟨hdigit _ (by omega), hdigit _ (by omega), hdigit _ (by omega), by simp [hpad]⟩
  | case4 a b c rest ih =>
    have ha := a.toNat_lt
    have hb := b.toNat_lt
    have hc := c.toNat_lt
    rw [List.forall_mem_cons, List.forall_mem_cons, List.forall_mem_cons, List.forall_mem_cons]
    exact ⟨hdigit _ (by omega), hdigit _ (by omega), hdigit _ (by omega), hdigit _ (by omega), ih⟩

/-- Base64 has no line breaks of its own. -/
theorem not_break_of_mem_encode {bytes : List UInt8} :
    ∀ b ∈ encode bytes, (b != 10 && b != 13) = true :=
  forall_mem_encode (fun n hn ↦ by simpa using (digit_spec hn).2.2) (by decide) bytes

/-- Lines with their breaks between them are the lines when breaks do not count. -/
theorem filter_intercalate {p : UInt8 → Bool} {separator : List UInt8}
    (h : separator.filter p = []) (lines : List (List UInt8)) :
    (separator.intercalate lines).filter p = lines.flatten.filter p := by
  induction lines with
  | nil => rfl
  | cons line lines ih =>
    cases lines with
    | nil => simp
    | cons next lines =>
      rw [List.intercalate_cons_cons, List.filter_append, List.filter_append, ih, h]
      simp

end Base64

/-! ## Quoted-printable -/

namespace QuotedPrintable

def hexDigit (upper : Bool) (n : Nat) : UInt8 :=
  if n < 10 then UInt8.ofNat (48 + n)
  else if upper then UInt8.ofNat (55 + n)
  else UInt8.ofNat (87 + n)

/-- A piece of a text in quoted-printable: a byte that stands for itself, an escape, or a soft line
break. -/
inductive Piece where
  | literal (b : UInt8) (isLiteral : 33 ≤ b ∧ b ≤ 126 ∧ b ≠ 61)
  | escape (b : UInt8) (upper : Bool)
  | softBreak

namespace Piece

def written : Piece → List UInt8
  | literal b _ => [b]
  | escape b upper => [61, hexDigit upper (b.toNat / 16), hexDigit upper (b.toNat % 16)]
  | softBreak => [61, 13, 10]

def carried : Piece → List UInt8
  | literal b _ => [b]
  | escape b _ => [b]
  | softBreak => []

end Piece

theorem hexDigit_spec (upper : Bool) {n : Nat} (h : n < 16) :
    hexValue? (hexDigit upper n) = some n ∧ hexDigit upper n ≠ 10 ∧ hexDigit upper n ≠ 13 ∧
      hexDigit upper n ≠ 61 := by
  have hall : ∀ upper, ∀ n < 16, hexValue? (hexDigit upper n) = some n ∧ hexDigit upper n ≠ 10 ∧
      hexDigit upper n ≠ 13 ∧ hexDigit upper n ≠ 61 := by
    decide
  exact hall upper n h

theorem hexPair?_hexDigits (upper : Bool) (b : UInt8) :
    hexPair? (hexDigit upper (b.toNat / 16)) (hexDigit upper (b.toNat % 16)) = some b := by
  have hb := b.toNat_lt
  obtain ⟨hhigh, -⟩ := hexDigit_spec upper (n := b.toNat / 16) (by omega)
  obtain ⟨hlow, -⟩ := hexDigit_spec upper (n := b.toNat % 16) (by omega)
  rw [hexPair?, hhigh, hlow]
  simp only [Nat.div_add_mod', UInt8.ofNat_toNat]

theorem decodeIn_written (piece : Piece) (rest : List UInt8) :
    decodeIn .text (piece.written ++ rest) = piece.carried ++ decodeIn .text rest := by
  cases piece with
  | literal b h => simp [Piece.written, Piece.carried, decodeIn, h.2.2]
  | escape b upper =>
    have hb := b.toNat_lt
    obtain ⟨-, hlf, hcr, hequals⟩ := hexDigit_spec upper (n := b.toNat / 16) (by omega)
    have hpair := hexPair?_hexDigits upper b
    simp [Piece.written, Piece.carried, decodeIn, hlf, hcr, hequals, hpair]
  | softBreak => simp [Piece.written, Piece.carried, decodeIn]

theorem decode_written (pieces : List Piece) :
    decode (pieces.flatMap Piece.written) = pieces.flatMap Piece.carried := by
  rw [decode]
  induction pieces with
  | nil => rfl
  | cons piece pieces ih =>
    rw [List.flatMap_cons, decodeIn_written, ih, List.flatMap_cons]

/-! ## Encoded words -/

/-- A piece of an encoded word in quoted-printable: a byte that stands for itself, an underscore for a
space, or an escape.  Question marks and underscores are not literal in words. -/
inductive WordPiece where
  | literal (b : UInt8) (isLiteral : 33 ≤ b ∧ b ≤ 126 ∧ b ≠ 61 ∧ b ≠ 63 ∧ b ≠ 95)
  | space
  | escape (b : UInt8) (upper : Bool)

namespace WordPiece

def written : WordPiece → List UInt8
  | literal b _ => [b]
  | space => [95]
  | escape b upper => [61, hexDigit upper (b.toNat / 16), hexDigit upper (b.toNat % 16)]

def carried : WordPiece → List UInt8
  | literal b _ => [b]
  | space => [32]
  | escape b _ => [b]

end WordPiece

theorem decodeWord_cons {b : UInt8} (h : b ≠ 61) (rest : List UInt8) :
    decodeWord (b :: rest) = (if b = 95 then 32 else b) :: decodeWord rest := by
  match rest with
  | [] => rfl
  | [_] => rfl
  | _ :: _ :: _ => rw [decodeWord, if_neg h]

theorem decodeWord_written (pieces : List WordPiece) :
    decodeWord (pieces.flatMap WordPiece.written) = pieces.flatMap WordPiece.carried := by
  induction pieces with
  | nil => rfl
  | cons piece pieces ih =>
    rw [List.flatMap_cons, List.flatMap_cons, ← ih]
    cases piece with
    | literal b h =>
      rw [WordPiece.written, List.singleton_append, decodeWord_cons h.2.2.1, if_neg h.2.2.2.2]
      rfl
    | space =>
      rw [WordPiece.written, List.singleton_append, decodeWord_cons (by decide), if_pos rfl]
      rfl
    | escape b upper =>
      have hpair := hexPair?_hexDigits upper b
      simp only [WordPiece.written, WordPiece.carried, List.cons_append, List.nil_append]
      rw [decodeWord, if_pos rfl, hpair]

end QuotedPrintable

end MailGateway.Transfer
