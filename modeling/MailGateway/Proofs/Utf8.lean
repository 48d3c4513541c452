import MailGateway.Proofs.NamedCharsets

/-!
# Text in UTF-8

Reading the UTF-8 bytes of a text gives this text again, for texts of any characters.  A character is
one to four bytes, and the decoder takes exactly these bytes whatever follows, so the lemma about a
text is an induction over its characters.
-/

namespace MailGateway

namespace Charset

section Bytes

variable {b c d e : UInt8}

theorem isContinuation_iff : isContinuation c = true ↔ 128 ≤ c.toNat ∧ c.toNat < 192 := by
  simp [isContinuation, UInt8.le_iff_toNat_le, UInt8.lt_iff_toNat_lt]

theorem payload_eq (h : isContinuation c = true) : payload c = c.toNat - 128 := by
  rw [isContinuation_iff] at h
  rw [payload]
  omega

theorem utf8Decoder_one (hb : b.toNat < 128) (rest : List UInt8) :
    utf8Decoder b rest = .char (Char.ofNat b.toNat) 0 := by
  have h : b < 0x80 := UInt8.lt_iff_toNat_lt.mpr hb
  simp [utf8Decoder, h]

theorem utf8Decoder_two (hb : 194 ≤ b.toNat ∧ b.toNat < 224) (hc : isContinuation c = true)
    (rest : List UInt8) :
    utf8Decoder b (c :: rest) =
      .char (Char.ofNat ((b.toNat - 192) * 64 + (c.toNat - 128))) 1 := by
  have h1 : ¬ b < 0x80 := by simp [UInt8.lt_iff_toNat_lt]; omega
  have h2 : ¬ b < 0xc2 := by simp [UInt8.lt_iff_toNat_lt]; omega
  have h3 : b < 0xe0 := by simp [UInt8.lt_iff_toNat_lt]; omega
  have hn : b.toNat % 32 = b.toNat - 192 := by omega
  simp [utf8Decoder, h1, h2, h3, hc, payload_eq hc, hn]

theorem utf8Decoder_three (hb : 224 ≤ b.toNat ∧ b.toNat < 240) (hc : isSecond b c = true)
    (hd : isContinuation d = true) (rest : List UInt8) :
    utf8Decoder b (c :: d :: rest) =
      .char (Char.ofNat (((b.toNat - 224) * 64 + (c.toNat - 128)) * 64 + (d.toNat - 128))) 2 := by
  have h1 : ¬ b < 0x80 := by simp [UInt8.lt_iff_toNat_lt]; omega
  have h2 : ¬ b < 0xc2 := by simp [UInt8.lt_iff_toNat_lt]; omega
  have h3 : ¬ b < 0xe0 := by simp [UInt8.lt_iff_toNat_lt]; omega
  have h4 : b < 0xf0 := by simp [UInt8.lt_iff_toNat_lt]; omega
  have hn : b.toNat % 16 = b.toNat - 224 := by omega
  have hc' := (Bool.and_eq_true_iff.mp hc).1
  simp [utf8Decoder, h1, h2, h3, h4, hc, hd, payload_eq hc', payload_eq hd, hn]

theorem utf8Decoder_four (hb : 240 ≤ b.toNat ∧ b.toNat < 245) (hc : isSecond b c = true)
    (hd : isContinuation d = true) (he : isContinuation e = true) (rest : List UInt8) :
    utf8Decoder b (c :: d :: e :: rest) =
      .char (Char.ofNat ((((b.toNat - 240) * 64 + (c.toNat - 128)) * 64 + (d.toNat - 128)) * 64 +
        (e.toNat - 128))) 3 := by
  have h1 : ¬ b < 0x80 := by simp [UInt8.lt_iff_toNat_lt]; omega
  have h2 : ¬ b < 0xc2 := by simp [UInt8.lt_iff_toNat_lt]; omega
  have h3 : ¬ b < 0xe0 := by simp [UInt8.lt_iff_toNat_lt]; omega
  have h4 : ¬ b < 0xf0 := by simp [UInt8.lt_iff_toNat_lt]; omega
  have h5 : b < 0xf5 := by simp [UInt8.lt_iff_toNat_lt]; omega
  have hn : b.toNat % 8 = b.toNat - 240 := by omega
  have hc' := (Bool.and_eq_true_iff.mp hc).1
  simp [utf8Decoder, h1, h2, h3, h4, h5, hc, hd, he, payload_eq hc', payload_eq hd, payload_eq he,
    hn]

/-- Which second bytes are neither too long nor a surrogate nor too large. -/
theorem isSecond_of (hc : isContinuation c = true) (h₀ : b.toNat ≠ 224 ∨ 160 ≤ c.toNat)
    (h₁ : b.toNat ≠ 237 ∨ c.toNat < 160) (h₂ : b.toNat ≠ 240 ∨ 144 ≤ c.toNat)
    (h₃ : b.toNat ≠ 244 ∨ c.toNat < 144) : isSecond b c = true := by
  rw [isSecond, hc, Bool.true_and]
  simp only [beq_iff_eq, ← UInt8.toNat_inj, UInt8.lt_iff_toNat_lt, UInt8.le_iff_toNat_le,
    UInt8.reduceToNat]
  grind

end Bytes

theorem toNat_byte {n : Nat} (h : n < 256) : (UInt8.ofNat n).toNat = n := by
  rw [UInt8.toNat_ofNat', Nat.mod_eq_of_lt h]

theorem isContinuation_byte (n : Nat) : isContinuation (UInt8.ofNat (n % 64 + 128)) = true := by
  rw [isContinuation_iff, toNat_byte (by omega)]
  omega

/-- The encoding of a character is read as this character, whatever follows. -/
theorem utf8Decoder_encodeChar (c : Char) :
    ∃ b tail, String.utf8EncodeChar c = b :: tail ∧
      ∀ rest, utf8Decoder b (tail ++ rest) = .char c tail.length := by
  have hvalid : c.val.toNat < 0xd800 ∨ 0xe000 ≤ c.val.toNat ∧ c.val.toNat < 0x110000 := by
    rcases c.valid with h | ⟨h, h'⟩
    · exact .inl h
    · exact .inr ⟨h, h'⟩
  have hchar {n : Nat} (h : n = c.val.toNat) : Char.ofNat n = c := h ▸ c.ofNat_toNat
  unfold String.utf8EncodeChar
  generalize c.val.toNat = n at hvalid hchar
  dsimp only
  split
  · next h =>
    refine ⟨_, _, rfl, fun rest ↦ ?_⟩
    have hb : (UInt8.ofNat n).toNat = n := toNat_byte (by omega)
    rw [List.nil_append, utf8Decoder_one (by omega), hchar hb]
    rfl
  split
  · next h h' =>
    refine ⟨_, _, rfl, fun rest ↦ ?_⟩
    have hb : (UInt8.ofNat (n / 64 % 32 + 192)).toNat = n / 64 + 192 := by
      rw [toNat_byte (by omega)]; omega
    have hc : (UInt8.ofNat (n % 64 + 128)).toNat = n % 64 + 128 := toNat_byte (by omega)
    rw [List.singleton_append, utf8Decoder_two (by omega) (isContinuation_byte n), hchar (by omega)]
    rfl
  split
  · next h h' h'' =>
    refine ⟨_, _, rfl, fun rest ↦ ?_⟩
    have hb : (UInt8.ofNat (n / 4096 % 16 + 224)).toNat = n / 4096 + 224 := by
      rw [toNat_byte (by omega)]; omega
    have hc : (UInt8.ofNat (n / 64 % 64 + 128)).toNat = n / 64 % 64 + 128 := toNat_byte (by omega)
    have hd : (UInt8.ofNat (n % 64 + 128)).toNat = n % 64 + 128 := toNat_byte (by omega)
    rw [List.cons_append, List.singleton_append, utf8Decoder_three (by omega)
      (isSecond_of (isContinuation_byte _) (by omega) (by omega) (by omega) (by omega))
      (isContinuation_byte n), hchar (by omega)]
    rfl
  · next h h' h'' =>
    refine ⟨_, _, rfl, fun rest ↦ ?_⟩
    have hb : (UInt8.ofNat (n / 262144 % 8 + 240)).toNat = n / 262144 + 240 := by
      rw [toNat_byte (by omega)]; omega
    have hc : (UInt8.ofNat (n / 4096 % 64 + 128)).toNat = n / 4096 % 64 + 128 :=
      toNat_byte (by omega)
    have hd : (UInt8.ofNat (n / 64 % 64 + 128)).toNat = n / 64 % 64 + 128 := toNat_byte (by omega)
    have he : (UInt8.ofNat (n % 64 + 128)).toNat = n % 64 + 128 := toNat_byte (by omega)
    rw [List.cons_append, List.cons_append, List.singleton_append, utf8Decoder_four (by omega)
      (isSecond_of (isContinuation_byte _) (by omega) (by omega) (by omega) (by omega))
      (isContinuation_byte _) (isContinuation_byte n), hchar (by omega)]
    rfl

/-- Text in UTF-8 is read as this text, whatever follows. -/
theorem lossy_utf8_append (text : Text) (rest : List UInt8) :
    utf8Decoder.lossy (text.utf8 ++ rest) = text ++ utf8Decoder.lossy rest := by
  induction text with
  | nil => rfl
  | cons c text ih =>
    obtain ⟨b, tail, hchar, hdecoder⟩ := utf8Decoder_encodeChar c
    have hutf8 : Text.utf8 (c :: text) ++ rest = b :: (tail ++ (Text.utf8 text ++ rest)) := by
      simp [Text.utf8, hchar]
    rw [hutf8, Decoder.lossy, hdecoder]
    simp only [List.drop_left, ih, List.cons_append]

theorem lossy_utf8 (text : Text) : lossy .utf8 text.utf8 = text := by
  have h := lossy_utf8_append text []
  rw [List.append_nil, Decoder.lossy, List.append_nil] at h
  exact h

theorem strict_utf8 (text : Text) : strict .utf8 text.utf8 = .ok text := by
  have hdecoder (codec : Text) (position : Nat) :
      utf8Decoder.strict codec position text.utf8 = .ok text := by
    induction text generalizing position with
    | nil => rw [Text.utf8, List.flatMap_nil, Decoder.strict]
    | cons c text ih =>
      obtain ⟨b, tail, hchar, hstep⟩ := utf8Decoder_encodeChar c
      have hutf8 : Text.utf8 (c :: text) = b :: (tail ++ Text.utf8 text) := by
        simp [Text.utf8, hchar]
      rw [hutf8, Decoder.strict, hstep]
      simp only [List.drop_left, ih]
      rfl
  exact hdecoder "utf-8" 0

theorem strict_codec_utf8 (text : Text) :
    (codec .utf8).strict text.utf8 = .ok (Symbol.ofText text) := by
  rw [codec]
  dsimp only
  rw [strict_utf8]

section Named

variable [Platform]

/-- Bytes of any kind are read as UTF-8 under its name, wrong ones being replaced. -/
theorem decodeLossy_bytes (bytes : List UInt8) :
    decodeLossy "utf-8" bytes = .ok (lossy .utf8 bytes) := by
  have hempty : (codec .utf8).lossy [] = .ok [] := congrArg Except.ok (lossy_utf8 [])
  rw [decodeLossy, decodeNamed_of_known (by decide) (by decide) hempty]
  rfl

theorem decodeStrict_utf8 (text : Text) :
    decodeStrict "utf-8" text.utf8 = .ok (Symbol.ofText text) := by
  rw [decodeStrict, decodeNamed_of_known (by decide) (by decide) (strict_codec_utf8 []),
    strict_codec_utf8]
  rfl

end Named

end Charset

namespace Symbol

theorem display_ofText (text : Text) : display (ofText text) = text := by
  rw [display, ofText, List.map_map]
  exact List.map_id text

theorem toText_ofText (text : Text) : toText (ofText text) = text := by
  have hbytes : (ofText text).flatMap bytes = text.utf8 := by
    simp [ofText, Text.utf8, List.flatMap_map, bytes]
  rw [toText, hbytes, Charset.lossy_utf8]

end Symbol

end MailGateway
