import MailGateway.Charset.Basic
import MailGateway.Proofs.Results

/-!
# Decoding under the name of a charset

Names that are known everywhere mean the same on every platform; what any other name means, and what its
codec makes of bytes and texts, is up to the platform.  `decodeNamed_eq_error_iff` lists the ways in which
decoding under a name fails.  The platform decides which of them happens, so what is said about the faults
of mails below is said in terms of the answers of its codecs.
-/

namespace MailGateway.Charset

variable [Platform] {α : Type} {name : Text} {bytes : List UInt8}
  {decode : Codec → List UInt8 → Except Codec.Failure (List α)}

/-- What is known everywhere is known on every platform. -/
theorem meaning_of_known {known : Known} (h : known? name = some known) :
    meaning name = known.meaning := by
  rw [meaning, h]

/-- The ways in which decoding bytes under a name fails. -/
inductive DecodingFails (decode : Codec → List UInt8 → Except Codec.Failure (List α)) (name : Text)
    (bytes : List UInt8) : Error → Prop
  | nul (hnul : name.contains '\x00' = true) : DecodingFails decode name bytes .nulInName
  | codec {codec : Codec} {failure : Codec.Failure} (hnul : name.contains '\x00' = false)
      (hbytes : bytes ≠ []) (hmeaning : meaning name = .codec codec)
      (hdecode : decode codec bytes = .error failure) :
      DecodingFails decode name bytes (.ofFailure name failure)
  | transformation (hnul : name.contains '\x00' = false) (hbytes : bytes ≠ [])
      (hmeaning : meaning name = .transformation) :
      DecodingFails decode name bytes (.transformation name)
  | unknown (hnul : name.contains '\x00' = false) (hbytes : bytes ≠ [])
      (hmeaning : meaning name = .unknown) : DecodingFails decode name bytes (.unknown name)

/-- The only errors of decoding, and when each occurs. -/
theorem decodeNamed_eq_error_iff {e : Error} :
    decodeNamed decode name bytes = .error e ↔ DecodingFails decode name bytes e := by
  constructor
  · intro h
    unfold decodeNamed at h
    split at h
    · next hnul =>
      cases h
      exact .nul hnul
    next hnul =>
    rw [Bool.not_eq_true] at hnul
    split at h
    · cases h
    next hempty =>
    have hbytes : bytes ≠ [] := fun hnil ↦ hempty (List.isEmpty_iff.mpr hnil)
    split at h
    · next codec hmeaning =>
      cases hdecode : decode codec bytes with
      | ok text =>
        rw [hdecode] at h
        cases h
      | error failure =>
        rw [hdecode] at h
        cases h
        exact .codec hnul hbytes hmeaning hdecode
    · next hmeaning =>
      cases h
      exact .transformation hnul hbytes hmeaning
    · next hmeaning =>
      cases h
      exact .unknown hnul hbytes hmeaning
  · intro h
    unfold decodeNamed
    cases h with
    | nul hnul => rw [if_pos hnul]
    | codec hnul hbytes hmeaning hdecode =>
      rw [if_neg (Bool.eq_false_iff.mp hnul), if_neg (by simpa using hbytes), hmeaning]
      dsimp only
      rw [hdecode]
      rfl
    | transformation hnul hbytes hmeaning | unknown hnul hbytes hmeaning =>
      rw [if_neg (Bool.eq_false_iff.mp hnul), if_neg (by simpa using hbytes), hmeaning]

/-- Bytes are decoded by the codec of the charset that their name stands for. -/
theorem decodeNamed_of_known {charset : Charset} (hnul : name.contains '\x00' = false)
    (hname : known? name = some (.charset charset)) (hempty : decode charset.codec [] = .ok [])
    (bytes : List UInt8) :
    decodeNamed decode name bytes = (decode charset.codec bytes).mapError (.ofFailure name) := by
  rw [decodeNamed, if_neg (Bool.eq_false_iff.mp hnul)]
  split
  · next h =>
    rw [List.isEmpty_iff.mp h, hempty]
    rfl
  · rw [meaning_of_known hname]
    rfl

/-- A charset that is known everywhere writes everything that is asked of it. -/
theorem checkWritable_of_known {charset : Charset} (hname : known? name = some (.charset charset))
    (symbols : List Symbol) : checkWritable name symbols = .ok () := by
  rw [checkWritable, meaning_of_known hname]
  rfl

/-! ## Names that forbid decoding -/

/-- Whether a name keeps bytes from being decoded leniently although it is not unknown: there is a NUL in
it, or its codec does not decode the bytes. -/
def IsForbidden (name : Text) (bytes : List UInt8) : Prop :=
  name.contains '\x00' = true ∨
    bytes ≠ [] ∧ ∃ codec failure, meaning name = .codec codec ∧ codec.lossy bytes = .error failure

/-- Decoding is forbidden where its error is no failed lookup. -/
theorem isForbidden_iff :
    IsForbidden name bytes ↔ ∃ e, decodeLossy name bytes = .error e ∧ e.isLookup = false := by
  constructor
  · intro h
    by_cases hnul : name.contains '\x00' = true
    · exact ⟨_, decodeNamed_eq_error_iff.mpr (.nul hnul), rfl⟩
    obtain ⟨hbytes, codec, failure, hmeaning, hdecode⟩ := h.resolve_left hnul
    rw [Bool.not_eq_true] at hnul
    refine ⟨_, decodeNamed_eq_error_iff.mpr (.codec hnul hbytes hmeaning hdecode), ?_⟩
    cases failure <;> rfl
  · rintro ⟨e, he, hlookup⟩
    cases decodeNamed_eq_error_iff.mp he with
    | nul hnul => exact .inl hnul
    | codec hnul hbytes hmeaning hdecode => exact .inr ⟨hbytes, _, _, hmeaning, hdecode⟩
    | transformation | unknown => cases hlookup

/-- Whether bytes cannot be decoded strictly under a name for another reason than that they are wrong or
that the name is unknown: there is a NUL in it, or its codec refuses them. -/
def RefusesBytes (name : Text) (bytes : List UInt8) : Prop :=
  name.contains '\x00' = true ∨
    bytes ≠ [] ∧ ∃ codec refusal, meaning name = .codec codec ∧
      codec.strict bytes = .error (.refused refusal)

/-- Whether the codec of a name refuses to write symbols. -/
def RefusesSymbols (name : Text) (symbols : List Symbol) : Prop :=
  ∃ codec refusal, meaning name = .codec codec ∧ codec.write symbols = .error refusal

/-- Whether an error says neither that a name is unknown nor that bytes are wrong. -/
def Error.isForbidding : Error → Bool
  | .nulInName | .refused .. | .unwritable .. => true
  | .unknown _ | .transformation _ | .unwritableTransformation _ | .undecodable _ => false

/-- A name refuses bytes where its error is none of the handled ones. -/
theorem refusesBytes_iff :
    RefusesBytes name bytes ↔ ∃ e, decodeStrict name bytes = .error e ∧ e.isForbidding = true := by
  constructor
  · intro h
    by_cases hnul : name.contains '\x00' = true
    · exact ⟨_, decodeNamed_eq_error_iff.mpr (.nul hnul), rfl⟩
    obtain ⟨hbytes, codec, refusal, hmeaning, hdecode⟩ := h.resolve_left hnul
    rw [Bool.not_eq_true] at hnul
    exact ⟨_, decodeNamed_eq_error_iff.mpr (.codec hnul hbytes hmeaning hdecode), rfl⟩
  · rintro ⟨e, he, hforbidding⟩
    cases decodeNamed_eq_error_iff.mp he with
    | nul hnul => exact .inl hnul
    | @codec codec failure hnul hbytes hmeaning hdecode =>
      cases failure with
      | undecodable wrong => cases hforbidding
      | refused refusal => exact .inr ⟨hbytes, codec, refusal, hmeaning, hdecode⟩
    | transformation | unknown => cases hforbidding

/-- A name refuses symbols where its error is none of the handled ones. -/
theorem refusesSymbols_iff {symbols : List Symbol} :
    RefusesSymbols name symbols ↔
      ∃ e, checkWritable name symbols = .error e ∧ e.isForbidding = true := by
  unfold RefusesSymbols checkWritable
  cases meaning name with
  | codec codec =>
    cases hwrite : codec.write symbols with
    | ok => simp [hwrite]
    | error refusal => simp [hwrite, Error.isForbidding]
  | transformation | unknown => simp [Error.isForbidding]

end MailGateway.Charset
