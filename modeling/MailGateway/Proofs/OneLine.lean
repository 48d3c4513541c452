import Mathlib.Data.Nat.Digits.Defs
import MailGateway.Proofs.Assembly
import MailGateway.Proofs.FieldWords
import MailGateway.Proofs.NamedCharsets
import MailGateway.Proofs.Results

/-!
# Texts on one line

An answer is one line, so no text that is put into it may hold a carriage return or a line feed.  Text of
a client is shown in quotes, and quotes write both as escapes; numbers are digits; the charset of an
encoded word comes out of one line of its subject.  So every error is worded on one line that a mail ends
in after it has been read, provided that the codecs of the platform word their failures on one line.
-/

namespace MailGateway

/-! ## Texts -/

namespace Text

/-- Whether a character is a carriage return or a line feed. -/
def isBreak (c : Char) : Bool :=
  c == '\r' || c == '\n'

/-- A text without carriage returns and line feeds. -/
def OneLine (text : Text) : Prop :=
  ∀ c ∈ text, isBreak c = false

instance (text : Text) : Decidable text.OneLine :=
  List.decidableBAll _ text

@[simp]
theorem oneLine_nil : OneLine [] := List.forall_mem_nil _

@[simp]
theorem oneLine_cons {c : Char} {text : Text} :
    OneLine (c :: text) ↔ isBreak c = false ∧ text.OneLine :=
  List.forall_mem_cons

@[simp]
theorem oneLine_append {first second : Text} :
    OneLine (first ++ second) ↔ first.OneLine ∧ second.OneLine :=
  List.forall_mem_append

theorem oneLine_toDigits {base : Nat} (hbase : 1 < base) (hdigits : base ≤ 16) (n : Nat) :
    OneLine (Nat.toDigits base n) := by
  have hdigit : ∀ digit < 16, OneLine [digit.digitChar] := by decide
  induction n using Nat.strong_induction_on with
  | _ n ih =>
    rcases Nat.lt_or_ge n base with hsmall | hlarge
    · rw [Nat.toDigits_of_lt_base hsmall]
      exact hdigit n (by omega)
    · have hless : n / base < n := Nat.div_lt_self (by omega) hbase
      have hlast : n % base < base := Nat.mod_lt n (by omega)
      rw [Nat.toDigits_of_base_le hbase hlarge, oneLine_append]
      exact ⟨ih _ hless, hdigit _ (by omega)⟩

theorem oneLine_ofNat (n : Nat) : (ofNat n).OneLine :=
  oneLine_toDigits (by decide) (by decide) n

theorem oneLine_hex (width n : Nat) : (hex width n).OneLine := by
  rw [hex, padLeft, oneLine_append]
  refine ⟨?_, oneLine_toDigits (by decide) (by decide) n⟩
  intro c hc
  rw [List.eq_of_mem_replicate hc]
  rfl

/-- A line break between quotes is written as an escape. -/
theorem oneLine_escapeChar {mark : Char} (hmark : isBreak mark = false) (c : Char) :
    (escapeChar mark c).OneLine := by
  unfold escapeChar
  split
  · next hc =>
    have hbreak : isBreak c = false := by
      rcases Bool.or_eq_true_iff.mp hc with hc | hc
      · rw [beq_iff_eq.mp hc]
        exact hmark
      · rw [beq_iff_eq.mp hc]
        rfl
    exact oneLine_cons.mpr ⟨rfl, oneLine_cons.mpr ⟨hbreak, oneLine_nil⟩⟩
  split
  · decide
  split
  · decide
  · next hfeed =>
    split
    · decide
    · next hreturn =>
      split
      · refine oneLine_cons.mpr ⟨?_, oneLine_nil⟩
        rw [isBreak, Bool.eq_false_iff.mpr hfeed, Bool.eq_false_iff.mpr hreturn]
        rfl
      split
      · exact oneLine_append.mpr ⟨by decide, oneLine_hex _ _⟩
      split
      · exact oneLine_append.mpr ⟨by decide, oneLine_hex _ _⟩
      · exact oneLine_append.mpr ⟨by decide, oneLine_hex _ _⟩

/-- Whatever a text holds, it is on one line in quotes. -/
theorem oneLine_quoted (text : Text) : text.quoted.OneLine := by
  have hmark : isBreak text.quoteMark = false := by
    unfold quoteMark
    split <;> rfl
  have hcontent : OneLine (text.flatMap (escapeChar text.quoteMark)) := by
    intro d hd
    obtain ⟨c, -, hmem⟩ := List.mem_flatMap.mp hd
    exact oneLine_escapeChar hmark c d hmem
  exact oneLine_append.mpr ⟨oneLine_cons.mpr ⟨hmark, hcontent⟩, oneLine_cons.mpr ⟨hmark, oneLine_nil⟩⟩

theorem isLineEnd_of_isBreak {c : Char} (h : isBreak c = true) : isLineEnd c = true := by
  rcases Bool.or_eq_true_iff.mp h with hc | hc <;> rw [beq_iff_eq.mp hc] <;> rfl

theorem oneLine_lines (text : Text) : ∀ line ∈ lines text, line.OneLine := by
  induction text using lines.induct with
  | case1 => exact List.forall_mem_nil _
  | case2 rest ih =>
    rw [lines]
    exact List.forall_mem_cons.mpr ⟨oneLine_nil, ih⟩
  | case3 c rest hreturn hend ih =>
    rw [lines, if_pos hend]
    · exact List.forall_mem_cons.mpr ⟨oneLine_nil, ih⟩
    · exact hreturn
  | case4 c rest hreturn hend hnone ih =>
    have hbreak : isBreak c = false := Bool.eq_false_iff.mpr fun h ↦ hend (isLineEnd_of_isBreak h)
    rw [lines, if_neg hend, hnone]
    · exact List.forall_mem_singleton.mpr (oneLine_cons.mpr ⟨hbreak, oneLine_nil⟩)
    · exact hreturn
  | case5 c rest hreturn hend line more hlines ih =>
    have hbreak : isBreak c = false := Bool.eq_false_iff.mpr fun h ↦ hend (isLineEnd_of_isBreak h)
    rw [hlines, List.forall_mem_cons] at ih
    rw [lines, if_neg hend, hlines]
    · exact List.forall_mem_cons.mpr ⟨oneLine_cons.mpr ⟨hbreak, ih.1⟩, ih.2⟩
    · exact hreturn

theorem suffix_of_cutAt? {mark text first rest : Text} (h : cutAt? mark text = some (first, rest)) :
    rest <:+ text := by
  induction text generalizing first with
  | nil =>
    rw [cutAt?] at h
    split at h
    · cases h
      exact List.suffix_refl []
    · cases h
  | cons c text ih =>
    rw [cutAt?] at h
    split at h
    · next hmark =>
      cases h
      rw [after?_eq_some.mp hmark]
      exact List.suffix_append mark rest
    · obtain ⟨⟨found, after⟩, hfound, heq⟩ := Option.map_eq_some_iff.mp h
      cases heq
      exact (ih hfound).trans (List.suffix_cons c text)

theorem OneLine.of_suffix {text rest : Text} (h : text.OneLine) (hrest : rest <:+ text) :
    rest.OneLine :=
  fun c hc ↦ h c (hrest.subset hc)

/-! ### Lower case -/

theorem isBreak_ofNat {code : Nat} (h : 32 ≤ code) : isBreak (Char.ofNat code) = false := by
  have hcode : (Char.ofNat code).toNat = code ∨ (Char.ofNat code).toNat = 0 := by
    by_cases hvalid : code.isValidChar
    · rw [Char.ofNat, dif_pos hvalid]
      exact .inl UInt32.toNat_ofNatLT
    · rw [Char.ofNat, dif_neg hvalid]
      exact .inr rfl
  refine Bool.eq_false_iff.mpr fun hbreak ↦ ?_
  have hcontrol : (Char.ofNat code).toNat = 13 ∨ (Char.ofNat code).toNat = 10 := by
    rcases Bool.or_eq_true_iff.mp hbreak with hc | hc <;> rw [beq_iff_eq.mp hc] <;> decide
  omega

/-- A shift that leads to no control character leads to no break. -/
theorem isBreak_shiftBy {runs : List CaseRun} (hruns : ∀ run ∈ runs, 32 ≤ (run.1 : Int) + run.2.2.2)
    {c : Char} (hc : isBreak c = false) : isBreak (shiftBy runs c) = false := by
  unfold shiftBy
  split
  · next run hrun =>
    have hshift := hruns run (List.mem_of_find?_eq_some hrun)
    have hstart : run.1 ≤ c.toNat := by
      have hholds := List.find?_some hrun
      simp only [Bool.and_eq_true, decide_eq_true_eq] at hholds
      exact hholds.1.1
    exact isBreak_ofNat (by omega)
  · exact hc

theorem isBreak_toLower {c : Char} (hascii : c.toNat < 128) (hc : isBreak c = false) :
    isBreak c.toLower = false := by
  have hall : ∀ n < 128, isBreak (Char.ofNat n) = false → isBreak (Char.ofNat n).toLower = false := by
    decide
  have hchar := hall c.toNat hascii
  rw [Char.ofNat_toNat] at hchar
  exact hchar hc

theorem oneLine_lower {text : Text} (h : text.OneLine) : OneLine (lower text) := by
  have hafter (before : Text) : OneLine (lowerAfter before text) := by
    induction text generalizing before with
    | nil => exact oneLine_nil
    | cons c text ih =>
      obtain ⟨hc, htext⟩ := oneLine_cons.mp h
      rw [lowerAfter]
      refine oneLine_append.mpr ⟨?_, ih htext (c :: before)⟩
      split
      · decide
      split
      · split <;> decide
      · next hdotted _ =>
        refine oneLine_cons.mpr ⟨?_, oneLine_nil⟩
        rw [lowerChar, if_neg hdotted]
        split
        · next hascii => exact isBreak_toLower hascii hc
        · exact isBreak_shiftBy (by decide +kernel) hc
  unfold lower
  split
  · next hascii =>
    intro d hd
    obtain ⟨c, hc, rfl⟩ := List.mem_map.mp hd
    exact isBreak_toLower (decide_eq_true_eq.mp (List.all_eq_true.mp hascii c hc)) (h c hc)
  · exact hafter []

end Text

/-! ## Errors of decoding -/

namespace Charset

theorem oneLine_codec (charset : Charset) (bytes : List UInt8) :
    (charset.reading bytes).codec.OneLine := by
  unfold reading
  cases charset with
  | utf16 =>
    dsimp only
    split
    · decide
    split <;> decide
  | utf16Of order =>
    cases order <;> dsimp only <;> decide
  | _ =>
    dsimp only
    decide

/-- Whether what a decoder found is worded on one line, if it is a defect. -/
def Step.IsOneLine : Step → Prop
  | .char .. => True
  | .bad _ defect => defect.message.OneLine

/-- The customary charsets word what is wrong on one line. -/
theorem decoder_isOneLine (charset : Charset) (bytes : List UInt8) (b : UInt8) (rest : List UInt8) :
    ((charset.reading bytes).decoder b rest).IsOneLine := by
  have hutf8 : (utf8Decoder b rest).IsOneLine := by
    unfold utf8Decoder
    repeat' split
    all_goals first
      | exact trivial
      | change Text.OneLine _; decide
  have hutf16 (order : ByteOrder) : (utf16Decoder order b rest).IsOneLine := by
    unfold utf16Decoder
    dsimp only
    repeat' split
    all_goals first
      | exact trivial
      | change Text.OneLine _; decide
  have htable (table : List Nat) : (tableDecoder table b rest).IsOneLine := by
    unfold tableDecoder
    repeat' split
    all_goals first
      | exact trivial
      | change Text.OneLine _; decide
  cases charset with
  | ascii =>
    change Step.IsOneLine (if b < 0x80 then _ else _)
    split
    · exact trivial
    · change Text.OneLine _
      decide
  | latin1 => exact trivial
  | latin9 => exact htable latin9Table
  | windows1252 => exact htable windows1252Table
  | windows1251 => exact htable windows1251Table
  | koi8r => exact htable koi8rTable
  | utf8 | utf8Marked => exact hutf8
  | utf16 =>
    unfold reading
    dsimp only
    split
    · exact hutf16 .big
    split <;> exact hutf16 .little
  | utf16Of order => cases order <;> exact hutf16 _

/-- A wrong byte is reported under the name of the codec, with what the decoder found. -/
theorem Decoder.strict_isOneLine {decoder : Decoder} (h : ∀ b rest, (decoder b rest).IsOneLine)
    (codec : Text) (position : Nat) (bytes : List UInt8) :
    EndsOnlyIn (fun e ↦ e.codec = codec ∧ e.defect.message.OneLine)
      (decoder.strict codec position bytes) := by
  fun_induction Decoder.strict decoder codec position bytes with
  | case1 => exact endsOnlyIn_ok _
  | case2 _ _ _ _ _ _ ih => exact endsOnlyIn_map _ ih
  | case3 _ b rest extra defect hbad =>
    have hdefect := h b rest
    rw [hbad] at hdefect
    exact endsOnlyIn_error ⟨rfl, hdefect⟩

/-- A decoder whose defects are on one line reports errors on one line. -/
theorem Decoder.keeping_isOneLine {decoder : Decoder} (h : ∀ b rest, (decoder b rest).IsOneLine)
    (codec : Text) (position : Nat) (bytes : List UInt8) :
    EndsOnlyIn (fun e ↦ e.codec = codec ∧ e.defect.message.OneLine)
      (decoder.keeping codec position bytes) := by
  fun_induction Decoder.keeping decoder codec position bytes with
  | case1 => exact endsOnlyIn_ok _
  | case2 _ _ _ _ _ _ ih => exact endsOnlyIn_map _ ih
  | case3 _ b rest extra defect hbad _ =>
    have hdefect := h b rest
    rw [hbad] at hdefect
    exact endsOnlyIn_error ⟨rfl, hdefect⟩
  | case4 _ _ _ _ _ _ _ _ ih => exact endsOnlyIn_map _ ih

/-- Wrong bytes are told by the codec, a place and a reason. -/
theorem DecodeError.oneLine_message {e : DecodeError} (hcodec : e.codec.OneLine)
    (hdefect : e.defect.message.OneLine) : e.message.OneLine := by
  unfold DecodeError.message
  dsimp only
  simp only [Text.oneLine_append]
  refine ⟨⟨⟨⟨⟨by decide, hcodec⟩, by decide⟩, ?_⟩, by decide⟩, hdefect⟩
  split
  · simp only [Text.oneLine_append]
    exact ⟨⟨⟨by decide, Text.oneLine_hex _ _⟩, by decide⟩, Text.oneLine_ofNat _⟩
  · simp only [Text.oneLine_append]
    exact ⟨⟨⟨by decide, Text.oneLine_ofNat _⟩, by decide⟩, Text.oneLine_ofNat _⟩

/-! ### Codecs -/

/-- Whether a codec words on one line what it says about a refusal. -/
def Refusal.IsOneLine : Refusal → Prop
  | .named reason => reason.OneLine
  | .worded text => text.OneLine

/-- Whether a codec words on one line what it says about a failure. -/
def Codec.Failure.IsOneLine : Codec.Failure → Prop
  | .undecodable e => e.message.OneLine
  | .refused refusal => refusal.IsOneLine

/-- A codec that words its failures to decode on one line. -/
structure Codec.SpeaksOneLine (codec : Codec) : Prop where
  strict (bytes : List UInt8) : EndsOnlyIn Codec.Failure.IsOneLine (codec.strict bytes)
  lossy (bytes : List UInt8) : EndsOnlyIn Codec.Failure.IsOneLine (codec.lossy bytes)
  keeping (bytes : List UInt8) : EndsOnlyIn Codec.Failure.IsOneLine (codec.keeping bytes)

/-- The charsets that are known everywhere word their errors on one line. -/
theorem codec_speaksOneLine (charset : Charset) : charset.codec.SpeaksOneLine := by
  have hmessage {bytes : List UInt8} {e : DecodeError}
      (h : e.codec = (charset.reading bytes).codec ∧ e.defect.message.OneLine) : e.message.OneLine :=
    DecodeError.oneLine_message (h.1 ▸ charset.oneLine_codec bytes) h.2
  refine ⟨fun bytes failure hfailure ↦ ?_, fun bytes ↦ endsOnlyIn_ok _, fun bytes failure hfailure ↦ ?_⟩
  · unfold codec at hfailure
    dsimp only at hfailure
    split at hfailure
    · cases hfailure
    · next e he =>
      cases hfailure
      exact hmessage (Decoder.strict_isOneLine (charset.decoder_isOneLine bytes) _ _ _ e he)
  · unfold codec at hfailure
    dsimp only at hfailure
    cases he : charset.keeping bytes with
    | ok symbols =>
      rw [he] at hfailure
      cases hfailure
    | error e =>
      rw [he] at hfailure
      cases hfailure
      exact hmessage (Decoder.keeping_isOneLine (charset.decoder_isOneLine bytes) _ _ _ e he)

theorem undefined_speaksOneLine : Codec.undefined.SpeaksOneLine := by
  have hreason : Codec.Failure.IsOneLine (.refused (.named "UnicodeError: undefined encoding")) := by
    change Text.OneLine _
    decide
  exact ⟨fun _ ↦ endsOnlyIn_error hreason, fun _ ↦ endsOnlyIn_error hreason,
    fun _ ↦ endsOnlyIn_error hreason⟩

/-- An error of decoding under a name. -/
inductive Error.IsOf (name : Text) : Error → Prop
  | nulInName : IsOf name .nulInName
  | unknown : IsOf name (.unknown name)
  | transformation : IsOf name (.transformation name)
  | undecodable {e : DecodeError} (hline : e.message.OneLine) : IsOf name (.undecodable e)
  | refused {refusal : Refusal} (hline : refusal.IsOneLine) : IsOf name (.refused name refusal)

/-- A failure of a codec is reported under the name that it was asked for. -/
theorem Error.IsOf.ofFailure {name : Text} {failure : Codec.Failure} (h : failure.IsOneLine) :
    IsOf name (.ofFailure name failure) := by
  cases failure with
  | undecodable e => exact .undecodable h
  | refused refusal => exact .refused h

/-- A named refusal is on one line exactly if the name is. -/
theorem Error.oneLine_refused_iff {name reason : Text} (h : reason.OneLine) :
    (Error.refused name (.named reason)).message.OneLine ↔ name.OneLine := by
  change Text.OneLine ("decoding" ++ " with '" ++ name ++ "' codec failed (" ++ reason ++ ")") ↔ _
  simp only [Text.oneLine_append]
  constructor
  · rintro ⟨⟨⟨⟨-, hname⟩, -⟩, -⟩, -⟩
    exact hname
  · intro hname
    exact ⟨⟨⟨⟨⟨by decide, by decide⟩, hname⟩, by decide⟩, h⟩, by decide⟩

/-- An error is on one line if the name of its charset is. -/
theorem Error.IsOf.oneLine_message {name : Text} {e : Error} (h : e.IsOf name) (hname : name.OneLine) :
    e.message.OneLine := by
  cases h with
  | nulInName => decide
  | unknown => exact Text.oneLine_append.mpr ⟨by decide, hname⟩
  | transformation =>
    exact Text.oneLine_append.mpr ⟨Text.oneLine_append.mpr ⟨by decide, hname⟩, by decide⟩
  | undecodable hline => exact hline
  | @refused refusal hline =>
    cases refusal with
    | worded text => exact hline
    | named reason => exact (oneLine_refused_iff hline).mpr hname

end Charset

/-- Whether the codecs of the platform word their failures to decode on one line. -/
def Platform.SpeaksOneLine [Platform] : Prop :=
  ∀ name codec, Platform.codec? name = some codec → codec.SpeaksOneLine

namespace Charset

variable [Platform]

/-- Whatever codec a name stands for, it words its refusals on one line. -/
theorem speaksOneLine_of_meaning (hplatform : Platform.SpeaksOneLine) {name : Text} {codec : Codec}
    (h : meaning name = .codec codec) : codec.SpeaksOneLine := by
  unfold meaning at h
  split at h
  · next known _ =>
    cases known with
    | charset charset =>
      cases h
      exact charset.codec_speaksOneLine
    | transformation => cases h
    | undefined =>
      cases h
      exact undefined_speaksOneLine
  · split at h
    · next codec hcodec =>
      cases h
      exact hplatform _ codec hcodec
    · cases h

section Named

variable (hplatform : Platform.SpeaksOneLine) (name : Text) (bytes : List UInt8)
include hplatform

/-- Decoding ends in errors under the name of its charset. -/
theorem decodeNamed_endsOnlyIn {α : Type} {decode : Codec → List UInt8 → Except Codec.Failure (List α)}
    (hdecode : ∀ codec : Codec, codec.SpeaksOneLine →
      ∀ bytes, EndsOnlyIn Codec.Failure.IsOneLine (decode codec bytes)) :
    EndsOnlyIn (Error.IsOf name) (decodeNamed decode name bytes) := by
  intro e he
  cases decodeNamed_eq_error_iff.mp he with
  | nul => exact .nulInName
  | codec _ _ hmeaning hfailure =>
    exact .ofFailure (hdecode _ (speaksOneLine_of_meaning hplatform hmeaning) bytes _ hfailure)
  | transformation => exact .transformation
  | unknown => exact .unknown

theorem decodeLossy_endsOnlyIn : EndsOnlyIn (Error.IsOf name) (decodeLossy name bytes) :=
  decodeNamed_endsOnlyIn hplatform name bytes fun _ h ↦ h.lossy

theorem decodeStrict_endsOnlyIn : EndsOnlyIn (Error.IsOf name) (decodeStrict name bytes) :=
  decodeNamed_endsOnlyIn hplatform name bytes fun _ h ↦ h.strict

theorem decodeKeeping_endsOnlyIn : EndsOnlyIn (Error.IsOf name) (decodeKeeping name bytes) :=
  decodeNamed_endsOnlyIn hplatform name bytes fun _ h ↦ h.keeping

end Named

end Charset

/-! ## Charsets of encoded words -/

namespace Mail.Subject

/-- A piece whose charset has a name on one line, if it is an encoded word. -/
def Piece.HasPlainName : Piece → Prop
  | .plain _ => True
  | .word w => w.charset.OneLine

theorem takeWord?_oneLine {text rest : Text} {word : Word} (h : takeWord? text = some (word, rest))
    (htext : text.OneLine) : word.charset.OneLine ∧ rest.OneLine := by
  unfold takeWord? at h
  split at h
  · cases h
  · next inner hstart =>
    rw [Text.after?_eq_some] at hstart
    subst hstart
    obtain ⟨-, hinner⟩ := Text.oneLine_append.mp htext
    split at h
    · next charset letter content hcut =>
      obtain ⟨mark, rfl, -⟩ := Text.cut_eq_some.mp hcut
      simp only [Text.oneLine_append, Text.oneLine_cons] at hinner
      obtain ⟨hcharset, -, -, -, hafter⟩ := hinner
      split at h
      · next hcontent =>
        split at h
        · cases h
        · cases h
          exact ⟨Text.oneLine_lower hcharset, hafter.of_suffix (Text.suffix_of_cutAt? hcontent)⟩
      · cases h
    · cases h

theorem split_oneLine {text : Text} (htext : text.OneLine) :
    ∀ entry ∈ (split text).2, entry.1.charset.OneLine := by
  induction text using split.induct with
  | case1 =>
    rw [split]
    exact List.forall_mem_nil _
  | case2 c text word rest htaken plain more hsplit ih =>
    obtain ⟨hcharset, hrest⟩ := takeWord?_oneLine htaken htext
    rw [split, htaken]
    exact List.forall_mem_cons.mpr ⟨hcharset, ih hrest⟩
  | case3 c text htaken plain more hsplit ih =>
    rw [split, htaken]
    exact ih (Text.oneLine_cons.mp htext).2

theorem linePieces_hasPlainName {line : Text} (hline : line.OneLine) :
    ∀ piece ∈ linePieces line, piece.HasPlainName := by
  have hplain (text : Text) : ∀ piece ∈ plainPieces text, piece.HasPlainName := by
    unfold plainPieces
    split
    · exact List.forall_mem_nil _
    · exact List.forall_mem_singleton.mpr trivial
  unfold linePieces
  refine List.forall_mem_append.mpr ⟨hplain _, ?_⟩
  intro piece hpiece
  obtain ⟨⟨word, plain⟩, hentry, hpiece⟩ := List.mem_flatMap.mp hpiece
  rcases List.mem_cons.mp hpiece with rfl | hpiece
  · exact split_oneLine hline _ hentry
  · exact hplain plain piece hpiece

theorem dropBlank_subset (afterWord : Bool) (pieces : List Piece) :
    dropBlank afterWord pieces ⊆ pieces := by
  induction afterWord, pieces using dropBlank.induct with
  | case1 afterWord piece next rest hblank ih =>
    rw [dropBlank, if_pos hblank]
    exact List.subset_cons_of_subset piece ih
  | case2 afterWord piece next rest hblank ih =>
    rw [dropBlank, if_neg hblank]
    exact List.cons_subset_cons piece ih
  | case3 afterWord pieces hfew =>
    rw [dropBlank]
    · exact List.Subset.refl pieces
    · exact hfew

/-- Charsets of a subject are without line breaks: words are looked for line by line. -/
theorem pieces_hasPlainName (subject : Text) : ∀ piece ∈ pieces subject, piece.HasPlainName := by
  intro piece hpiece
  obtain ⟨line, hline, hpiece⟩ := List.mem_flatMap.mp (dropBlank_subset _ _ hpiece)
  exact linePieces_hasPlainName (subject.oneLine_lines line hline) piece hpiece

/-- A chunk whose charset has a name on one line, if it has one. -/
def Chunk.HasPlainName (chunk : Chunk) : Prop :=
  ∀ name ∈ chunk.charset, name.OneLine

theorem Piece.chunk_hasPlainName {piece : Piece} (h : piece.HasPlainName) {chunk : Chunk}
    (hchunk : piece.chunk = .ok chunk) : chunk.HasPlainName := by
  unfold Piece.chunk at hchunk
  split at hchunk
  · cases hchunk
    exact fun _ ↦ nofun
  · cases hchunk
    rintro _ ⟨⟩
    exact h
  · split at hchunk
    · cases hchunk
      rintro _ ⟨⟩
      exact h
    · cases hchunk

theorem Piece.chunk_endsOnlyIn (piece : Piece) : EndsOnlyIn (·.message.OneLine) piece.chunk := by
  unfold Piece.chunk
  split
  · exact endsOnlyIn_ok _
  · exact endsOnlyIn_ok _
  · split
    · exact endsOnlyIn_ok _
    · exact endsOnlyIn_error (by decide)

theorem merge_hasPlainName {chunks : List Chunk} (h : ∀ chunk ∈ chunks, chunk.HasPlainName) :
    ∀ chunk ∈ merge chunks, chunk.HasPlainName := by
  induction chunks with
  | nil => exact h
  | cons first rest ih =>
    obtain ⟨hfirst, hrest⟩ := List.forall_mem_cons.mp h
    have ih := ih hrest
    rw [merge]
    split
    · exact List.forall_mem_singleton.mpr hfirst
    · next next more hmerged =>
      rw [hmerged] at ih
      split
      · exact List.forall_mem_cons.mpr ⟨hfirst, (List.forall_mem_cons.mp ih).2⟩
      · exact List.forall_mem_cons.mpr ⟨hfirst, ih⟩

end Mail.Subject

/-! ## Errors of the gateway -/

/-- Whether a fault is worded on one line, if it is an error of the gateway. -/
def Fault.IsOneLine : Fault → Prop
  | .gateway e => e.message.OneLine
  | .field _ | .charset _ | .charsetName _ | .pattern _ | .config _ | .unsupported .. | .external _ =>
    True

theorem Fault.IsOfText.isOneLine {fault : Fault} (h : fault.IsOfText) : fault.IsOneLine := by
  cases h with
  | invalidMediaType value | invalidMediaParameter value =>
    exact Text.oneLine_append.mpr ⟨by decide, value.oneLine_quoted⟩
  | field | charset => trivial
  | _ => change Text.OneLine _; decide

namespace Mail.Subject

theorem oneLine_invalidEncodedWord (subject : Text) {cause : WordError} (h : cause.message.OneLine) :
    (Fault.gateway (.invalidEncodedWord subject cause)).IsOneLine := by
  change Text.OneLine (_ ++ subject.quoted ++ _ ++ cause.message)
  simp only [Text.oneLine_append]
  exact ⟨⟨⟨by decide, subject.oneLine_quoted⟩, by decide⟩, h⟩

theorem oneLine_officialName {name : Text} (h : name.OneLine) : (officialName name).OneLine := by
  have hknown : ∀ entry ∈ officialNames, entry.2.OneLine := by decide +kernel
  unfold officialName
  cases hlookup : officialNames.lookup name with
  | none => exact h
  | some official =>
    obtain ⟨before, after, hnames, -⟩ := List.lookup_eq_some_iff.mp hlookup
    exact hknown (name, official) (hnames ▸ List.mem_append_right before List.mem_cons_self)

theorem oneLine_inputCodec {name : Text} (h : name.OneLine) : (inputCodec name).OneLine := by
  unfold inputCodec
  split
  · decide
  split
  · decide
  split
  · decide
  · exact h

theorem oneLine_outputCodec {name : Text} (h : name.OneLine) : (outputCodec name).OneLine := by
  unfold outputCodec
  split
  · decide
  · exact oneLine_inputCodec h

/-- A charset fault shows the subject between quotes and a name on one line. -/
theorem charsetFault_isOneLine {name : Text} {e : Charset.Error} (h : e.IsOf name) (hname : name.OneLine)
    (subject : Text) : (charsetFault subject e).IsOneLine := by
  have hmessage := h.oneLine_message hname
  cases h with
  | nulInName | refused => trivial
  | unknown | transformation | undecodable => exact oneLine_invalidEncodedWord subject hmessage

section Decoding

variable [Platform] (hplatform : Platform.SpeaksOneLine)

theorem checkWritable_isOneLine {name : Text} (hname : name.OneLine) (subject : Text)
    (symbols : List Symbol) :
    EndsOnlyIn (fun e ↦ (charsetFault subject e).IsOneLine) (Charset.checkWritable name symbols) := by
  unfold Charset.checkWritable
  split
  · exact endsOnlyIn_mapError fun _ ↦ trivial
  · exact endsOnlyIn_error (oneLine_invalidEncodedWord subject (Text.oneLine_append.mpr
      ⟨Text.oneLine_append.mpr ⟨by decide, hname⟩, by decide⟩))
  · exact endsOnlyIn_error (charsetFault_isOneLine .unknown hname subject)

include hplatform

theorem decodeBytes_isOneLine {name : Text} (h : name.OneLine) (subject : Text) (bytes : List UInt8) :
    EndsOnlyIn (fun e ↦ (charsetFault subject e).IsOneLine) (decodeBytes name bytes) := by
  unfold decodeBytes
  split
  · exact endsOnlyIn_ok _
  apply endsOnlyIn_bind
  · intro e he
    exact charsetFault_isOneLine (Charset.decodeStrict_endsOnlyIn hplatform _ _ e he)
      (oneLine_inputCodec h) subject
  intro symbols
  apply endsOnlyIn_bind (checkWritable_isOneLine (oneLine_outputCodec h) subject symbols)
  intro _
  exact endsOnlyIn_ok _

/-- A chunk that cannot be decoded is an error on one line. -/
theorem Chunk.run_isOneLine {chunk : Chunk} (h : chunk.HasPlainName) (subject : Text) :
    EndsOnlyIn Fault.IsOneLine (chunk.run subject) := by
  have hname : Text.OneLine (chunk.charset.getD asciiName) := by
    cases hcharset : chunk.charset with
    | none => decide
    | some name => exact h name hcharset
  unfold Chunk.run
  dsimp only
  split
  · split
    · exact endsOnlyIn_ok _
    · next e he =>
      exact endsOnlyIn_error
        (decodeBytes_isOneLine hplatform (oneLine_officialName hname) subject _ e he)
  · exact endsOnlyIn_error trivial

/-- Decoding a subject ends in no error whose wording has a break: the subject is shown in quotes, and the
charset of every encoded word has a name on one line. -/
theorem decode_isOneLine (subject : Text) : EndsOnlyIn Fault.IsOneLine (decode subject) := by
  have hpieces : EndsOnlyIn (·.message.OneLine) ((pieces subject).mapM Piece.chunk) :=
    endsOnlyIn_mapM fun piece _ ↦ piece.chunk_endsOnlyIn
  unfold decode
  split
  · split
    · next e he => exact endsOnlyIn_error (oneLine_invalidEncodedWord subject (hpieces e he))
    · next chunks hchunks =>
      have hnames : ∀ chunk ∈ merge chunks, chunk.HasPlainName := by
        refine merge_hasPlainName fun chunk hchunk ↦ ?_
        obtain ⟨piece, hpiece, hread⟩ := exists_of_mem_mapM hchunks hchunk
        exact Piece.chunk_hasPlainName (pieces_hasPlainName subject piece hpiece) hread
      apply endsOnlyIn_bind (endsOnlyIn_mapM fun chunk hchunk ↦
        Chunk.run_isOneLine hplatform (hnames chunk hchunk) subject)
      intro runs
      exact endsOnlyIn_ok _
  · exact endsOnlyIn_ok subject

end Decoding

end Mail.Subject

end MailGateway
