import MailGateway.Mail.Subject
import MailGateway.Proofs.Results
import MailGateway.Proofs.TransferEncoding
import MailGateway.Proofs.Utf8

/-!
# Written encoded words

Encoded words in UTF-8 as writers put them, in either encoding and with the name of the charset in any
letter case.  A word is taken up to its end mark whatever follows, since its content has no question mark,
so a line of words with plain text between them is taken apart into exactly these.  Words that only blanks
separate carry one text together: their bytes are joined before they are decoded, and a character may be
split between two words.
-/

namespace MailGateway

namespace Text

/-- The characters of bytes below 256 are written as these bytes. -/
theorem latinBytes_ofBytes (bytes : List UInt8) :
    latinBytes (bytes.map fun b ↦ Char.ofNat b.toNat) = bytes := by
  have hbyte : ∀ n < 256, (Char.ofNat n).toNat = n := by decide +kernel
  induction bytes with
  | nil => rfl
  | cons b bytes ih =>
    have hb := b.toNat_lt
    have hvalid := hbyte b.toNat hb
    rw [latinBytes] at ih ⊢
    rw [List.map_cons, List.flatMap_cons, ih, hvalid, if_pos hb, UInt8.ofNat_toNat]
    rfl

theorem cutAt?_append {α : Type} [BEq α] [LawfulBEq α] {a b : α} {text : List α}
    (h : ∀ c ∈ text, c ≠ a) (rest : List α) :
    cutAt? [a, b] (text ++ a :: b :: rest) = some (text, rest) := by
  induction text with
  | nil => simp [cutAt?, after?]
  | cons c text ih =>
    have hc : ¬a = c := fun hac ↦ h c List.mem_cons_self hac.symm
    have ih := ih fun d hd ↦ h d (List.mem_cons_of_mem _ hd)
    rw [List.cons_append, cutAt?, ih]
    simp [after?, hc]

/-- A text without line ends is one line. -/
theorem lines_eq_singleton {text : Text} (hne : text ≠ []) (h : ∀ c ∈ text, isLineEnd c = false) :
    lines text = [text] := by
  induction text with
  | nil => exact absurd rfl hne
  | cons c text ih =>
    have hc := h c List.mem_cons_self
    have hcr : c ≠ '\r' := by
      rintro rfl
      cases hc
    rw [lines]
    · rw [hc]
      cases text with
      | nil => rfl
      | cons d text =>
        rw [ih (List.cons_ne_nil _ _) fun d hd ↦ h d (List.mem_cons_of_mem _ hd)]
        rfl
    · exact fun _ hc _ ↦ hcr hc

end Text

namespace Mail.Subject

open Transfer (Base64.encode)
open Transfer.QuotedPrintable (WordPiece)

/-! ## What is written -/

/-- The content of an encoded word: pieces in quoted-printable, or bytes in base64. -/
inductive Content where
  | quoted (pieces : List WordPiece)
  | base64 (bytes : List UInt8)

namespace Content

def encoding : Content → WordEncoding
  | quoted _ => .quoted
  | base64 _ => .base64

def written : Content → List UInt8
  | quoted pieces => pieces.flatMap WordPiece.written
  | base64 bytes => Base64.encode bytes

def carried : Content → List UInt8
  | quoted pieces => pieces.flatMap WordPiece.carried
  | base64 bytes => bytes

def text (content : Content) : Text :=
  content.written.map fun b ↦ Char.ofNat b.toNat

end Content

/-- An encoded word in UTF-8. -/
structure WrittenWord where
  charset : Text
  letter : Char
  content : Content
  lower_charset : charset.map Char.toLower = "utf-8".toList
  ofLetter?_letter : WordEncoding.ofLetter? letter = some content.encoding

namespace WrittenWord

def text (word : WrittenWord) : Text :=
  '=' :: '?' :: (word.charset ++ '?' :: word.letter :: '?' :: (word.content.text ++ ['?', '=']))

def word (word : WrittenWord) : Word :=
  ⟨"utf-8", word.content.encoding, word.content.text⟩

end WrittenWord

def WrittenWord.ofPieces (pieces : List WordPiece) : WrittenWord where
  charset := "utf-8"
  letter := 'q'
  content := .quoted pieces
  lower_charset := by decide
  ofLetter?_letter := rfl

/-- The text of words with plain text after each of them. -/
def writtenWords (words : List (WrittenWord × Text)) : Text :=
  words.flatMap fun (word, plain) ↦ word.text ++ plain

/-! ## Characters of words -/

/-- What is written in a word can be seen, and is no question mark. -/
theorem Content.written_visible (content : Content) :
    ∀ b ∈ content.written, 33 ≤ b.toNat ∧ b.toNat ≤ 126 ∧ b.toNat ≠ 63 := by
  cases content with
  | quoted pieces =>
    have hhex : ∀ upper, ∀ n < 16, 33 ≤ (Transfer.QuotedPrintable.hexDigit upper n).toNat ∧
        (Transfer.QuotedPrintable.hexDigit upper n).toNat ≤ 126 ∧
        (Transfer.QuotedPrintable.hexDigit upper n).toNat ≠ 63 := by
      decide
    intro b hb
    obtain ⟨piece, -, hb⟩ := List.mem_flatMap.mp hb
    cases piece with
    | literal c h =>
      obtain rfl := List.mem_singleton.mp hb
      obtain ⟨hlow, hhigh, -, hmark, -⟩ := h
      refine ⟨UInt8.le_iff_toNat_le.mp hlow, UInt8.le_iff_toNat_le.mp hhigh, ?_⟩
      exact fun h ↦ hmark (UInt8.toNat_inj.mp h)
    | space =>
      obtain rfl := List.mem_singleton.mp hb
      decide
    | escape c upper =>
      have hc := c.toNat_lt
      simp only [WordPiece.written, List.mem_cons, List.not_mem_nil, or_false] at hb
      rcases hb with rfl | rfl | rfl
      · decide
      · exact hhex upper _ (by omega)
      · exact hhex upper _ (by omega)
  | base64 bytes =>
    have hdigit : ∀ n < 64, 33 ≤ (Transfer.Base64.digit n).toNat ∧
        (Transfer.Base64.digit n).toNat ≤ 126 ∧ (Transfer.Base64.digit n).toNat ≠ 63 := by
      decide
    exact Transfer.Base64.forall_mem_encode hdigit (by decide) bytes

theorem Content.forall_mem {P : Char → Prop}
    (h : ∀ n < 127, 33 ≤ n → n ≠ 63 → P (Char.ofNat n)) (content : Content) :
    ∀ c ∈ content.text, P c := by
  intro c hc
  obtain ⟨b, hb, rfl⟩ := List.mem_map.mp hc
  obtain ⟨hlow, hhigh, hmark⟩ := content.written_visible b hb
  exact h _ (Nat.lt_succ_of_le hhigh) hlow hmark

theorem WrittenWord.mem_charset (word : WrittenWord) : ∀ c ∈ word.charset, c ∈ "uUtTfF-8".toList := by
  intro c hc
  have hlower : c.toLower ∈ "utf-8".toList := by
    rw [← word.lower_charset]
    exact List.mem_map_of_mem hc
  have hascii : ∀ n < 128, (Char.ofNat n).toLower ∈ "utf-8".toList →
      Char.ofNat n ∈ "uUtTfF-8".toList := by
    decide
  by_cases hc : c.toNat < 128
  · have h := hascii c.toNat hc
    rw [Char.ofNat_toNat] at h
    exact h hlower
  · have hcapital : ¬(c.val ≥ 'A'.val ∧ c.val ≤ 'Z'.val) := by
      rintro ⟨-, h⟩
      have h : c.toNat ≤ 90 := h
      omega
    have hsame : c.toLower = c := dif_neg hcapital
    have hsub : "utf-8".toList ⊆ "uUtTfF-8".toList := by decide
    rw [hsame] at hlower
    exact hsub hlower

theorem WrittenWord.mem_letter (word : WrittenWord) : word.letter ∈ "qQbB".toList := by
  have h := word.ofLetter?_letter
  rw [WordEncoding.ofLetter?] at h
  split at h
  · next hq => rcases hq with hq | hq <;> simp [hq]
  split at h
  · next hb => rcases hb with hb | hb <;> simp [hb]
  · cases h

/-- What holds of the characters that can be seen holds of the characters of words. -/
theorem WrittenWord.forall_mem {P : Char → Prop} (h : ∀ n < 127, 33 ≤ n → P (Char.ofNat n))
    (word : WrittenWord) : ∀ c ∈ word.text, P c := by
  have hvisible (c : Char) (hc : c ∈ "=?uUtTfF-8qQbB".toList) : P c := by
    have hall : ∀ c ∈ "=?uUtTfF-8qQbB".toList, 33 ≤ c.toNat ∧ c.toNat < 127 := by simp
    rw [← Char.ofNat_toNat c]
    exact h _ (hall c hc).2 (hall c hc).1
  have hcharset : "uUtTfF-8".toList ⊆ "=?uUtTfF-8qQbB".toList := by decide
  have hletter : "qQbB".toList ⊆ "=?uUtTfF-8qQbB".toList := by decide
  intro c hc
  simp only [text, List.mem_cons, List.mem_append, List.not_mem_nil, or_false] at hc
  rcases hc with rfl | rfl | hc | rfl | rfl | rfl | hc | rfl | rfl
  · exact hvisible _ (by decide)
  · exact hvisible _ (by decide)
  · exact hvisible c (hcharset (word.mem_charset c hc))
  · exact hvisible _ (by decide)
  · exact hvisible _ (hletter word.mem_letter)
  · exact hvisible _ (by decide)
  · exact word.content.forall_mem (fun n hn hlow _ ↦ h n hn hlow) c hc
  · exact hvisible _ (by decide)
  · exact hvisible _ (by decide)

/-! ## Taking a line apart -/

/-- A word is taken up to its end mark. -/
theorem takeWord?_written (word : WrittenWord) (rest : Text) :
    takeWord? (word.text ++ rest) = some (word.word, rest) := by
  have hstart : Text.after? ['=', '?'] (word.text ++ rest) = some (word.charset ++
      '?' :: word.letter :: '?' :: (word.content.text ++ '?' :: '=' :: rest)) := by
    simp [Text.after?_eq_some, WrittenWord.text]
  have hcharset : ∀ c ∈ word.charset, (c == '?') = false := by
    have hall : ∀ c ∈ "uUtTfF-8".toList, (c == '?') = false := by simp
    exact fun c hc ↦ hall c (word.mem_charset c hc)
  have hcontent : ∀ c ∈ word.content.text, c ≠ '?' := word.content.forall_mem (by decide)
  have hbreak : word.content.text.contains '\n' = false := by
    have hall : ∀ c ∈ word.content.text, c ≠ '\n' := word.content.forall_mem (by decide)
    rw [List.contains_eq_mem, decide_eq_false_iff_not]
    exact fun hmem ↦ hall _ hmem rfl
  have hname : Text.lower word.charset = "utf-8".toList := by
    have hall : ∀ c ∈ "uUtTfF-8".toList, c.toNat < 128 := by simp
    rw [Text.lower_ascii fun c hc ↦ hall c (word.mem_charset c hc), word.lower_charset]
  have hcut (rest : Text) : Text.cut (· == '?') (word.charset ++ '?' :: rest) =
      (word.charset, some rest) := Text.cut_append hcharset (by decide) rest
  rw [takeWord?, hstart]
  simp only [hcut, word.ofLetter?_letter, Text.cutAt?_append hcontent, hbreak,
    hname]
  rfl

theorem takeWord?_eq_none {text : Text} (h : ¬['=', '?'] <+: text) : takeWord? text = none := by
  rw [takeWord?]
  split
  · rfl
  · next rest hstart => exact absurd ⟨rest, (Text.after?_eq_some.mp hstart).symm⟩ h

theorem split_of_takeWord? {text rest : Text} {word : Word} (h : takeWord? text = some (word, rest)) :
    split text = ([], (word, (split rest).1) :: (split rest).2) := by
  cases text with
  | nil => cases h
  | cons c text =>
    rw [split]
    split
    · next word' rest' h' =>
      rw [h] at h'
      cases h'
      rfl
    · next h' =>
      rw [h] at h'
      cases h'

theorem split_cons {c : Char} {text : Text} (h : takeWord? (c :: text) = none) :
    split (c :: text) = (c :: (split text).1, (split text).2) := by
  rw [split]
  split
  · next word rest h' =>
    rw [h] at h'
    cases h'
  · rfl

/-- Whether no encoded word can start in a text. -/
def IsUnmarked (text : Text) : Prop :=
  ¬['=', '?'] <:+: text

instance (text : Text) : Decidable (IsUnmarked text) :=
  inferInstanceAs (Decidable ¬['=', '?'] <:+: text)

theorem not_prefix_of_isUnmarked {c : Char} {plain rest : Text} (hplain : IsUnmarked (c :: plain))
    (hrest : rest.head? ≠ some '?') : ¬['=', '?'] <+: c :: (plain ++ rest) := by
  rintro ⟨more, hmore⟩
  cases plain with
  | nil =>
    obtain ⟨rfl, hrest'⟩ := List.cons.inj hmore
    exact hrest (by rw [← show '?' :: more = rest from hrest']; rfl)
  | cons d plain =>
    obtain ⟨rfl, htail⟩ := List.cons.inj hmore
    obtain ⟨rfl, -⟩ := List.cons.inj htail
    exact hplain ⟨[], plain, rfl⟩

theorem IsUnmarked.tail {c : Char} {plain : Text} (h : IsUnmarked (c :: plain)) : IsUnmarked plain :=
  fun hmark ↦ h (hmark.trans (List.suffix_cons c plain).isInfix)

/-- Plain text without marks stays before the next word. -/
theorem split_append {plain rest : Text} (hplain : IsUnmarked plain)
    (hrest : rest.head? ≠ some '?') :
    split (plain ++ rest) = (plain ++ (split rest).1, (split rest).2) := by
  induction plain with
  | nil => rfl
  | cons c plain ih =>
    rw [List.cons_append, split_cons (takeWord?_eq_none (not_prefix_of_isUnmarked hplain hrest)),
      ih hplain.tail]
    rfl

theorem head?_writtenWords (words : List (WrittenWord × Text)) :
    (writtenWords words).head? ≠ some '?' := by
  cases words with
  | nil => exact fun h ↦ nomatch h
  | cons word words =>
    intro h
    cases h

/-- Words are split as they are written, with the plain text between them. -/
theorem split_writtenWords {words : List (WrittenWord × Text)}
    (h : ∀ word ∈ words, IsUnmarked word.2) :
    split (writtenWords words) = ([], words.map fun (word, plain) ↦ (word.word, plain)) := by
  induction words with
  | nil => rw [writtenWords, List.flatMap_nil, split]; rfl
  | cons first words ih =>
    obtain ⟨word, plain⟩ := first
    have ih := ih fun next hnext ↦ h next (List.mem_cons_of_mem _ hnext)
    have hplain : IsUnmarked plain := h (word, plain) List.mem_cons_self
    have htext : writtenWords ((word, plain) :: words) =
        word.text ++ (plain ++ writtenWords words) := by
      simp [writtenWords]
    rw [htext, split_of_takeWord? (takeWord?_written word _),
      split_append hplain (head?_writtenWords words), ih, List.append_nil]
    rfl

theorem hasWord_append {text : Text} (plain : Text) (h : hasWord text = true) :
    hasWord (plain ++ text) = true := by
  induction plain with
  | nil => exact h
  | cons c plain ih => rw [List.cons_append, hasWord, ih, Bool.or_true]

theorem hasWord_written (word : WrittenWord) (rest : Text) : hasWord (word.text ++ rest) = true := by
  have htake := takeWord?_written word rest
  rw [WrittenWord.text, List.cons_append] at htake ⊢
  rw [hasWord, htake]
  rfl

/-! ## Decoding -/

/-- The chunk of a word in UTF-8. -/
theorem chunk_written (word : WrittenWord) :
    Piece.chunk (.word word.word) = .ok ⟨some "utf-8".toList, word.content.carried⟩ := by
  have hbytes : Text.latinBytes word.content.text = word.content.written :=
    Text.latinBytes_ofBytes word.content.written
  obtain ⟨_, _, content, _, _⟩ := word
  cases content with
  | quoted pieces =>
    have hdecode := Transfer.QuotedPrintable.decodeWord_written pieces
    change Except.ok (Chunk.mk _ (Transfer.QuotedPrintable.decodeWord (Text.latinBytes _))) = _
    rw [hbytes, Content.written, hdecode]
    rfl
  | base64 bytes =>
    have hpadding : Transfer.Base64.missingPadding (Content.base64 bytes).text.length = [] := by
      rw [Content.text, List.length_map, Transfer.Base64.missingPadding]
      exact if_pos (Transfer.Base64.length_encode bytes)
    simp only [WrittenWord.word, Content.encoding, Piece.chunk, hpadding, hbytes, List.append_nil,
      Content.written, Transfer.Base64.decode?_lenient_encode]
    rfl

/-- Bytes of a text in UTF-8 are decoded to this text. -/
theorem run_utf8 [Platform] (subject text : Text) :
    Chunk.run subject ⟨some "utf-8".toList, text.utf8⟩ = .ok ⟨"utf-8", text⟩ := by
  have hofficial : officialName "utf-8" = "utf-8".toList := by decide
  have hdecode : decodeBytes "utf-8" text.utf8 = .ok text := by
    have hknown : "utf-8".toList ≠ unknownBytesName := by decide
    have hinput : inputCodec "utf-8" = "utf-8".toList := by decide
    have houtput : outputCodec "utf-8" = "utf-8".toList := by decide
    have hcharset : Charset.known? "utf-8" = some (.charset .utf8) := by decide
    rw [decodeBytes, if_neg hknown, hinput, houtput, Charset.decodeStrict_utf8]
    change (Charset.checkWritable "utf-8" (Symbol.ofText text) >>= fun _ ↦
      pure (Symbol.display (Symbol.ofText text))) = _
    rw [Charset.checkWritable_of_known hcharset, Symbol.display_ofText]
    rfl
  have hascii : ("utf-8".toList.all fun c ↦ c.toNat < 0x80) = true := by decide
  simp only [Chunk.run, Option.getD_some, hascii, if_true, hofficial, hdecode]

/-! ## Words without text between them -/

/-- Blanks between two encoded words. -/
structure Gap where
  text : Text
  ne_nil : text ≠ []
  isSpacing_of_mem : ∀ c ∈ text, c = ' ' ∨ c = '\t'

theorem Gap.isUnmarked (gap : Gap) : IsUnmarked gap.text := by
  intro hmark
  have hmark : '=' ∈ gap.text := hmark.subset List.mem_cons_self
  rcases gap.isSpacing_of_mem _ hmark with h | h <;> cases h

theorem Gap.isBlank (gap : Gap) : (Piece.plain gap.text).isBlank = true := by
  have hall : gap.text.all Text.isBlank = true := by
    rw [List.all_eq_true]
    intro c hc
    rcases gap.isSpacing_of_mem c hc with rfl | rfl <;> decide
  simp [Piece.isBlank, Piece.written, gap.ne_nil, hall]

def joinedWords (words : List (WrittenWord × Gap)) (last : WrittenWord) : Text :=
  words.flatMap (fun (word, gap) ↦ word.text ++ gap.text) ++ last.text

theorem joinedWords_eq (words : List (WrittenWord × Gap)) (last : WrittenWord) :
    joinedWords words last =
      writtenWords (words.map (fun (word, gap) ↦ (word, gap.text)) ++ [(last, [])]) := by
  simp [joinedWords, writtenWords, List.flatMap_map]

theorem isLineEnd_joinedWords (words : List (WrittenWord × Gap)) (last : WrittenWord) :
    ∀ c ∈ joinedWords words last, Text.isLineEnd c = false := by
  have hword (word : WrittenWord) : ∀ c ∈ word.text, Text.isLineEnd c = false :=
    word.forall_mem (by decide)
  intro c hc
  simp only [joinedWords, List.mem_append, List.mem_flatMap] at hc
  rcases hc with ⟨⟨word, gap⟩, -, hc | hc⟩ | hc
  · exact hword word c hc
  · rcases gap.isSpacing_of_mem c hc with rfl | rfl <;> decide
  · exact hword last c hc

/-- Blanks between words are dropped. -/
theorem dropBlank_words (afterWord : Bool) (words : List (WrittenWord × Gap)) (last : WrittenWord) :
    dropBlank afterWord (words.flatMap (fun (word, gap) ↦ [.word word.word, .plain gap.text]) ++
        [.word last.word]) =
      words.map (fun (word, _) ↦ Piece.word word.word) ++ [.word last.word] := by
  have hdrop (gap : Gap) (word : Word) (rest : List Piece) :
      dropBlank true (.plain gap.text :: .word word :: rest) = dropBlank false (.word word :: rest) := by
    rw [dropBlank, gap.isBlank]
    rfl
  have hkeep (afterWord : Bool) (word : Word) (text : Text) (rest : List Piece) :
      dropBlank afterWord (.word word :: .plain text :: rest) =
        .word word :: dropBlank true (.plain text :: rest) := by
    simp [dropBlank, Piece.isWord]
  induction words generalizing afterWord with
  | nil => rfl
  | cons first words ih =>
    obtain ⟨word, gap⟩ := first
    have ih := ih false
    simp only [List.flatMap_cons, List.cons_append, List.nil_append, List.map_cons, hkeep]
    cases words with
    | nil => exact congrArg (_ :: ·) (hdrop gap last.word [])
    | cons next words => exact congrArg (_ :: ·) ((hdrop gap next.1.word _).trans ih)

theorem pieces_joinedWords (words : List (WrittenWord × Gap)) (last : WrittenWord) :
    pieces (joinedWords words last) =
      words.map (fun (word, _) ↦ Piece.word word.word) ++ [.word last.word] := by
  have hne : joinedWords words last ≠ [] := by
    intro h
    cases (List.append_eq_nil_iff.mp h).2
  have hunmarked : ∀ word ∈ words.map (fun (word, gap) ↦ (word, gap.text)) ++ [(last, [])],
      IsUnmarked word.2 := by
    intro word hword
    rw [List.mem_append, List.mem_map, List.mem_singleton] at hword
    rcases hword with ⟨⟨_, gap⟩, -, rfl⟩ | rfl
    · exact gap.isUnmarked
    · rintro ⟨before, after, h⟩
      simp at h
  have hplain (gap : Gap) : plainPieces gap.text = [.plain gap.text] := by
    rw [plainPieces, if_neg (by simp [gap.ne_nil])]
  have hline : linePieces (joinedWords words last) =
      words.flatMap (fun (word, gap) ↦ [.word word.word, .plain gap.text]) ++ [.word last.word] := by
    have hempty : plainPieces [] = [] := rfl
    rw [linePieces, joinedWords_eq, split_writtenWords hunmarked]
    simp [Text.trimLeft, hempty, List.flatMap_map, hplain]
  rw [pieces, Text.lines_eq_singleton hne (isLineEnd_joinedWords words last), List.flatMap_singleton,
    hline, dropBlank_words]

/-- Chunks of one charset are one chunk. -/
theorem merge_same (charset : Text) (first : List UInt8) (others : List (List UInt8)) :
    merge ((first :: others).map fun bytes ↦ ⟨some charset, bytes⟩) =
      [⟨some charset, (first :: others).flatten⟩] := by
  induction others generalizing first with
  | nil => simp [merge]
  | cons second others ih =>
    rw [List.map_cons, merge, ih]
    simp

/-- A text in UTF-8 that is written in encoded words with blanks between them is decoded to this text,
wherever its bytes are divided and in whichever encoding each part is written. -/
theorem decode_joinedWords [Platform] (text : Text) (words : List (WrittenWord × Gap))
    (last : WrittenWord)
    (h : words.flatMap (fun (word, _) ↦ word.content.carried) ++ last.content.carried = text.utf8) :
    decode (joinedWords words last) = .ok text := by
  obtain ⟨first, others, hall⟩ : ∃ first others, words.map Prod.fst ++ [last] = first :: others := by
    cases words with
    | nil => exact ⟨last, [], rfl⟩
    | cons next words => exact ⟨next.1, _, rfl⟩
  have hpieces : pieces (joinedWords words last) =
      (first :: others).map fun word ↦ Piece.word word.word := by
    rw [pieces_joinedWords, ← hall]
    simp
  have hchunks : (pieces (joinedWords words last)).mapM Piece.chunk =
      .ok ((first :: others).map fun word ↦ ⟨some "utf-8".toList, word.content.carried⟩) := by
    rw [hpieces, List.mapM_map]
    exact mapM_eq_ok fun word _ ↦ chunk_written word
  have hbytes : ((first :: others).map fun word ↦ word.content.carried).flatten = text.utf8 := by
    rw [← hall, ← h]
    simp [List.flatMap, Function.comp_def]
  have hmerge : merge ((first :: others).map fun word ↦
      ⟨some "utf-8".toList, word.content.carried⟩) = [⟨some "utf-8".toList, text.utf8⟩] := by
    have hmerge := merge_same "utf-8" first.content.carried
      (others.map fun word ↦ word.content.carried)
    rw [← List.map_cons (f := fun word : WrittenWord ↦ word.content.carried), List.map_map,
      hbytes] at hmerge
    exact hmerge
  have hword : hasWord (joinedWords words last) = true := by
    cases words with
    | nil =>
      have hlast := hasWord_written last []
      rwa [List.append_nil] at hlast
    | cons next words =>
      rw [joinedWords, List.flatMap_cons, List.append_assoc, List.append_assoc]
      exact hasWord_written next.1 _
  rw [decode, if_pos hword, hchunks]
  dsimp only
  rw [hmerge, List.mapM_cons, run_utf8]
  rfl

/-- The first byte of a character, in quoted-printable. -/
def firstHalf : WrittenWord where
  charset := "UTF-8"
  letter := 'q'
  content := .quoted [.escape 0xc3 true]
  lower_charset := by decide
  ofLetter?_letter := rfl

/-- The second byte of a character, in base64. -/
def secondHalf : WrittenWord where
  charset := "utf-8"
  letter := 'B'
  content := .base64 [0xa9]
  lower_charset := by decide
  ofLetter?_letter := rfl

def spaceAndTab : Gap where
  text := " \t"
  ne_nil := by simp
  isSpacing_of_mem := by simp

section Bare

attribute [local instance] Platform.bare

theorem decode_divided_character :
    firstHalf.content.carried ++ secondHalf.content.carried = Text.utf8 "é" ∧
      joinedWords [(firstHalf, spaceAndTab)] secondHalf = "=?UTF-8?q?=C3?= \t=?utf-8?B?qQ==?=" ∧
      decode (joinedWords [(firstHalf, spaceAndTab)] secondHalf) = .ok "é" :=
  have hbytes : firstHalf.content.carried ++ secondHalf.content.carried = Text.utf8 "é" := by decide
  ⟨hbytes, by decide, decode_joinedWords "é" [(firstHalf, spaceAndTab)] secondHalf hbytes⟩

end Bare

end Mail.Subject

end MailGateway
