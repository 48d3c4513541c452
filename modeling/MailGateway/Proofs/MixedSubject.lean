import MailGateway.Proofs.WrittenWords

/-!
# Subjects of plain and encoded words

A subject of plain words and encoded words with single spaces between them, no two encoded words side by
side.  Without an encoded word it is left as it is.  With one, plain text is read as ASCII: the subject is
decoded to its words exactly if every plain word is ASCII.  A character of Latin-1 above ASCII in a plain
word makes the whole subject undecodable, and one outside of Latin-1 is shown as an escape.

The words are first put into segments, alternately plain text and an encoded word.  A space at every
border keeps them apart: it starts no encoded word, no neighbours are merged, and none is added.
-/

namespace MailGateway

/-! ## ASCII -/

namespace Charset

/-- Whether all bytes are ASCII. -/
def IsAscii (bytes : List UInt8) : Prop :=
  ∀ b ∈ bytes, b < 0x80

theorem strict_ascii_eq_ok_iff {bytes : List UInt8} {text : Text} :
    strict .ascii bytes = .ok text ↔
      IsAscii bytes ∧ text = bytes.map fun b ↦ Char.ofNat b.toNat := by
  have hdecoder (codec : Text) (position : Nat) :
      (reading .ascii bytes).decoder.strict codec position bytes = .ok text ↔
        IsAscii bytes ∧ text = bytes.map fun b ↦ Char.ofNat b.toNat := by
    induction bytes generalizing position text with
    | nil =>
      rw [Decoder.strict]
      simp [IsAscii, eq_comm]
    | cons b bytes ih =>
      rw [Decoder.strict, IsAscii, List.forall_mem_cons]
      by_cases hb : b < 0x80
      · have hstep : (reading .ascii (b :: bytes)).decoder b bytes = .char (Char.ofNat b.toNat) 0 :=
          if_pos hb
        rw [hstep]
        change Except.map _ ((reading .ascii bytes).decoder.strict codec (position + 1 + 0) bytes) = _ ↔ _
        rw [map_eq_ok]
        simp only [ih]
        constructor
        · rintro ⟨_, ⟨hbytes, rfl⟩, rfl⟩
          exact ⟨⟨hb, hbytes⟩, rfl⟩
        · rintro ⟨⟨-, hbytes⟩, rfl⟩
          exact ⟨_, ⟨hbytes, rfl⟩, rfl⟩
      · have hstep : (reading .ascii (b :: bytes)).decoder b bytes = .bad 0 .outsideAscii := if_neg hb
        rw [hstep]
        simp [hb]
  exact hdecoder "ascii" 0

end Charset

namespace Text

/-- Plain text as it is shown beside encoded words: characters outside of Latin-1 are escapes. -/
def escaped (text : Text) : Text :=
  text.latinBytes.map fun b ↦ Char.ofNat b.toNat

theorem escaped_append (a b : Text) : escaped (a ++ b) = escaped a ++ escaped b := by
  rw [escaped, latinBytes, List.flatMap_append, List.map_append]
  rfl

theorem escaped_cons (c : Char) (text : Text) : escaped (c :: text) = escaped [c] ++ escaped text :=
  escaped_append [c] text

theorem latinBytes_singleton {c : Char} (h : c.toNat < 0x100) :
    latinBytes [c] = [UInt8.ofNat c.toNat] := by
  simp [latinBytes, h]

theorem escaped_singleton {c : Char} (h : c.toNat < 0x100) : escaped [c] = [c] := by
  rw [escaped, latinBytes_singleton h, List.map_singleton, UInt8.toNat_ofNat', Nat.mod_eq_of_lt h,
    Char.ofNat_toNat]

/-- An escape starts with a backslash. -/
theorem escaped_singleton_of_not {c : Char} (h : ¬c.toNat < 0x100) :
    ∃ digits, escaped [c] = '\\' :: digits := by
  by_cases hshort : c.toNat < 0x10000
  · exact ⟨_, by simp [escaped, latinBytes, h, hshort]; rfl⟩
  · exact ⟨_, by simp [escaped, latinBytes, h, hshort]; rfl⟩

theorem escaped_eq_self {text : Text} (h : ∀ c ∈ text, c.toNat < 0x100) : escaped text = text := by
  induction text with
  | nil => rfl
  | cons c text ih =>
    rw [escaped_cons, escaped_singleton (h c List.mem_cons_self),
      ih fun d hd ↦ h d (List.mem_cons_of_mem _ hd)]
    rfl

/-- Text is shown as it is only without escapes, whatever follows it. -/
theorem of_escaped_append_eq {text rest other : Text} (h : escaped text ++ rest = text ++ other) :
    (∀ c ∈ text, c.toNat < 0x100) ∧ rest = other := by
  induction text with
  | nil => exact ⟨List.forall_mem_nil _, h⟩
  | cons c text ih =>
    rw [escaped_cons] at h
    by_cases hc : c.toNat < 0x100
    · rw [escaped_singleton hc] at h
      obtain ⟨htext, hrest⟩ := ih (List.cons.inj h).2
      exact ⟨List.forall_mem_cons.mpr ⟨hc, htext⟩, hrest⟩
    · obtain ⟨digits, hdigits⟩ := escaped_singleton_of_not hc
      rw [hdigits] at h
      rw [← (List.cons.inj h).1] at hc
      exact absurd (by decide) hc

theorem isAscii_latinBytes {text : Text} (h : ∀ c ∈ text, c.toNat < 0x80) :
    Charset.IsAscii text.latinBytes := by
  intro b hb
  obtain ⟨c, hc, hb⟩ := List.mem_flatMap.mp hb
  have hlow := h c hc
  rw [if_pos (Nat.lt_trans hlow (by decide)), List.mem_singleton] at hb
  rw [hb, UInt8.lt_iff_toNat_lt, UInt8.toNat_ofNat']
  exact Nat.lt_of_le_of_lt (Nat.mod_le _ _) hlow

theorem lt_of_isAscii_latinBytes {text : Text} (h : Charset.IsAscii text.latinBytes) :
    ∀ c ∈ text, c.toNat < 0x100 → c.toNat < 0x80 := by
  intro c hc hlatin
  have hb : UInt8.ofNat c.toNat ∈ text.latinBytes :=
    List.mem_flatMap.mpr ⟨c, hc, by rw [if_pos hlatin]; exact List.mem_singleton_self _⟩
  have hlow := UInt8.lt_iff_toNat_lt.mp (h _ hb)
  rwa [UInt8.toNat_ofNat', Nat.mod_eq_of_lt hlatin] at hlow

theorem join_cons_cons (text next : Text) (texts : List Text) :
    join " " (text :: next :: texts) = text ++ ' ' :: join " " (next :: texts) := by
  simp [join]

theorem forall_mem_join {P : Char → Prop} (hspace : P ' ') {texts : List Text} :
    (∀ c ∈ join " " texts, P c) ↔ ∀ text ∈ texts, ∀ c ∈ text, P c := by
  induction texts with
  | nil => simp [join]
  | cons text texts ih =>
    cases texts with
    | nil => simp [join]
    | cons next texts =>
      rw [join_cons_cons, List.forall_mem_append, List.forall_mem_cons, ih]
      simp [hspace]

end Text

namespace Mail.Subject

/-! ## What is written -/

/-- An encoded word that carries a text. -/
structure TextWord extends WrittenWord where
  value : Text
  carried_content : content.carried = value.utf8

/-- A word of plain text. -/
structure LiteralWord where
  text : Text
  ne_nil : text ≠ []
  isBlank_of_mem : ∀ c ∈ text, Text.isBlank c = false
  isUnmarked : IsUnmarked text

/-- A word of a subject. -/
inductive Item where
  | literal (word : LiteralWord)
  | encoded (word : TextWord)

/-- The text of a word, given that of encoded words. -/
def Item.text (encodedText : TextWord → Text) : Item → Text
  | literal word => word.text
  | encoded word => encodedText word

/-- A subject of words with single spaces between them. -/
def writtenItems (items : List Item) : Text :=
  Text.join " " (items.map (Item.text fun word ↦ word.toWrittenWord.text))

/-- The text that the words of a subject stand for. -/
def valueOfItems (items : List Item) : Text :=
  Text.join " " (items.map (Item.text TextWord.value))

/-- Whether there is plain text between any two encoded words. -/
def areApart : List Item → Bool
  | .encoded _ :: .encoded _ :: _ => false
  | _ :: items => areApart items
  | [] => true

/-! ## Segments -/

/-- Plain text, or an encoded word. -/
inductive Segment where
  | plain (text : Text)
  | encoded (word : TextWord)

namespace Segment

/-- The text of a segment, given that of encoded words. -/
def text (encodedText : TextWord → Text) : Segment → Text
  | .plain text => text
  | .encoded word => encodedText word

/-- The plain text before the first encoded word. -/
def lead : List Segment → Text
  | .plain text :: _ => text
  | _ => []

/-- The segments from the first encoded word on. -/
def afterLead : List Segment → List Segment
  | .plain _ :: segments => segments
  | segments => segments

theorem flatMap_text_eq (encodedText : TextWord → Text) (segments : List Segment) :
    segments.flatMap (text encodedText) =
      lead segments ++ (afterLead segments).flatMap (text encodedText) := by
  cases segments with
  | nil => rfl
  | cons segment segments => cases segment <;> rfl

theorem afterLead_subset (segments : List Segment) : afterLead segments ⊆ segments := by
  cases segments with
  | nil => exact List.Subset.refl _
  | cons segment segments =>
    cases segment with
    | plain text => exact List.subset_cons_self _ _
    | encoded word => exact List.Subset.refl _

/-- Whether one of the segments is plain text, the other one is an encoded word, and the plain text has a
space at their border. -/
def Meets : Segment → Segment → Prop
  | .plain text, .encoded _ => text.getLast? = some ' '
  | .encoded _, .plain text => text.head? = some ' '
  | _, _ => False

theorem Meets.ne {α : Type} {f : Segment → α} {segment next : Segment} (h : segment.Meets next)
    (hf : ∀ text word, f (.plain text) ≠ f (.encoded word)) : f segment ≠ f next := by
  cases segment with
  | plain text =>
    cases next with
    | plain _ => exact h.elim
    | encoded word => exact hf text word
  | encoded word =>
    cases next with
    | plain text => exact (hf text word).symm
    | encoded _ => exact h.elim

/-- Whether all neighbours meet. -/
inductive Spaced : List Segment → Prop
  | nil : Spaced []
  | single (segment : Segment) : Spaced [segment]
  | cons {segment next : Segment} {segments : List Segment} (hmeets : segment.Meets next)
      (hspaced : Spaced (next :: segments)) : Spaced (segment :: next :: segments)

theorem Spaced.tail {segment : Segment} {segments : List Segment} (h : Spaced (segment :: segments)) :
    Spaced segments := by
  cases h with
  | single _ => exact .nil
  | cons _ hspaced => exact hspaced

/-- After plain text there is an encoded word, if anything. -/
theorem Spaced.after_plain {text : Text} {segments : List Segment}
    (h : Spaced (.plain text :: segments)) :
    segments = [] ∨ ∃ word rest, segments = .encoded word :: rest := by
  cases h with
  | single _ => exact .inl rfl
  | @cons _ next rest hmeets _ =>
    cases next with
    | plain _ => exact hmeets.elim
    | encoded word => exact .inr ⟨word, rest, rfl⟩

/-- Plain text before segments is joined with the plain text that leads them. -/
theorem Spaced.extend {segments : List Segment} {text : Text} (h : Spaced segments)
    (htext : text.getLast? = some ' ') :
    Spaced (.plain (text ++ lead segments) :: afterLead segments) := by
  cases h with
  | nil => exact .single _
  | single segment =>
    cases segment with
    | plain more => exact .single _
    | encoded word =>
      refine .cons ?_ (.single _)
      exact (List.append_nil text).symm ▸ htext
  | @cons segment next _ hmeets hspaced =>
    cases segment with
    | plain more =>
      cases next with
      | plain _ => exact hmeets.elim
      | encoded word =>
        have hmore : more.getLast? = some ' ' := hmeets
        refine .cons ?_ hspaced
        simp [Meets, lead, List.getLast?_append, hmore]
    | encoded word =>
      refine .cons ?_ (.cons hmeets hspaced)
      exact (List.append_nil text).symm ▸ htext

end Segment

open Segment

def Item.segment : Item → Segment
  | literal word => .plain word.text
  | encoded word => .encoded word

def segments : List Item → List Segment
  | [] => []
  | [item] => [item.segment]
  | .literal word :: next :: items =>
    .plain (word.text ++ ' ' :: lead (segments (next :: items))) :: afterLead (segments (next :: items))
  | .encoded word :: next :: items =>
    .encoded word :: .plain (' ' :: lead (segments (next :: items))) :: afterLead (segments (next :: items))

/-- The segments of items make up the same text as the items. -/
theorem flatMap_segments (encodedText : TextWord → Text) (items : List Item) :
    (segments items).flatMap (Segment.text encodedText) =
      Text.join " " (items.map (Item.text encodedText)) := by
  induction items with
  | nil => rfl
  | cons item items ih =>
    cases items with
    | nil => cases item <;> simp [segments, Item.segment, Segment.text, Item.text, Text.join]
    | cons next items =>
      rw [List.map_cons, List.map_cons, Text.join_cons_cons, ← List.map_cons, ← ih,
        flatMap_text_eq _ (segments (next :: items))]
      cases item <;> simp [segments, Segment.text, Item.text]

theorem spaced_segments (items : List Item) : Spaced (segments items) := by
  induction items with
  | nil => exact .nil
  | cons item items ih =>
    cases items with
    | nil => exact .single _
    | cons next items =>
      cases item with
      | literal word =>
        have hextend := ih.extend (List.getLast?_concat : (word.text ++ [' ']).getLast? = some ' ')
        rwa [List.append_assoc] at hextend
      | encoded word => exact .cons rfl (ih.extend (rfl : [' '].getLast? = some ' '))

/-! ## Plain text among encoded words -/

theorem isUnmarked_nil : IsUnmarked [] := by
  intro h
  cases List.eq_nil_of_infix_nil h

/-- A space starts no encoded word, and ends none. -/
theorem isUnmarked_append_space {a b : Text} (ha : IsUnmarked a) (hb : IsUnmarked b) :
    IsUnmarked (a ++ ' ' :: b) := by
  induction a with
  | nil =>
    intro hmark
    rcases List.infix_cons_iff.mp hmark with ⟨rest, hrest⟩ | hmark
    · cases hrest
    · exact hb hmark
  | cons c a ih =>
    intro hmark
    rcases List.infix_cons_iff.mp hmark with hstart | hmark
    · exact not_prefix_of_isUnmarked ha (by simp) hstart
    · exact ih ha.tail hmark

theorem LiteralWord.exists_head (word : LiteralWord) :
    ∃ c rest, word.text = c :: rest ∧ Text.isBlank c = false := by
  obtain ⟨text, hne, hblank, _⟩ := word
  cases text with
  | nil => exact absurd rfl hne
  | cons c text => exact ⟨c, text, rfl, hblank c List.mem_cons_self⟩

theorem LiteralWord.exists_visible (word : LiteralWord) (more : Text) :
    ∃ c ∈ word.text ++ more, Text.isBlank c = false := by
  obtain ⟨c, rest, htext, hvisible⟩ := word.exists_head
  exact ⟨c, by simp [htext], hvisible⟩

theorem lead_segments_literal (word : LiteralWord) (items : List Item) :
    ∃ more, lead (segments (.literal word :: items)) = word.text ++ more := by
  cases items with
  | nil => exact ⟨[], (List.append_nil _).symm⟩
  | cons next items => exact ⟨_, rfl⟩

theorem lead_segments_encoded (word : TextWord) (items : List Item) :
    lead (segments (.encoded word :: items)) = [] := by
  cases items <;> rfl

/-- The plain text before the first encoded word does not start with a blank. -/
theorem trimLeft_lead_segments (items : List Item) :
    Text.trimLeft (lead (segments items)) = lead (segments items) := by
  cases items with
  | nil => rfl
  | cons item items =>
    cases item with
    | literal word =>
      obtain ⟨more, hlead⟩ := lead_segments_literal word items
      obtain ⟨c, rest, htext, hvisible⟩ := word.exists_head
      rw [hlead, htext, List.cons_append, Text.trimLeft, List.dropWhile_cons_of_neg (by simp [hvisible])]
    | encoded word =>
      rw [lead_segments_encoded]
      rfl

theorem isUnmarked_lead {segments : List Segment}
    (h : ∀ text, .plain text ∈ segments → IsUnmarked text) : IsUnmarked (lead segments) := by
  cases segments with
  | nil => exact isUnmarked_nil
  | cons segment segments =>
    cases segment with
    | plain text => exact h text List.mem_cons_self
    | encoded word => exact isUnmarked_nil

/-- Plain text among the segments of a subject begins at its first word, or later. -/
theorem plain_mem_segments_cons {item next : Item} {items : List Item} {text : Text}
    (h : .plain text ∈ segments (item :: next :: items)) :
    text = item.text (fun _ ↦ []) ++ ' ' :: lead (segments (next :: items)) ∨
      .plain text ∈ segments (next :: items) := by
  cases item with
  | literal word =>
    rcases List.mem_cons.mp h with h | h
    · cases h
      exact .inl rfl
    · exact .inr (afterLead_subset _ h)
  | encoded word =>
    rcases List.mem_cons.mp h with h | h
    · cases h
    rcases List.mem_cons.mp h with h | h
    · cases h
      exact .inl rfl
    · exact .inr (afterLead_subset _ h)

theorem isUnmarked_of_mem_segments (items : List Item) :
    ∀ text, .plain text ∈ segments items → IsUnmarked text := by
  have hitem (item : Item) : IsUnmarked (item.text fun _ ↦ []) := by
    cases item with
    | literal word => exact word.isUnmarked
    | encoded word => exact isUnmarked_nil
  induction items with
  | nil => exact fun _ htext ↦ nomatch htext
  | cons item items ih =>
    intro text htext
    cases items with
    | nil =>
      cases item with
      | literal word =>
        cases List.mem_singleton.mp htext
        exact word.isUnmarked
      | encoded word => cases List.mem_singleton.mp htext
    | cons next items =>
      rcases plain_mem_segments_cons htext with rfl | htext
      · exact isUnmarked_append_space (hitem item) (isUnmarked_lead ih)
      · exact ih text htext

theorem visible_of_mem_segments {items : List Item} (h : areApart items = true) :
    ∀ text, .plain text ∈ segments items → ∃ c ∈ text, Text.isBlank c = false := by
  induction items with
  | nil => exact fun _ htext ↦ nomatch htext
  | cons item items ih =>
    intro text htext
    cases items with
    | nil =>
      cases item with
      | literal word =>
        cases List.mem_singleton.mp htext
        simpa using word.exists_visible []
      | encoded word => cases List.mem_singleton.mp htext
    | cons next items =>
      rcases plain_mem_segments_cons htext with rfl | htext
      · cases item with
        | literal word => exact word.exists_visible _
        | encoded word =>
          cases next with
          | encoded other => cases h
          | literal other =>
            obtain ⟨more, hlead⟩ := lead_segments_literal other items
            obtain ⟨c, hc, hvisible⟩ := other.exists_visible more
            exact ⟨c, List.mem_cons_of_mem _ (hlead ▸ hc), hvisible⟩
      · refine ih ?_ text htext
        cases item with
        | literal word => exact h
        | encoded word =>
          cases next with
          | encoded other => cases h
          | literal other => exact h

/-! ## Reading -/

namespace Segment

def piece : Segment → Piece
  | .plain text => .plain text
  | .encoded word => .word word.word

def chunk : Segment → Chunk
  | .plain text => ⟨none, text.latinBytes⟩
  | .encoded word => ⟨some "utf-8", word.content.carried⟩

def run : Segment → Run
  | .plain text => ⟨asciiName, text.escaped⟩
  | .encoded word => ⟨"utf-8", word.value⟩

def written : Segment → Text :=
  text fun word ↦ word.toWrittenWord.text

theorem plainPieces_lead {segments : List Segment} (hne : ∀ text, .plain text ∈ segments → text ≠ []) :
    plainPieces (lead segments) ++ (afterLead segments).map piece = segments.map piece := by
  cases segments with
  | nil => rfl
  | cons segment segments =>
    cases segment with
    | plain text =>
      have htext := hne text List.mem_cons_self
      simp [lead, afterLead, plainPieces, piece, htext]
    | encoded word => rfl

/-- Segments are taken apart into the plain text before the first encoded word and the others. -/
theorem split_flatMap_written {segments : List Segment} (hspaced : Spaced segments)
    (hunmarked : ∀ text, .plain text ∈ segments → IsUnmarked text)
    (hne : ∀ text, .plain text ∈ segments → text ≠ []) :
    (split (segments.flatMap written)).1 = lead segments ∧
      (split (segments.flatMap written)).2.flatMap
        (fun (word, text) ↦ .word word :: plainPieces text) = (afterLead segments).map piece := by
  -- The plain text after a word is the lead of what follows, so the two parts go together.
  induction segments with
  | nil =>
    rw [List.flatMap_nil, split]
    exact ⟨rfl, rfl⟩
  | cons segment segments ih =>
    obtain ⟨hlead, hafter⟩ := ih hspaced.tail (fun text htext ↦ hunmarked text (.tail _ htext))
      (fun text htext ↦ hne text (.tail _ htext))
    cases segment with
    | encoded word =>
      have hsplit : split ((.encoded word :: segments).flatMap written) =
          ([], (word.word, lead segments) :: (split (segments.flatMap written)).2) := by
        rw [List.flatMap_cons, ← hlead]
        exact split_of_takeWord? (takeWord?_written word.toWrittenWord _)
      rw [hsplit]
      refine ⟨rfl, ?_⟩
      rw [List.flatMap_cons, hafter]
      exact congrArg (_ :: ·) (plainPieces_lead fun text htext ↦ hne text (.tail _ htext))
    | plain text =>
      have hrest : lead segments = [] ∧ afterLead segments = segments ∧
          (segments.flatMap written).head? ≠ some '?' := by
        rcases hspaced.after_plain with rfl | ⟨word, rest, rfl⟩
        · exact ⟨rfl, rfl, fun h ↦ by cases h⟩
        · exact ⟨rfl, rfl, fun h ↦ by cases h⟩
      have hsplit : split ((.plain text :: segments).flatMap written) =
          (text, (split (segments.flatMap written)).2) := by
        have hwritten : written (.plain text) = text := rfl
        rw [List.flatMap_cons, hwritten, split_append (hunmarked text List.mem_cons_self) hrest.2.2,
          hlead, hrest.1, List.append_nil]
      rw [hsplit, hafter, hrest.2.1]
      exact ⟨rfl, rfl⟩

theorem isBlank_piece {segment : Segment}
    (h : ∀ text, segment = .plain text → ∃ c ∈ text, Text.isBlank c = false) :
    segment.piece.isBlank = false := by
  cases segment with
  | plain text =>
    obtain ⟨c, hc, hvisible⟩ := h text rfl
    have hall : text.all Text.isBlank = false := by
      rw [List.all_eq_false]
      exact ⟨c, hc, Bool.eq_false_iff.mp hvisible⟩
    simp [piece, Piece.isBlank, Piece.written, hall]
  | encoded word =>
    have hvisible : ∀ c ∈ word.content.text, Text.isBlank c = false :=
      word.content.forall_mem (by decide)
    cases htext : word.content.text with
    | nil => simp [piece, Piece.isBlank, Piece.written, WrittenWord.word, htext]
    | cons c text =>
      have hc := hvisible c (htext ▸ List.mem_cons_self)
      simp [piece, Piece.isBlank, Piece.written, WrittenWord.word, htext, hc]

end Segment

theorem dropBlank_eq_self (afterWord : Bool) {pieces : List Piece}
    (h : ∀ piece ∈ pieces, piece.isBlank = false) : dropBlank afterWord pieces = pieces := by
  induction pieces generalizing afterWord with
  | nil => rfl
  | cons piece pieces ih =>
    cases pieces with
    | nil => rfl
    | cons next pieces =>
      have ih := ih piece.isWord fun piece hpiece ↦ h piece (.tail _ hpiece)
      simp [dropBlank, ih, h piece List.mem_cons_self]

theorem isLineEnd_of_isBlank {c : Char} (h : Text.isBlank c = false) : Text.isLineEnd c = false := by
  simp only [Text.isBlank, Text.isLineEnd, Bool.or_eq_false_iff, Bool.and_eq_false_iff,
    decide_eq_false_iff_not, beq_eq_false_iff_ne] at h ⊢
  omega

/-- A subject of words is one line. -/
theorem isLineEnd_writtenItems (items : List Item) :
    ∀ c ∈ writtenItems items, Text.isLineEnd c = false := by
  refine (Text.forall_mem_join (by decide)).mpr fun text htext ↦ ?_
  obtain ⟨item, -, rfl⟩ := List.mem_map.mp htext
  cases item with
  | literal word => exact fun c hc ↦ isLineEnd_of_isBlank (word.isBlank_of_mem c hc)
  | encoded word => exact word.toWrittenWord.forall_mem (by decide)

/-- The pieces of a subject are its segments. -/
theorem pieces_writtenItems {items : List Item} (h : areApart items = true)
    (hne : writtenItems items ≠ []) :
    pieces (writtenItems items) = (segments items).map Segment.piece := by
  have hvisible := visible_of_mem_segments h
  have hplain : ∀ text, .plain text ∈ segments items → text ≠ [] := by
    rintro _ htext rfl
    obtain ⟨c, hc, -⟩ := hvisible _ htext
    cases hc
  have hsplit := split_flatMap_written (spaced_segments items) (isUnmarked_of_mem_segments items) hplain
  have hwritten : (segments items).flatMap Segment.written = writtenItems items :=
    flatMap_segments _ items
  rw [hwritten] at hsplit
  rw [pieces, Text.lines_eq_singleton hne (isLineEnd_writtenItems items), List.flatMap_singleton,
    linePieces]
  dsimp only
  rw [hsplit.1, hsplit.2, trimLeft_lead_segments, plainPieces_lead hplain]
  refine dropBlank_eq_self false fun piece hpiece ↦ ?_
  obtain ⟨segment, hsegment, rfl⟩ := List.mem_map.mp hpiece
  exact isBlank_piece fun text htext ↦ hvisible text (htext ▸ hsegment)

/-! ## Decoding -/

namespace Segment

theorem chunk_piece (segment : Segment) : segment.piece.chunk = .ok segment.chunk := by
  cases segment with
  | plain text => rfl
  | encoded word => exact chunk_written word.toWrittenWord

/-- Neighbouring segments are of different charsets, so no chunks are merged. -/
theorem merge_map_chunk {segments : List Segment} (h : Spaced segments) :
    merge (segments.map chunk) = segments.map chunk := by
  induction h with
  | nil => rfl
  | single segment => rfl
  | @cons segment next segments hmeets _ ih =>
    have hcharset : segment.chunk.charset ≠ next.chunk.charset :=
      hmeets.ne (f := fun segment ↦ segment.chunk.charset) fun _ _ ↦ nofun
    rw [List.map_cons, merge, ih]
    exact if_neg hcharset

/-- Neighbouring segments are of different charsets, so no runs are merged. -/
theorem mergeRuns_map_run {segments : List Segment} (h : Spaced segments) :
    mergeRuns (segments.map run) = segments.map run := by
  induction h with
  | nil => rfl
  | single segment => rfl
  | @cons segment next segments hmeets _ ih =>
    have hname : asciiName ≠ "utf-8" := by decide
    have hcharset : segment.run.charset ≠ next.run.charset :=
      hmeets.ne (f := fun segment ↦ segment.run.charset) fun _ _ ↦ hname
    rw [List.map_cons, mergeRuns, ih]
    exact if_neg hcharset

/-- A space keeps plain text apart from an encoded word. -/
theorem gap_run {segment next : Segment} (h : segment.Meets next) : gap segment.run next.run = [] := by
  have hother : ∀ value, Run.isAscii ⟨"utf-8", value⟩ = false := fun _ ↦
    (by decide : (("utf-8" : Text) == asciiName) = false)
  have hloose : isLoose ' ' = true := by decide
  cases segment with
  | plain text =>
    cases next with
    | plain _ => exact h.elim
    | encoded word =>
      obtain ⟨before, rfl⟩ := List.getLast?_eq_some_iff.mp h
      have hlast : (Text.escaped (before ++ [' '])).getLast? = some ' ' := by
        rw [Text.escaped_append, Text.escaped_singleton (by decide), List.getLast?_concat]
      have hascii : Run.isAscii ⟨asciiName, Text.escaped (before ++ [' '])⟩ = true := beq_self_eq_true _
      simp only [gap, run, hascii, hlast, hloose, hother, Option.any_some, Bool.not_true,
        Bool.and_false, if_true]
      rfl
  | encoded word =>
    cases next with
    | encoded _ => exact h.elim
    | plain text =>
      obtain ⟨after, rfl⟩ := List.head?_eq_some_iff.mp h
      have hhead : (Text.escaped (' ' :: after)).head? = some ' ' := by
        rw [Text.escaped_cons, Text.escaped_singleton (by decide)]
        rfl
      simp only [gap, run, hhead, hloose, hother, Option.any_some, Bool.not_true, Bool.and_false]
      rfl

/-- The spaces at the borders are there already. -/
theorem joinRuns_map_run {segments : List Segment} (h : Spaced segments) :
    joinRuns (segments.map run) = segments.flatMap fun segment ↦ segment.run.text := by
  induction h with
  | nil => rfl
  | single segment => simp [joinRuns]
  | @cons segment next segments hmeets _ ih =>
    rw [List.map_cons, List.map_cons, joinRuns, gap_run hmeets, ← List.map_cons, ih, List.append_nil]
    rfl

end Segment

/-- Plain text beside encoded words has to be ASCII. -/
theorem run_plain_eq_ok_iff [Platform] {subject : Text} {bytes : List UInt8} {run : Run} :
    Chunk.run subject ⟨none, bytes⟩ = .ok run ↔
      Charset.IsAscii bytes ∧ run = ⟨asciiName, bytes.map fun b ↦ Char.ofNat b.toNat⟩ := by
  have hofficial : officialName asciiName = asciiName := by decide
  have hname : (asciiName.all fun c ↦ c.toNat < 0x80) = true := by decide
  have hcharset : Charset.known? asciiName = some (.charset .ascii) := by decide
  have hdecode : decodeBytes asciiName bytes =
      (Charset.strict .ascii bytes).mapError Charset.Error.undecodable := by
    have hknown : asciiName ≠ unknownBytesName := by decide
    have hinput : inputCodec asciiName = asciiName := by decide
    have houtput : outputCodec asciiName = asciiName := by decide
    have hempty : (Charset.codec .ascii).strict [] = .ok [] := by
      rw [Charset.codec]
      dsimp only
      rw [Charset.strict_ascii_eq_ok_iff.mpr ⟨List.forall_mem_nil _, rfl⟩]
      rfl
    rw [decodeBytes, if_neg hknown, hinput, houtput, Charset.decodeStrict,
      Charset.decodeNamed_of_known (by decide) hcharset hempty, Charset.codec]
    dsimp only
    cases Charset.strict .ascii bytes with
    | error e => rfl
    | ok text =>
      change (Charset.checkWritable asciiName (Symbol.ofText text) >>= fun _ ↦
        pure (Symbol.display (Symbol.ofText text))) = _
      rw [Charset.checkWritable_of_known hcharset, Symbol.display_ofText]
      rfl
  simp only [Chunk.run, Option.getD_none, hname, if_true, hofficial, hdecode]
  cases hstrict : Charset.strict .ascii bytes with
  | error e =>
    constructor
    · intro h
      cases h
    · rintro ⟨hascii, -⟩
      cases hstrict.symm.trans (Charset.strict_ascii_eq_ok_iff.mpr ⟨hascii, rfl⟩)
  | ok text =>
    obtain ⟨hascii, rfl⟩ := Charset.strict_ascii_eq_ok_iff.mp hstrict
    exact ⟨fun h ↦ ⟨hascii, (Except.ok.inj h).symm⟩, fun h ↦ congrArg _ h.2.symm⟩

/-- Plain text can be read if it is ASCII in Latin-1, its escapes included. -/
def Segment.IsShown (segment : Segment) : Prop :=
  ∀ text, segment = .plain text → Charset.IsAscii text.latinBytes

theorem run_chunk_eq_ok_iff [Platform] {subject : Text} {segment : Segment} {run : Run} :
    Chunk.run subject segment.chunk = .ok run ↔ segment.IsShown ∧ run = segment.run := by
  cases segment with
  | plain text =>
    have hshown : (Segment.plain text).IsShown ↔ Charset.IsAscii text.latinBytes :=
      ⟨fun h ↦ h text rfl, fun h _ htext ↦ by cases htext; exact h⟩
    rw [hshown]
    exact run_plain_eq_ok_iff
  | encoded word =>
    have hrun := run_utf8 subject word.value
    rw [← word.carried_content] at hrun
    rw [Segment.chunk, hrun, Except.ok.injEq, eq_comm]
    exact ⟨fun h ↦ ⟨nofun, h⟩, fun h ↦ h.2⟩

/-- A subject with encoded words is decoded exactly if its plain text is ASCII or outside of Latin-1, and
what is outside of Latin-1 is then shown as escapes. -/
theorem decode_segments [Platform] {items : List Item} {text : Text} (h : areApart items = true)
    (hword : hasWord (writtenItems items) = true) :
    decode (writtenItems items) = .ok text ↔
      (∀ segment ∈ segments items, segment.IsShown) ∧
        text = (segments items).flatMap fun segment ↦ segment.run.text := by
  have hne : writtenItems items ≠ [] := by
    intro hnil
    rw [hnil] at hword
    cases hword
  have hspaced := spaced_segments items
  have hchunks : (pieces (writtenItems items)).mapM Piece.chunk =
      .ok ((segments items).map Segment.chunk) := by
    rw [pieces_writtenItems h hne, List.mapM_map]
    exact mapM_eq_ok fun segment _ ↦ segment.chunk_piece
  have hdecode : decode (writtenItems items) =
      ((segments items).mapM fun segment ↦ Chunk.run (writtenItems items) segment.chunk) >>= fun runs ↦
        pure (joinRuns (mergeRuns runs)) := by
    rw [decode, if_pos hword, hchunks]
    dsimp only
    rw [merge_map_chunk hspaced, List.mapM_map]
    rfl
  have hruns {runs : List Run} :
      ((segments items).mapM fun segment ↦ Chunk.run (writtenItems items) segment.chunk) = .ok runs ↔
        (∀ segment ∈ segments items, segment.IsShown) ∧ runs = (segments items).map Segment.run :=
    mapM_eq_ok_iff fun _ _ _ ↦ run_chunk_eq_ok_iff
  rw [hdecode, bind_eq_ok]
  constructor
  · rintro ⟨runs, hok, htext⟩
    obtain ⟨hshown, rfl⟩ := hruns.mp hok
    rw [mergeRuns_map_run hspaced, joinRuns_map_run hspaced] at htext
    exact ⟨hshown, (Except.ok.inj htext).symm⟩
  · rintro ⟨hshown, rfl⟩
    refine ⟨_, hruns.mpr ⟨hshown, rfl⟩, ?_⟩
    rw [mergeRuns_map_run hspaced, joinRuns_map_run hspaced]
    rfl

/-! ## Which subjects are decoded to their words -/

theorem hasWord_eq_false {text : Text} (h : IsUnmarked text) : hasWord text = false := by
  induction text with
  | nil => rfl
  | cons c text ih =>
    rw [hasWord, takeWord?_eq_none fun hstart ↦ h hstart.isInfix, ih h.tail]
    rfl

theorem writtenItems_cons_cons (item next : Item) (items : List Item) :
    writtenItems (item :: next :: items) =
      item.text (fun word ↦ word.toWrittenWord.text) ++ ' ' :: writtenItems (next :: items) :=
  Text.join_cons_cons _ _ _

theorem isUnmarked_writtenItems {items : List Item} (h : ∀ word, .encoded word ∉ items) :
    IsUnmarked (writtenItems items) := by
  induction items with
  | nil => exact isUnmarked_nil
  | cons item items ih =>
    cases item with
    | encoded word => exact absurd List.mem_cons_self (h word)
    | literal word =>
      cases items with
      | nil => simpa [writtenItems, Text.join, Item.text] using word.isUnmarked
      | cons next items =>
        rw [writtenItems_cons_cons]
        exact isUnmarked_append_space word.isUnmarked (ih fun other hmem ↦ h other (.tail _ hmem))

theorem hasWord_writtenItems {items : List Item} {word : TextWord} (h : .encoded word ∈ items) :
    hasWord (writtenItems items) = true := by
  induction items with
  | nil => cases h
  | cons item items ih =>
    cases items with
    | nil =>
      cases List.mem_singleton.mp h
      simpa [writtenItems, Text.join, Item.text] using hasWord_written word.toWrittenWord []
    | cons next items =>
      rw [writtenItems_cons_cons]
      rcases List.mem_cons.mp h with rfl | h
      · exact hasWord_written word.toWrittenWord _
      · exact hasWord_append _ (hasWord_append [' '] (ih h))

theorem valueOfItems_eq {items : List Item} (h : ∀ word, .encoded word ∉ items) :
    valueOfItems items = writtenItems items := by
  refine congrArg (Text.join " ") (List.map_congr_left fun item hitem ↦ ?_)
  cases item with
  | literal word => rfl
  | encoded word => exact absurd hitem (h word)

theorem forall_plain_iff {P : Char → Prop} (hspace : P ' ') {items : List Item} :
    (∀ text, .plain text ∈ segments items → ∀ c ∈ text, P c) ↔
      ∀ word, .literal word ∈ items → ∀ c ∈ word.text, P c := by
  calc (∀ text, .plain text ∈ segments items → ∀ c ∈ text, P c)
    _ ↔ ∀ c ∈ (segments items).flatMap (Segment.text fun _ ↦ []), P c := by
      constructor
      · intro h c hc
        obtain ⟨segment, hsegment, hc⟩ := List.mem_flatMap.mp hc
        cases segment with
        | plain text => exact h text hsegment c hc
        | encoded word => cases hc
      · exact fun h text htext c hc ↦ h c (List.mem_flatMap.mpr ⟨_, htext, hc⟩)
    _ ↔ ∀ text ∈ items.map (Item.text fun _ ↦ []), ∀ c ∈ text, P c := by
      rw [flatMap_segments]
      exact Text.forall_mem_join hspace
    _ ↔ ∀ word, .literal word ∈ items → ∀ c ∈ word.text, P c := by
      rw [List.forall_mem_map]
      constructor
      · exact fun h word hword ↦ h (.literal word) hword
      · intro h item hitem c hc
        cases item with
        | literal word => exact h word hitem c hc
        | encoded word => cases hc

/-- Runs show what is meant only without escapes. -/
theorem latin_of_flatMap_eq {segments : List Segment}
    (h : (segments.flatMap (Segment.text TextWord.value)) =
      segments.flatMap fun segment ↦ segment.run.text) :
    ∀ text, .plain text ∈ segments → ∀ c ∈ text, c.toNat < 0x100 := by
  induction segments with
  | nil => exact fun _ htext ↦ nomatch htext
  | cons segment segments ih =>
    intro text htext
    cases segment with
    | plain first =>
      obtain ⟨hfirst, hrest⟩ := Text.of_escaped_append_eq h.symm
      rcases List.mem_cons.mp htext with htext | htext
      · cases htext
        exact hfirst
      · exact ih hrest.symm text htext
    | encoded word =>
      rcases List.mem_cons.mp htext with htext | htext
      · cases htext
      · exact ih (List.append_cancel_left h) text htext

/-- A subject of plain words and encoded words is decoded to the words exactly if there is no encoded word
or the plain words are ASCII. -/
theorem decode_writtenItems_iff [Platform] {items : List Item} (h : areApart items = true) :
    decode (writtenItems items) = .ok (valueOfItems items) ↔
      (∀ word, .encoded word ∉ items) ∨
        ∀ word, .literal word ∈ items → ∀ c ∈ word.text, c.toNat < 0x80 := by
  by_cases hnone : ∀ word, .encoded word ∉ items
  · have hword : hasWord (writtenItems items) = false := hasWord_eq_false (isUnmarked_writtenItems hnone)
    rw [decode, if_neg (Bool.eq_false_iff.mp hword), valueOfItems_eq hnone]
    exact iff_of_true rfl (.inl hnone)
  obtain ⟨word, hmem⟩ : ∃ word, Item.encoded word ∈ items :=
    Classical.byContradiction fun hno ↦ hnone fun word hmem ↦ hno ⟨word, hmem⟩
  rw [decode_segments h (hasWord_writtenItems hmem), valueOfItems, ← flatMap_segments,
    ← forall_plain_iff (by decide : ' '.toNat < 0x80)]
  constructor
  · rintro ⟨hshown, hvalue⟩
    refine .inr fun text htext c hc ↦ ?_
    -- No escape is shown, so every character is a byte of its own.
    have hlatin := latin_of_flatMap_eq hvalue text htext c hc
    exact Text.lt_of_isAscii_latinBytes (hshown _ htext text rfl) c hc hlatin
  · rintro (hno | hascii)
    · exact absurd hno hnone
    refine ⟨?_, ?_⟩
    · rintro _ hsegment text rfl
      exact Text.isAscii_latinBytes (hascii text hsegment)
    · refine congrArg List.flatten (List.map_congr_left fun segment hsegment ↦ ?_)
      cases segment with
      | plain text =>
        have hlatin : ∀ c ∈ text, c.toNat < 0x100 :=
          fun c hc ↦ Nat.lt_trans (hascii text hsegment c hc) (by decide)
        exact (Text.escaped_eq_self hlatin).symm
      | encoded word => rfl

/-- Plain text, and the name of a city as an encoded word. -/
def cityItems : List Item :=
  [.literal ⟨"Re:", by simp, by simp [Text.isBlank], by decide⟩,
    .encoded
      { toWrittenWord := .ofPieces [.literal 75 (by decide), .escape 0xc3 true, .escape 0xb6 true,
          .literal 108 (by decide), .literal 110 (by decide)]
        value := "Köln"
        carried_content := by decide }]

section Bare

attribute [local instance] Platform.bare

theorem decode_cityItems :
    areApart cityItems = true ∧ writtenItems cityItems = "Re: =?utf-8?q?K=C3=B6ln?=" ∧
      decode (writtenItems cityItems) = .ok "Re: Köln" := by
  have hascii : ∀ word, .literal word ∈ cityItems → ∀ c ∈ word.text, c.toNat < 0x80 := by
    intro word hword
    rcases List.mem_cons.mp hword with hword | hword
    · cases hword
      simp
    · cases List.mem_singleton.mp hword
  exact ⟨rfl, by decide, (decode_writtenItems_iff rfl).mpr (.inr hascii)⟩

/-- A plain word of one character of Latin-1, and an encoded word. -/
def accentItems : List Item :=
  [.literal ⟨"é", by simp, by simp [Text.isBlank], by decide⟩,
    .encoded
      { toWrittenWord := .ofPieces [.literal 97 (by decide)]
        value := "a"
        carried_content := by decide }]

/-- Beside an encoded word a character of Latin-1 makes the subject undecodable. -/
theorem accent_beside_word_fails :
    areApart accentItems = true ∧ writtenItems accentItems = "é =?utf-8?q?a?=" ∧
      valueOfItems accentItems = "é a" ∧
      decode (writtenItems accentItems) ≠ .ok (valueOfItems accentItems) := by
  have hwritten : writtenItems accentItems = "é =?utf-8?q?a?=" := by decide
  have hfails : (decode "é =?utf-8?q?a?=").isOk = false := by decide +kernel
  refine ⟨rfl, hwritten, by decide, ?_⟩
  intro h
  rw [hwritten] at h
  rw [h] at hfails
  cases hfails

end Bare

end Mail.Subject

end MailGateway
