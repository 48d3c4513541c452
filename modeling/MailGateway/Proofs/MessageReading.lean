import MailGateway.Proofs.MessageContent

/-!
# A message is read from its own lines

Reading takes fuel, but it does not matter how much there is beyond three units for each line.  A reader
stops at a line that ends what it reads and nowhere before, and it does not look behind this line.  So a
message between others is read as if its lines were all there is.
-/

namespace MailGateway.Mail

open scoped List

/-! ## Readers leave lines that they were given -/

namespace Message

theorem skipLine_sublist (stops : List Stop) (lines : List Line) : skipLine stops lines <+ lines := by
  unfold skipLine
  split
  · next h =>
    rw [nextLine?_eq_some h]
    exact List.sublist_cons_self ..
  · exact .refl _

/-- A line is used up for every part. -/
theorem length_skipLine_lt {stops : List Stop} {lines : List Line} {found : Line × List Line}
    (h : nextLine? stops (skipLine stops lines) = some found) :
    (skipLine stops lines).length < lines.length := by
  unfold skipLine at h ⊢
  split at h
  · next line rest hnext =>
    rw [nextLine?_eq_some hnext]
    exact Nat.lt_succ_self _
  · next hnext =>
    rw [hnext] at h
    cases h

theorem skipLine_append {inner outer : List Stop} {lines rest : List Line}
    (hfree : FreeOf outer lines) (hends : EndsIn outer rest) :
    skipLine (inner ++ outer) (lines ++ rest) = skipLine inner lines ++ rest := by
  unfold skipLine
  rw [nextLine?_append inner hfree hends]
  cases nextLine? inner lines <;> rfl

variable [Platform]

/-- With this fuel, what the readers leave is among the lines that they were given. -/
structure LeavesSublist (fuel : Nat) : Prop where
  lines {inDigest : Bool} {stops : List Stop} {lines : List Line} {found : Message × List Line} :
    readLines fuel inDigest stops lines = .ok found → found.2 <+ lines
  blocks {stops : List Stop} {lines : List Line} {found : List Message × List Line} :
    readBlocks fuel stops lines = .ok found → found.2 <+ lines
  parts {inDigest : Bool} {stops : List Stop} {boundary : List UInt8} {lines : List Line}
    {found : List Message × List Line} :
    readParts fuel inDigest stops boundary lines = .ok found → found.2 <+ lines

section LeavesSublist

variable {fuel : Nat} (h : LeavesSublist fuel)
include h

/-- A content leaves some of its lines. -/
theorem LeavesSublist.content {fields : List Field} {stops : List Stop} {content : Content}
    {found : Message × List Line} (hread : content.read fuel fields stops = .ok found) :
    found.2 <+ content.lines := by
  cases content with
  | body bytes after =>
    cases hread
    exact .refl _
  | blocks lines =>
    obtain ⟨parts, hparts, rfl⟩ := map_eq_ok.mp hread
    have hsub := h.blocks hparts
    exact hsub
  | inner lines =>
    obtain ⟨parts, hparts, rfl⟩ := map_eq_ok.mp hread
    have hsub := h.lines hparts
    exact hsub
  | parts inDigest boundary lines =>
    obtain ⟨parts, hparts, rfl⟩ := map_eq_ok.mp hread
    have hsub := h.parts hparts
    exact hsub

theorem LeavesSublist.afterBlock {stops : List Stop} {block : Message × List Line}
    {found : List Message × List Line} (hread : afterBlock fuel stops block = .ok found) :
    found.2 <+ block.2 := by
  unfold Message.afterBlock at hread
  split at hread
  · cases hread
    exact skipLine_sublist stops block.2
  · obtain ⟨more, hmore, rfl⟩ := map_eq_ok.mp hread
    exact (h.blocks hmore).trans (skipLine_sublist stops block.2)

theorem LeavesSublist.afterPart {inDigest : Bool} {stops : List Stop} {boundary : List UInt8}
    {part : Message × List Line} {found : List Message × List Line}
    (hread : afterPart fuel inDigest stops boundary part = .ok found) : found.2 <+ part.2 := by
  unfold Message.afterPart at hread
  split at hread
  · cases hread
    exact .refl _
  · next line rest hnext =>
    rw [nextLine?_eq_some hnext]
    split at hread
    · cases hread
      exact .cons line (linesUntil_sublist stops rest)
    · obtain ⟨more, hmore, rfl⟩ := map_eq_ok.mp hread
      have hsub := h.parts hmore
      exact .cons line hsub

end LeavesSublist

/-- By induction on the fuel: what is left after a message are some of its lines. -/
theorem leavesSublist (fuel : Nat) : LeavesSublist fuel := by
  induction fuel with
  | zero =>
    refine ⟨?_, ?_, ?_⟩
    · rintro _ _ _ _ ⟨⟩
      exact .refl _
    · rintro _ _ _ ⟨⟩
      exact .refl _
    · rintro _ _ _ _ _ ⟨⟩
      exact .refl _
  | succ fuel ih =>
    refine ⟨?_, ?_, ?_⟩
    · intro inDigest stops lines found h
      rw [readLines_succ] at h
      obtain ⟨content, hcontent, h⟩ := bind_eq_ok.mp h
      exact (ih.content h).trans (readContent_sublist hcontent)
    · intro stops lines found h
      rw [readBlocks_succ] at h
      obtain ⟨block, hblock, h⟩ := bind_eq_ok.mp h
      exact (ih.afterBlock h).trans (ih.lines hblock)
    · intro inDigest stops boundary lines found h
      rw [readParts_succ] at h
      obtain ⟨part, hpart, h⟩ := bind_eq_ok.mp h
      exact (ih.afterPart h).trans
        ((ih.lines hpart).trans (skipDelimiters_sublist stops boundary lines))

/-! ## Readers do not look behind the end -/

/-- Put more lines behind those that a reader left. -/
def withRest {α : Type} (rest : List Line) (found : α × List Line) : α × List Line :=
  (found.1, found.2 ++ rest)

/-- With this fuel, lines from the end of what is read on do not change what is read, and they are left
as they are. -/
structure KeepsRest (outer : List Stop) (rest : List Line) (fuel : Nat) : Prop where
  lines (inDigest : Bool) (inner : List Stop) (lines : List Line) : FreeOf outer lines →
    readLines fuel inDigest (inner ++ outer) (lines ++ rest) =
      (readLines fuel inDigest inner lines).map (withRest rest)
  blocks (inner : List Stop) (lines : List Line) : FreeOf outer lines →
    readBlocks fuel (inner ++ outer) (lines ++ rest) = (readBlocks fuel inner lines).map (withRest rest)
  parts (inDigest : Bool) (inner : List Stop) (boundary : List UInt8) (lines : List Line) :
    FreeOf outer lines →
    readParts fuel inDigest (inner ++ outer) boundary (lines ++ rest) =
      (readParts fuel inDigest inner boundary lines).map (withRest rest)

section KeepsRest

variable {outer : List Stop} {rest : List Line} {fuel : Nat} (hends : EndsIn outer rest)
  (h : KeepsRest outer rest fuel)
include h

/-- A content is read the same before lines that end something outside, and leaves them. -/
theorem KeepsRest.content {content : Content} (fields : List Field) (inner : List Stop)
    (hfree : FreeOf outer content.lines) :
    (content.extend rest).read fuel fields (inner ++ outer) =
      (content.read fuel fields inner).map (withRest rest) := by
  cases content with
  | body bytes after => rfl
  | blocks lines =>
    have hlines := h.blocks inner lines hfree
    simp only [Content.extend, Content.read, hlines]
    cases readBlocks fuel inner lines <;> rfl
  | inner lines =>
    have hlines := h.lines false inner lines hfree
    simp only [Content.extend, Content.read, hlines]
    cases readLines fuel false inner lines <;> rfl
  | parts inDigest boundary lines =>
    have hlines := h.parts inDigest inner boundary lines hfree
    simp only [Content.extend, Content.read, hlines]
    cases readParts fuel inDigest inner boundary lines <;> rfl

include hends

theorem KeepsRest.afterBlock (inner : List Stop) {block : Message × List Line}
    (hfree : FreeOf outer block.2) :
    afterBlock fuel (inner ++ outer) (withRest rest block) =
      (afterBlock fuel inner block).map (withRest rest) := by
  have hskip := hfree.sublist (skipLine_sublist inner block.2)
  unfold Message.afterBlock withRest
  dsimp only
  rw [skipLine_append hfree hends, nextLine?_append inner hskip hends, h.blocks inner _ hskip]
  cases nextLine? inner (skipLine inner block.2) with
  | none => rfl
  | some found =>
    dsimp only [Option.map]
    cases readBlocks fuel inner (skipLine inner block.2) <;> rfl

theorem KeepsRest.afterPart (inDigest : Bool) (inner : List Stop) (boundary : List UInt8)
    {part : Message × List Line} (hfree : FreeOf outer part.2) :
    afterPart fuel inDigest (inner ++ outer) boundary (withRest rest part) =
      (afterPart fuel inDigest inner boundary part).map (withRest rest) := by
  unfold Message.afterPart withRest
  dsimp only
  rw [nextLine?_append inner hfree hends]
  cases hnext : nextLine? inner part.2 with
  | none => rfl
  | some found =>
    obtain ⟨line, lines⟩ := found
    rw [nextLine?_eq_some hnext] at hfree
    have hlines := hfree.sublist (List.sublist_cons_self line lines)
    dsimp only [Option.map]
    rw [linesUntil_append inner hlines hends, h.parts inDigest inner boundary _ hlines]
    split
    · rfl
    · cases readParts fuel inDigest inner boundary lines <;> rfl

end KeepsRest

/-- What is read does not depend on the lines from its end on, and it leaves them as they are. -/
theorem keepsRest {outer : List Stop} {rest : List Line} (hends : EndsIn outer rest) (fuel : Nat) :
    KeepsRest outer rest fuel := by
  induction fuel with
  | zero => exact ⟨fun _ _ _ _ ↦ rfl, fun _ _ _ ↦ rfl, fun _ _ _ _ _ ↦ rfl⟩
  | succ fuel ih =>
    refine ⟨?_, ?_, ?_⟩
    · intro inDigest inner lines hfree
      rw [readLines_succ, readLines_succ, readContent_append hfree hends]
      cases hcontent : readContent inDigest inner lines with
      | error fault => rfl
      | ok found => exact ih.content found.1 inner (hfree.sublist (readContent_sublist hcontent))
    · intro inner lines hfree
      rw [readBlocks_succ, readBlocks_succ, ← List.cons_append, ih.lines false _ _ hfree]
      cases hblock : readLines fuel false (.blank :: inner) lines with
      | error fault => rfl
      | ok block =>
        exact ih.afterBlock hends inner (hfree.sublist ((leavesSublist fuel).lines hblock))
    · intro inDigest inner boundary lines hfree
      have hskip := hfree.sublist (skipDelimiters_sublist inner boundary lines)
      rw [readParts_succ, readParts_succ, skipDelimiters_append inner boundary hfree hends,
        ← List.cons_append, ih.lines inDigest _ _ hskip]
      cases hpart : readLines fuel inDigest (.delimiter boundary :: inner)
          (skipDelimiters inner boundary lines) with
      | error fault => rfl
      | ok part =>
        exact ih.afterPart hends inDigest inner boundary
          (hskip.sublist ((leavesSublist fuel).lines hpart))

/-! ## Enough fuel -/

/-- With this fuel and more, the readers give what they give with any other fuel that is enough. -/
structure SameWith (fuel fuel' : Nat) : Prop where
  lines (inDigest : Bool) (stops : List Stop) (lines : List Line) :
    linesNeed inDigest lines ≤ fuel → linesNeed inDigest lines ≤ fuel' →
    readLines fuel inDigest stops lines = readLines fuel' inDigest stops lines
  blocks (stops : List Stop) (lines : List Line) :
    3 * lines.length + 2 ≤ fuel → 3 * lines.length + 2 ≤ fuel' →
    readBlocks fuel stops lines = readBlocks fuel' stops lines
  parts (inDigest : Bool) (stops : List Stop) (boundary : List UInt8) (lines : List Line) :
    3 * lines.length + 3 ≤ fuel → 3 * lines.length + 3 ≤ fuel' →
    readParts fuel inDigest stops boundary lines = readParts fuel' inDigest stops boundary lines

/-- By induction on the fuel: fuel that is enough reads the same as more of it. -/
theorem sameWith (fuel fuel' : Nat) : SameWith fuel fuel' := by
  induction fuel generalizing fuel' with
  | zero =>
    refine ⟨fun inDigest _ lines h _ ↦ ?_, fun _ _ h _ ↦ by omega, fun _ _ _ _ h _ ↦ by omega⟩
    have := linesNeed_le inDigest lines
    omega
  | succ fuel ih =>
    refine ⟨?_, ?_, ?_⟩
    · intro inDigest stops lines h h'
      have hneed := linesNeed_le inDigest lines
      obtain ⟨fuel', rfl⟩ : ∃ n, fuel' = n + 1 := ⟨fuel' - 1, by omega⟩
      rw [readLines_succ, readLines_succ]
      cases hcontent : readContent inDigest stops lines with
      | error fault => rfl
      | ok found =>
        have hlt := readContent_need hcontent
        obtain ⟨fields, content⟩ := found
        change content.read fuel fields stops = content.read fuel' fields stops
        cases content with
        | body bytes after => rfl
        | blocks lines =>
          simp only [Content.need] at hlt
          simp only [Content.read, (ih fuel').blocks stops lines (by omega) (by omega)]
        | inner lines =>
          simp only [Content.need] at hlt
          have hlines := (ih fuel').lines false stops lines
            (by rw [linesNeed_false]; omega) (by rw [linesNeed_false]; omega)
          simp only [Content.read, hlines]
        | parts inDigest boundary lines =>
          simp only [Content.need] at hlt
          simp only [Content.read,
            (ih fuel').parts inDigest stops boundary lines (by omega) (by omega)]
    · intro stops lines h h'
      obtain ⟨fuel', rfl⟩ : ∃ n, fuel' = n + 1 := ⟨fuel' - 1, by omega⟩
      have hlines := (ih fuel').lines false (.blank :: stops) lines
        (by rw [linesNeed_false]; omega) (by rw [linesNeed_false]; omega)
      rw [readBlocks_succ, readBlocks_succ, hlines]
      cases hblock : readLines fuel' false (.blank :: stops) lines with
      | error fault => rfl
      | ok block =>
        have hlength := ((leavesSublist fuel').lines hblock).length_le
        change afterBlock fuel stops block = afterBlock fuel' stops block
        unfold afterBlock
        cases hnext : nextLine? stops (skipLine stops block.2) with
        | none => rfl
        | some found =>
          have hlt := length_skipLine_lt hnext
          dsimp only
          rw [(ih fuel').blocks stops _ (by omega) (by omega)]
    · intro inDigest stops boundary lines h h'
      obtain ⟨fuel', rfl⟩ : ∃ n, fuel' = n + 1 := ⟨fuel' - 1, by omega⟩
      have hskip := (skipDelimiters_sublist stops boundary lines).length_le
      have hneed := linesNeed_le inDigest (skipDelimiters stops boundary lines)
      rw [readParts_succ, readParts_succ, (ih fuel').lines inDigest _ _ (by omega) (by omega)]
      cases hpart : readLines fuel' inDigest (.delimiter boundary :: stops)
          (skipDelimiters stops boundary lines) with
      | error fault => rfl
      | ok part =>
        have hlength := ((leavesSublist fuel').lines hpart).length_le
        change afterPart fuel inDigest stops boundary part = afterPart fuel' inDigest stops boundary part
        unfold afterPart
        cases hnext : nextLine? stops part.2 with
        | none => rfl
        | some found =>
          rw [nextLine?_eq_some hnext, List.length_cons] at hlength
          dsimp only
          rw [(ih fuel').parts inDigest stops boundary _ (by omega) (by omega)]

/-! ## Readers stop at the end only -/

/-- With this fuel, readers for which it is enough leave nothing but lines from the end on. -/
structure StopsAtEnd (fuel : Nat) : Prop where
  lines {inDigest : Bool} {stops : List Stop} {lines : List Line} {found : Message × List Line} :
    linesNeed inDigest lines ≤ fuel → readLines fuel inDigest stops lines = .ok found →
    EndsIn stops found.2
  blocks {stops : List Stop} {lines : List Line} {found : List Message × List Line} :
    3 * lines.length + 2 ≤ fuel → readBlocks fuel stops lines = .ok found → EndsIn stops found.2
  parts {inDigest : Bool} {stops : List Stop} {boundary : List UInt8} {lines : List Line}
    {found : List Message × List Line} :
    3 * lines.length + 3 ≤ fuel → readParts fuel inDigest stops boundary lines = .ok found →
    EndsIn stops found.2

/-- By induction on the fuel: a message is read up to a stop. -/
theorem stopsAtEnd (fuel : Nat) : StopsAtEnd fuel := by
  induction fuel with
  | zero =>
    refine ⟨fun {inDigest} _ {lines} _ h _ ↦ ?_, fun h _ ↦ by omega, fun h _ ↦ by omega⟩
    have := linesNeed_le inDigest lines
    omega
  | succ fuel ih =>
    refine ⟨?_, ?_, ?_⟩
    · intro inDigest stops lines found hneed h
      rw [readLines_succ] at h
      obtain ⟨⟨fields, content⟩, hcontent, h⟩ := bind_eq_ok.mp h
      have hlt := readContent_need hcontent
      cases content with
      | body bytes after =>
        cases h
        exact readContent_endsIn hcontent
      | blocks lines =>
        simp only [Content.need] at hlt
        obtain ⟨parts, hparts, rfl⟩ := map_eq_ok.mp h
        have hends := ih.blocks (by omega) hparts
        exact hends
      | inner lines =>
        simp only [Content.need] at hlt
        obtain ⟨parts, hparts, rfl⟩ := map_eq_ok.mp h
        have hends := ih.lines (by rw [linesNeed_false]; omega) hparts
        exact hends
      | parts inDigest boundary lines =>
        simp only [Content.need] at hlt
        obtain ⟨parts, hparts, rfl⟩ := map_eq_ok.mp h
        have hends := ih.parts (by omega) hparts
        exact hends
    · intro stops lines found hneed h
      rw [readBlocks_succ] at h
      obtain ⟨block, hblock, h⟩ := bind_eq_ok.mp h
      have hlength := ((leavesSublist fuel).lines hblock).length_le
      unfold afterBlock at h
      split at h
      · next hnext =>
        cases h
        exact nextLine?_eq_none.mp hnext
      · next hnext =>
        have hlt := length_skipLine_lt hnext
        obtain ⟨more, hmore, rfl⟩ := map_eq_ok.mp h
        have hends := ih.blocks (by omega) hmore
        exact hends
    · intro inDigest stops boundary lines found hneed h
      rw [readParts_succ] at h
      obtain ⟨part, hpart, h⟩ := bind_eq_ok.mp h
      have hlength := ((leavesSublist fuel).lines hpart).length_le
      have hskip := (skipDelimiters_sublist stops boundary lines).length_le
      unfold afterPart at h
      split at h
      · next hnext =>
        cases h
        exact nextLine?_eq_none.mp hnext
      · next line rest hnext =>
        rw [nextLine?_eq_some hnext, List.length_cons] at hlength
        split at h
        · cases h
          exact linesUntil_endsIn stops _
        · obtain ⟨more, hmore, rfl⟩ := map_eq_ok.mp h
          have hends := ih.parts (by omega) hmore
          exact hends

/-! ## A message on lines of its own -/

def ofLines (inDigest : Bool) (lines : List Line) : Except FieldFault Message :=
  (readLines (3 * lines.length + 4) inDigest [] lines).map Prod.fst

/-- A mail is read from its lines. -/
theorem read_eq_ofLines (bytes : List UInt8) : read bytes = ofLines false (Line.split bytes) := rfl

/-- A message that stands before the end of what is read is read as if its lines were all there is, and
what comes after it is left. -/
theorem readLines_append {stops : List Stop} {lines rest : List Line} (hfree : FreeOf stops lines)
    (hends : EndsIn stops rest) {fuel : Nat} (inDigest : Bool)
    (hfuel : 3 * lines.length + 2 ≤ fuel) :
    readLines fuel inDigest stops (lines ++ rest) =
      (ofLines inDigest lines).map fun message ↦ (message, rest) := by
  have hneed := linesNeed_le inDigest lines
  have hkeeps := (keepsRest hends fuel).lines inDigest [] lines hfree
  rw [List.nil_append] at hkeeps
  rw [hkeeps, ofLines,
    (sameWith fuel (3 * lines.length + 4)).lines inDigest [] lines (by omega) (by omega)]
  cases hread : readLines (3 * lines.length + 4) inDigest [] lines with
  | error fault => rfl
  | ok found =>
    have hleft := (stopsAtEnd _).lines (by omega) hread
    have hnil : found.2 = [] := by
      cases hlines : found.2 with
      | nil => rfl
      | cons line lines =>
        rw [hlines] at hleft
        simpa using hleft line rfl
    change Except.ok (found.1, found.2 ++ rest) = .ok (found.1, rest)
    rw [hnil, List.nil_append]

end Message

end MailGateway.Mail
