import MailGateway.Proofs.AcceptedMediaType
import MailGateway.Proofs.FaultyMail
import MailGateway.Proofs.MessageReading

/-!
# How messages are taken apart

A message is taken apart by its own media type, or by the one that its place gives it, and so is each of its
parts.  Where the strict reading accepts a media type it is this one.  So what is accepted as plain text
always has a body that can be read.
-/

namespace MailGateway.Mail

/-! ## What a media type asks for -/

/-- What follows the fields of a message is what its media type asks for. -/
def Content.FitsType (mediaType : Text) : Content → Prop
  | .body .. => majorType mediaType ≠ "message"
  | .blocks _ | .inner _ => majorType mediaType = "message"
  | .parts inDigest .. =>
    majorType mediaType = "multipart" ∧ inDigest = decide (mediaType = "multipart/digest".toList)

/-- The content is chosen by the structural type. -/
theorem Content.fitsType_ofShown [Platform] {inDigest : Bool} {shown : Option Text}
    {fields : List Field} {stops : List Stop} {lines : List Line} {content : Content}
    (h : ofShown inDigest shown fields stops lines = .ok content) :
    content.FitsType (structuralType inDigest shown) := by
  unfold ofShown at h
  dsimp only at h
  split at h
  · next hstatus =>
    cases h
    rw [hstatus]
    change majorType _ = _
    decide
  split at h
  · next hmessage =>
    cases h
    exact hmessage
  next hmessage =>
  split at h
  · next hmultipart =>
    obtain ⟨boundary, -, hcontent⟩ := bind_eq_ok.mp h
    cases boundary with
    | none =>
      cases hcontent
      exact hmessage
    | some boundary =>
      obtain ⟨_, -, rfl⟩ := map_eq_ok.mp hcontent
      unfold ofBoundary
      dsimp only
      split
      · exact ⟨hmultipart, rfl⟩
      · exact hmessage
  · cases h
    exact hmessage

/-- A media type of messages is no digest. -/
theorem not_digest_of_message {mediaType : Text} (h : majorType mediaType = "message") :
    decide (mediaType = "multipart/digest".toList) = false := by
  rw [decide_eq_false_iff_not]
  rintro rfl
  exact absurd h (by decide)

namespace Message

/-- The message is in parts exactly if its media type asks for that.  A multipart message in which no
delimiter is found has a body all the same. -/
def SplitBy (mediaType : Text) : Message → Prop
  | .leaf .. => majorType mediaType ≠ "message"
  | .container _ parts =>
    (majorType mediaType = "message" ∨ majorType mediaType = "multipart") ∧ parts ≠ []

/-- A message and all of its parts were taken apart by their own media types.  In a digest, a part is a
message unless it says otherwise. -/
inductive TakenApart [Platform] : Bool → Message → Prop
  | intro {inDigest : Bool} {message : Message} {shown : Option Text}
      (hshown : shownContentType? message.fields = .ok shown)
      (hsplit : message.SplitBy (structuralType inDigest shown))
      (hparts : ∀ part ∈ message.parts,
        TakenApart (structuralType inDigest shown = "multipart/digest".toList) part) :
      TakenApart inDigest message

/-! ## Reading takes apart -/

theorem TakenApart.dropEnd [Platform] {inDigest : Bool} {message : Message}
    (h : message.TakenApart inDigest) : message.dropEnd.TakenApart inDigest := by
  cases message with
  | container fields parts => exact h
  | leaf fields body =>
    obtain ⟨hshown, hsplit, hparts⟩ := h
    exact ⟨hshown, hsplit, hparts⟩

/-- With this fuel, readers for which it is enough take apart what they read. -/
structure TakesApart [Platform] (fuel : Nat) : Prop where
  lines {inDigest : Bool} {stops : List Stop} {lines : List Line} {found : Message × List Line} :
    linesNeed inDigest lines ≤ fuel → readLines fuel inDigest stops lines = .ok found →
    found.1.TakenApart inDigest
  blocks {stops : List Stop} {lines : List Line} {found : List Message × List Line} :
    3 * lines.length + 2 ≤ fuel → readBlocks fuel stops lines = .ok found →
    found.1 ≠ [] ∧ ∀ block ∈ found.1, block.TakenApart false
  parts {inDigest : Bool} {stops : List Stop} {boundary : List UInt8} {lines : List Line}
    {found : List Message × List Line} :
    3 * lines.length + 3 ≤ fuel → readParts fuel inDigest stops boundary lines = .ok found →
    found.1 ≠ [] ∧ ∀ part ∈ found.1, part.TakenApart inDigest

section TakesApart

variable [Platform] {fuel : Nat} (h : TakesApart fuel)
include h

theorem TakesApart.content {inDigest : Bool} {fields : List Field} {shown : Option Text}
    {content : Content} {stops : List Stop} {found : Message × List Line}
    (hshown : shownContentType? fields = .ok shown)
    (hfits : content.FitsType (structuralType inDigest shown)) (hneed : content.need ≤ fuel)
    (hread : content.read fuel fields stops = .ok found) : found.1.TakenApart inDigest := by
  cases content with
  | body bytes after =>
    cases hread
    exact ⟨hshown, hfits, List.forall_mem_nil _⟩
  | blocks lines =>
    obtain ⟨blocks, hblocks, rfl⟩ := map_eq_ok.mp hread
    obtain ⟨hne, hall⟩ := h.blocks hneed hblocks
    refine ⟨hshown, ⟨.inl hfits, hne⟩, ?_⟩
    rw [not_digest_of_message hfits]
    exact hall
  | inner lines =>
    obtain ⟨inner, hinner, rfl⟩ := map_eq_ok.mp hread
    have hlines : linesNeed false lines ≤ fuel := hneed
    have hall := h.lines hlines hinner
    refine ⟨hshown, ⟨.inl hfits, List.cons_ne_nil _ _⟩, ?_⟩
    rw [not_digest_of_message hfits]
    exact List.forall_mem_singleton.mpr hall
  | parts digest boundary lines =>
    obtain ⟨hmultipart, rfl⟩ := hfits
    obtain ⟨parts, hparts, rfl⟩ := map_eq_ok.mp hread
    obtain ⟨hne, hall⟩ := h.parts hneed hparts
    exact ⟨hshown, ⟨.inr hmultipart, hne⟩, hall⟩

theorem TakesApart.afterBlock {stops : List Stop} {block : Message × List Line}
    {found : List Message × List Line} (hblock : block.1.TakenApart false)
    (hneed : 3 * block.2.length ≤ fuel) (hread : afterBlock fuel stops block = .ok found) :
    found.1 ≠ [] ∧ ∀ block ∈ found.1, block.TakenApart false := by
  unfold Message.afterBlock at hread
  split at hread
  · cases hread
    exact ⟨List.cons_ne_nil _ _, List.forall_mem_singleton.mpr hblock⟩
  · next hnext =>
    have hlt := length_skipLine_lt hnext
    obtain ⟨more, hmore, rfl⟩ := map_eq_ok.mp hread
    have hrest := h.blocks (by omega) hmore
    exact ⟨List.cons_ne_nil _ _, List.forall_mem_cons.mpr ⟨hblock, hrest.2⟩⟩

theorem TakesApart.afterPart {inDigest : Bool} {stops : List Stop} {boundary : List UInt8}
    {part : Message × List Line} {found : List Message × List Line}
    (hpart : part.1.TakenApart inDigest) (hneed : 3 * part.2.length ≤ fuel)
    (hread : afterPart fuel inDigest stops boundary part = .ok found) :
    found.1 ≠ [] ∧ ∀ part ∈ found.1, part.TakenApart inDigest := by
  unfold Message.afterPart at hread
  split at hread
  · cases hread
    exact ⟨List.cons_ne_nil _ _, List.forall_mem_singleton.mpr hpart.dropEnd⟩
  · next line rest hnext =>
    rw [nextLine?_eq_some hnext, List.length_cons] at hneed
    split at hread
    · cases hread
      exact ⟨List.cons_ne_nil _ _, List.forall_mem_singleton.mpr hpart.dropEnd⟩
    · obtain ⟨more, hmore, rfl⟩ := map_eq_ok.mp hread
      have hrest := h.parts (by omega) hmore
      exact ⟨List.cons_ne_nil _ _, List.forall_mem_cons.mpr ⟨hpart.dropEnd, hrest.2⟩⟩

end TakesApart

/-- By induction on the fuel: a message is taken apart as the types in it say. -/
theorem takesApart [Platform] (fuel : Nat) : TakesApart fuel := by
  induction fuel with
  | zero =>
    refine ⟨fun {inDigest} _ {lines} _ h _ ↦ ?_, fun h _ ↦ by omega, fun h _ ↦ by omega⟩
    have := linesNeed_le inDigest lines
    omega
  | succ fuel ih =>
    refine ⟨?_, ?_, ?_⟩
    · intro inDigest stops lines found hneed h
      rw [readLines_succ] at h
      obtain ⟨⟨fields, content⟩, hcontent, h⟩ := bind_eq_ok.mp h
      have hlt := readContent_need hcontent
      obtain ⟨-, shown, hshown, hofShown⟩ := readContent_eq_ok hcontent
      exact ih.content hshown (Content.fitsType_ofShown hofShown) (by omega) h
    · intro stops lines found hneed h
      rw [readBlocks_succ] at h
      obtain ⟨block, hblock, h⟩ := bind_eq_ok.mp h
      have hlength := ((leavesSublist fuel).lines hblock).length_le
      exact ih.afterBlock (ih.lines (by rw [linesNeed_false]; omega) hblock) (by omega) h
    · intro inDigest stops boundary lines found hneed h
      rw [readParts_succ] at h
      obtain ⟨part, hpart, h⟩ := bind_eq_ok.mp h
      have hlength := ((leavesSublist fuel).lines hpart).length_le
      have hskip := (skipDelimiters_sublist stops boundary lines).length_le
      have hlines := linesNeed_le inDigest (skipDelimiters stops boundary lines)
      exact ih.afterPart (ih.lines (by omega) hpart) (by omega) h

/-- Reading takes a message apart, part by part. -/
theorem read_takenApart [Platform] {bytes : List UInt8} {message : Message} (h : read bytes = .ok message) :
    message.TakenApart false := by
  obtain ⟨found, hfound, rfl⟩ := map_eq_ok.mp h
  have hneed := linesNeed_le false (Line.split bytes)
  exact (takesApart _).lines (by omega) hfound

/-- The parts of a message are taken apart as well. -/
theorem TakenApart.of_mem [Platform] {inDigest : Bool} {message part : Message}
    (h : message.TakenApart inDigest) (hpart : part ∈ message :: message.parts) :
    ∃ inDigest, part.TakenApart inDigest := by
  rcases List.mem_cons.mp hpart with rfl | hpart
  · exact ⟨inDigest, h⟩
  · obtain ⟨-, -, hparts⟩ := h
    exact ⟨_, hparts part hpart⟩

end Message

namespace Body

/-! ## Accepted media types decide -/

section Accepted

variable {inDigest : Bool} {message : Message} {found : MediaType}

theorem exists_shown [Platform] (h : mediaType message = .ok found) :
    ∃ shown, shownContentType? message.fields = .ok (some shown) ∧
      MediaType.parse (some shown) = .ok found := by
  obtain ⟨shown, hshown, hparse⟩ := bind_eq_ok.mp h
  cases shown with
  | none => cases hparse
  | some shown => exact ⟨shown, ok_of_mapError hshown, hparse⟩

/-- An accepted media type is the one that a message was taken apart by. -/
theorem splitBy_of_mediaType [Platform] (h : message.TakenApart inDigest)
    (hfound : mediaType message = .ok found) : message.SplitBy found.name := by
  obtain ⟨shown, hshown, hparse⟩ := exists_shown hfound
  obtain ⟨hother, hsplit, -⟩ := h
  cases hshown.symm.trans hother
  rwa [MediaType.structuralType_of_parse hparse] at hsplit

/-- Plain text has no parts. -/
theorem not_isContainer_of_plain (h : message.SplitBy "text/plain") : message.isContainer = false := by
  cases message with
  | leaf fields body => rfl
  | container fields parts => exact absurd h.1 (by decide)

end Accepted

/-! ## Bodies can be read -/

theorem readMessage_ne_unreadable [Platform] (bytes : List UInt8) :
    readMessage bytes ≠ .error (.gateway .unreadableBody) := by
  unfold readMessage
  cases Message.read bytes with
  | ok message => nofun
  | error fault =>
    change Except.error (if fault.isIndex then Fault.field fault
      else .gateway (.unreadableMessage fault)) ≠ _
    split <;> nofun

theorem mediaType_ne_unreadable [Platform] (message : Message) :
    mediaType message ≠ .error (.gateway .unreadableBody) := by
  unfold mediaType
  cases shownContentType? message.fields with
  | error fault => nofun
  | ok shown =>
    change MediaType.parse shown ≠ _
    unfold MediaType.parse
    dsimp only
    split
    · nofun
    split
    · nofun
    split
    · nofun
    · split <;> nofun

theorem text_leaf_ne_unreadable [Platform] (fields : List Field) (body : List UInt8) :
    (text (.leaf fields body)).2 ≠ .error (.gateway .unreadableBody) := by
  unfold text
  dsimp only
  cases transferEncoding fields with
  | error fault => nofun
  | ok encoding =>
    cases hname : charsetName fields with
    | error fault =>
      rintro ⟨⟩
      exact Bool.false_ne_true (isUnhandled_of_charsetName hname)
    | ok name =>
      dsimp only
      split
      · nofun
      · split <;> nofun

section TakenApart

variable {inDigest : Bool} {message : Message}

variable [Platform]

/-- Plain text is never a container, so its body can be read. -/
theorem text_ne_unreadable {found : MediaType} (h : message.TakenApart inDigest)
    (hfound : mediaType message = .ok found) (hplain : found.name = "text/plain") :
    (text message).2 ≠ .error (.gateway .unreadableBody) := by
  have hleaf := not_isContainer_of_plain (hplain ▸ splitBy_of_mediaType h hfound)
  cases message with
  | leaf fields body => exact text_leaf_ne_unreadable fields body
  | container fields parts => cases hleaf

theorem firstPlain_ne_unreadable {parts : List Message}
    (h : ∀ part ∈ parts, part.TakenApart inDigest) (index : Nat) :
    (firstPlain index parts).2 ≠ .error (.gateway .unreadableBody) := by
  induction parts generalizing index with
  | nil => nofun
  | cons part parts ih =>
    obtain ⟨hpart, hparts⟩ := List.forall_mem_cons.mp h
    rw [firstPlain]
    cases hfound : mediaType part with
    | error fault =>
      rintro ⟨⟩
      exact mediaType_ne_unreadable part hfound
    | ok found =>
      dsimp only
      split
      · next hplain => exact text_ne_unreadable hpart hfound hplain
      · exact ih hparts (index + 1)

theorem ofMessage_ne_unreadable (h : message.TakenApart inDigest) :
    (ofMessage message).2 ≠ .error (.gateway .unreadableBody) := by
  rw [ofMessage]
  cases hfound : mediaType message with
  | error fault =>
    rintro ⟨⟩
    exact mediaType_ne_unreadable message hfound
  | ok found =>
    dsimp only
    split
    · next hplain => exact text_ne_unreadable h hfound hplain
    split
    · obtain ⟨-, -, hparts⟩ := h
      split
      · nofun
      split
      · nofun
      · exact firstPlain_ne_unreadable hparts 0
    · nofun

theorem readMessage_takenApart {bytes : List UInt8} (h : readMessage bytes = .ok message) :
    message.TakenApart false :=
  Message.read_takenApart (ok_of_mapError h)

end TakenApart

/-- In a message that was read, where the strict reading accepts the media type of the message itself or of
one of its parts: it gives the text before the first semicolon, trimmed and in lower case, and by this type
it was decided, wherever the part stands, whether the part is in parts itself.  So what is accepted as plain
text has a body, and it never happens that the body to forward cannot be read. -/
theorem mediaType_eq_structuralType [Platform] (bytes : List UInt8) :
    (∀ message, readMessage bytes = .ok message →
      ∀ part ∈ message :: message.parts, ∀ found, mediaType part = .ok found →
        ∃ shown, shownContentType? part.fields = .ok (some shown) ∧
          found.name = Text.lower (Text.trim (Text.cut (· == ';') shown).1) ∧
          (∀ inDigest, structuralType inDigest (some shown) = found.name) ∧
          part.SplitBy found.name ∧ (found.name = "text/plain" → part.isContainer = false)) ∧
    (extract bytes).2 ≠ .error (.gateway .unreadableBody) := by
  constructor
  · intro message hread part hpart found hfound
    obtain ⟨inDigest, htaken⟩ := (readMessage_takenApart hread).of_mem hpart
    obtain ⟨shown, hshown, hparse⟩ := exists_shown hfound
    obtain ⟨written, hfront, hname⟩ := MediaType.name_of_parse hparse
    have hsplit := splitBy_of_mediaType htaken hfound
    refine ⟨shown, hshown, ?_, MediaType.structuralType_of_parse hparse, hsplit, ?_⟩
    · rw [hname, ← hfront, MediaType.front]
    · exact fun hplain ↦ not_isContainer_of_plain (hplain ▸ hsplit)
  · unfold extract
    split
    · next message hread => exact ofMessage_ne_unreadable (readMessage_takenApart hread)
    · next fault hread =>
      rintro ⟨⟩
      exact readMessage_ne_unreadable bytes hread

/-- A digest with a part that writes plain text in capitals, with blanks and a semicolon behind it, before
another media type. -/
def loudDigest : List UInt8 :=
  Text.utf8 ("Content-Type: Multipart/DIGEST; boundary=b\r\n\r\n--b\r\n" ++
    "Content-Type: TEXT/Plain ;\r\nContent-Type: message/rfc822\r\n\r\nhi\r\n--b--\r\n" : String)

section Bare

attribute [local instance] Platform.bare

/-- A part of a digest that says it is plain text is read as plain text. -/
theorem loudDigest_plain : ∃ message part found, readMessage loudDigest = .ok message ∧
    part ∈ message :: message.parts ∧ mediaType part = .ok found ∧ found.name = "text/plain" ∧
    part.isContainer = false ∧ (extract loudDigest).2 ≠ .error (.gateway .unreadableBody) := by
  have hname : ((readMessage loudDigest).toOption.bind fun message ↦ message.parts.head?.bind fun part ↦
      (mediaType part).toOption.map MediaType.name) = some "text/plain".toList := by decide +kernel
  obtain ⟨message, hmessage, hname⟩ := Option.bind_eq_some_iff.mp hname
  obtain ⟨part, hpart, hname⟩ := Option.bind_eq_some_iff.mp hname
  obtain ⟨found, hfound, hplain⟩ := Option.map_eq_some_iff.mp hname
  have hread := ok_of_toOption hmessage
  have hmem : part ∈ message :: message.parts :=
    List.mem_cons_of_mem _ (List.mem_of_mem_head? hpart)
  obtain ⟨hdecides, htext⟩ := mediaType_eq_structuralType loudDigest
  obtain ⟨_, -, -, -, -, hleaf⟩ := hdecides message hread part hmem found (ok_of_toOption hfound)
  exact ⟨message, part, found, hread, hmem, ok_of_toOption hfound, hplain, hleaf hplain, htext⟩

end Bare

end Body

end MailGateway.Mail
