import MailGateway.Proofs.MessageLimit
import MailGateway.Proofs.MixedSubject
import MailGateway.Proofs.PlainMail

/-!
# Folded subjects

A long subject is folded: a line end goes before any of its spaces and tabs.  The text of a subject
without encoded words comes back as the title of the publication, without the blanks around it, wherever
it was folded, whatever characters it has, in whichever case its field is named and wherever this field
stands.
-/

namespace MailGateway

namespace Text

/-! ## ASCII in UTF-8 -/

/-- Every byte of a character above ASCII is above ASCII. -/
theorem le_of_mem_utf8EncodeChar {c : Char} (h : 128 ≤ c.toNat) {b : UInt8}
    (hb : b ∈ String.utf8EncodeChar c) : 128 ≤ b.toNat := by
  have hbyte (n k : Nat) (hk : 128 ≤ k) (hn : n + k < 256) : 128 ≤ (UInt8.ofNat (n + k)).toNat := by
    rw [Charset.toNat_byte hn]
    omega
  change 128 ≤ c.val.toNat at h
  unfold String.utf8EncodeChar at hb
  generalize c.val.toNat = n at h hb
  dsimp only at hb
  rw [if_neg (by omega)] at hb
  split at hb
  · simp only [List.mem_cons, List.not_mem_nil, or_false] at hb
    rcases hb with rfl | rfl
    all_goals exact hbyte _ _ (by decide) (by omega)
  split at hb
  · simp only [List.mem_cons, List.not_mem_nil, or_false] at hb
    rcases hb with rfl | rfl | rfl
    all_goals exact hbyte _ _ (by decide) (by omega)
  · simp only [List.mem_cons, List.not_mem_nil, or_false] at hb
    rcases hb with rfl | rfl | rfl | rfl
    all_goals exact hbyte _ _ (by decide) (by omega)

theorem utf8_cons (c : Char) (text : Text) : utf8 (c :: text) = String.utf8EncodeChar c ++ utf8 text :=
  List.flatMap_cons

theorem utf8_append (a b : Text) : utf8 (a ++ b) = utf8 a ++ utf8 b :=
  List.flatMap_append

/-- An ASCII byte of a text is an ASCII character of it. -/
theorem mem_of_mem_utf8 {text : Text} {b : UInt8} (hb : b ∈ text.utf8) (hascii : b.toNat < 128) :
    Char.ofNat b.toNat ∈ text := by
  obtain ⟨c, hc, hb⟩ := List.mem_flatMap.mp hb
  by_cases hlow : c.toNat < 128
  · rw [utf8EncodeChar_ascii hlow, List.mem_singleton] at hb
    rwa [hb, Charset.toNat_byte (by omega), Char.ofNat_toNat]
  · have := le_of_mem_utf8EncodeChar (by omega) hb
    omega

def isSpacing (c : Char) : Bool :=
  c == ' ' || c == '\t'

/-- Leading spaces and tabs are dropped before or after writing the bytes. -/
theorem dropWhile_utf8 (text : Text) :
    text.utf8.dropWhile (fun b ↦ b == 32 || b == 9) = utf8 (text.dropWhile isSpacing) := by
  induction text with
  | nil => rfl
  | cons c text ih =>
    cases hc : isSpacing c with
    | true =>
      rw [List.dropWhile_cons_of_pos hc, ← ih]
      rcases (by simpa [isSpacing] using hc : c = ' ' ∨ c = '\t') with rfl | rfl <;> rfl
    | false =>
      rw [List.dropWhile_cons_of_neg (by simp [hc])]
      obtain ⟨b, tail, hchar⟩ := List.exists_cons_of_ne_nil (String.utf8EncodeChar_ne_nil (c := c))
      have hb : b ∈ utf8 [c] := by
        rw [utf8_cons, hchar]
        exact List.mem_cons_self
      have hstop : ¬(b == 32 || b == 9) = true := by
        intro h
        -- Such a byte is the character itself.
        rcases (by simpa using h : b = 32 ∨ b = 9) with rfl | rfl
        all_goals
          cases List.mem_singleton.mp (mem_of_mem_utf8 hb (by decide))
          cases hc
      rw [utf8_cons, hchar]
      exact List.dropWhile_cons_of_neg hstop

end Text

namespace Mail

/-! ## Unfolding -/

namespace Field

/-- No line breaks inside. -/
def IsUnbroken (text : Text) : Prop :=
  ∀ c ∈ text, c ≠ '\n' ∧ c ≠ '\r'

instance (text : Text) : Decidable (IsUnbroken text) :=
  List.decidableBAll _ text

theorem IsUnbroken.utf8 {text : Text} (h : IsUnbroken text) : Line.IsUnbroken text.utf8 := by
  intro b hb
  constructor
  · rintro rfl
    exact (h _ (Text.mem_of_mem_utf8 hb (by decide))).1 rfl
  · rintro rfl
    exact (h _ (Text.mem_of_mem_utf8 hb (by decide))).2 rfl

/-- The lines of a folded text, one after the other. -/
def joinFolded (first : Text) (more : List Text) : Text :=
  first ++ more.flatMap fun line ↦ '\r' :: '\n' :: line

theorem joinFolded_cons (first line : Text) (more : List Text) :
    joinFolded first (line :: more) = first ++ '\r' :: '\n' :: joinFolded line more :=
  rfl

theorem unfoldText_cons {c : Char} (h : c ≠ '\n' ∧ c ≠ '\r') (rest : Text) :
    unfoldText (c :: rest) = c :: unfoldText rest := by
  rw [unfoldText]
  · rintro _ rfl
    exact absurd rfl h.2
  · rintro rfl
    exact absurd rfl h.1

theorem unfoldText_append {line : Text} (h : IsUnbroken line) (rest : Text) :
    unfoldText (line ++ rest) = line ++ unfoldText rest := by
  induction line with
  | nil => rfl
  | cons c line ih =>
    rw [List.cons_append, unfoldText_cons (h c List.mem_cons_self),
      ih fun d hd ↦ h d (List.mem_cons_of_mem _ hd), List.cons_append]

theorem startsIndented_append {line : Text} (h : startsIndented line = true) (rest : Text) :
    startsIndented (line ++ rest) = true := by
  cases line with
  | nil => cases h
  | cons c line => exact h

theorem isContinuation_utf8 {line : Text} (h : startsIndented line = true) :
    Line.isContinuation line.utf8 = true := by
  cases line with
  | nil => cases h
  | cons c line =>
    have hblank : c = ' ' ∨ c = '\t' := by simpa [startsIndented] using h
    rcases hblank with rfl | rfl <;> rfl

/-- Unfolding undoes folding. -/
theorem unfoldText_joinFolded {first : Text} {more : List Text} (hfirst : IsUnbroken first)
    (hmore : ∀ line ∈ more, IsUnbroken line ∧ startsIndented line = true) :
    unfoldText (joinFolded first more) = first ++ more.flatten := by
  -- The next line takes the place of the first one, so the induction is for any first line.
  induction more generalizing first with
  | nil =>
    have h := unfoldText_append hfirst []
    rwa [unfoldText] at h
  | cons line more ih =>
    obtain ⟨hline, hindented⟩ := hmore line List.mem_cons_self
    have ih := ih hline fun next hnext ↦ hmore next (List.mem_cons_of_mem _ hnext)
    rw [joinFolded_cons, unfoldText_append hfirst, unfoldText, joinFolded,
      if_pos (startsIndented_append hindented _), ← joinFolded, ih, List.flatten_cons]

/-- A folded text does not end in a line break. -/
theorem getLast?_utf8_joinFolded {first : Text} {more : List Text} (hfirst : IsUnbroken first)
    (hmore : ∀ line ∈ more, IsUnbroken line ∧ startsIndented line = true) :
    ∀ b ∈ (joinFolded first more).utf8.getLast?, b ≠ 10 ∧ b ≠ 13 := by
  induction more generalizing first with
  | nil =>
    intro b hb
    rw [joinFolded, List.flatMap_nil, List.append_nil] at hb
    exact hfirst.utf8 b (List.mem_of_getLast? hb)
  | cons line more ih =>
    obtain ⟨hline, hindented⟩ := hmore line List.mem_cons_self
    have hne : (joinFolded line more).utf8 ≠ [] := by
      intro hnil
      have hcontinuation := isContinuation_utf8 (startsIndented_append hindented
        (more.flatMap fun line ↦ '\r' :: '\n' :: line))
      rw [← joinFolded, hnil] at hcontinuation
      cases hcontinuation
    intro b hb
    rw [joinFolded_cons, Text.utf8_append, Text.utf8_cons, Text.utf8_cons, ← List.append_assoc,
      ← List.append_assoc, List.getLast?_append, Option.or_of_isSome (by simpa using hne)] at hb
    exact ih hline (fun next hnext ↦ hmore next (List.mem_cons_of_mem _ hnext)) b hb

/-- The bytes of a text as symbols stand for the text. -/
theorem toText_map_ofByte (text : Text) : Symbol.toText (text.utf8.map Symbol.ofByte) = text := by
  have hchar : ∀ n < 128, (Char.ofNat n).toNat = n := by decide
  have hbytes (b : UInt8) : (Symbol.ofByte b).bytes = [b] := by
    unfold Symbol.ofByte
    split
    · next h =>
      have hb : b.toNat < 128 := UInt8.lt_iff_toNat_lt.mp h
      rw [Symbol.bytes, Text.utf8EncodeChar_ascii (by rwa [hchar _ hb]), hchar _ hb, UInt8.ofNat_toNat]
    · rfl
  rw [Symbol.toText, List.flatMap_map]
  simp only [hbytes]
  rw [List.flatMap_singleton', Charset.lossy_utf8]

end Field

/-! ## Subjects -/

/-- A subject as it is written: the name of its field in any case, and the lines that its text is folded
into. -/
structure FoldedSubject where
  name : Text
  first : Text
  more : List Text
  toLower_name : name.map Char.toLower = "subject".toList
  first_isUnbroken : Field.IsUnbroken first
  more_isUnbroken : ∀ line ∈ more, Field.IsUnbroken line
  more_isIndented : ∀ line ∈ more, Field.startsIndented line = true
  isUnmarked : Subject.IsUnmarked (first ++ more.flatten)

namespace FoldedSubject

variable (subject : FoldedSubject)

def text : Text :=
  subject.first ++ subject.more.flatten

/-- Whether the character is a letter of the name of the field. -/
def isNameLetter (c : Char) : Bool :=
  "subject".toList.contains c.toLower

theorem isNameLetter_lt {c : Char} (h : isNameLetter c = true) : c.toNat < 128 := by
  have hletters : "subject".toList.all (fun d ↦ decide (d.toNat < 128)) = true := by decide
  by_cases hupper : c.val ≥ 'A'.val ∧ c.val ≤ 'Z'.val
  · have hle : c.val.toNat ≤ 'Z'.val.toNat := UInt32.le_iff_toNat_le.mp hupper.2
    exact Nat.lt_of_le_of_lt hle (by decide)
  · have hlower : c.toLower = c := dif_neg hupper
    rw [isNameLetter, hlower, List.contains_iff_mem] at h
    exact of_decide_eq_true (List.all_eq_true.mp hletters c h)

theorem isNameLetter_of_mem {c : Char} (h : c ∈ subject.name) : isNameLetter c = true := by
  rw [isNameLetter, ← subject.toLower_name, List.contains_iff_mem]
  exact List.mem_map_of_mem h

theorem isFieldName_name : IsFieldName subject.name := by
  constructor
  · intro hnil
    have hname := subject.toLower_name
    rw [hnil] at hname
    cases hname
  · intro c hc
    apply Field.forall_ascii isNameLetter_lt _ (subject.isNameLetter_of_mem hc)
    decide

theorem isFieldValue_nil : IsFieldValue [] :=
  ⟨List.forall_mem_nil _, nofun⟩

/-- The name of the field is the subject's, whatever its case. -/
theorem lower_name : Text.lower subject.name = "subject" := by
  rw [Text.lower_ascii fun c hc ↦ isNameLetter_lt (subject.isNameLetter_of_mem hc),
    subject.toLower_name]

def written : Field.Written :=
  { Field.Written.ofTexts subject.name [] subject.isFieldName_name isFieldValue_nil with
    first := 32 :: subject.first.utf8
    more := subject.more.map Text.utf8
    first_isUnbroken := List.forall_mem_cons.mpr ⟨by decide, subject.first_isUnbroken.utf8⟩
    more_isUnbroken := List.forall_mem_map.mpr fun line hline ↦
      (subject.more_isUnbroken line hline).utf8
    more_isContinuation := List.forall_mem_map.mpr fun line hline ↦
      Field.isContinuation_utf8 (subject.more_isIndented line hline) }

theorem name_written : subject.written.field.name = subject.name :=
  congrArg Field.name (Field.Written.ofTexts_field subject.isFieldName_name isFieldValue_nil)

theorem more_isFolded :
    ∀ line ∈ subject.more, Field.IsUnbroken line ∧ Field.startsIndented line = true :=
  fun line hline ↦ ⟨subject.more_isUnbroken line hline, subject.more_isIndented line hline⟩

theorem flatten_crlf (lines : List (List UInt8)) :
    Line.crlf ++ (lines.map (· ++ Line.crlf)).flatten =
      lines.flatMap (Line.crlf ++ ·) ++ Line.crlf := by
  induction lines with
  | nil => rfl
  | cons line lines ih =>
    rw [List.map_cons, List.flatten_cons, List.append_assoc, ih, List.flatMap_cons, List.append_assoc,
      List.append_assoc]

/-- What stands behind the name and the colon is a space and the folded text. -/
theorem value_written : subject.written.first ++ Line.crlf ++ subject.written.moreLines.flatten =
    32 :: ((Field.joinFolded subject.first subject.more).utf8 ++ Line.crlf) := by
  have hmore : (subject.more.map Text.utf8).flatMap (Line.crlf ++ ·) =
      Text.utf8 (subject.more.flatMap fun line ↦ '\r' :: '\n' :: line) := by
    rw [Text.utf8, List.flatMap_assoc, List.flatMap_map]
    rfl
  calc subject.written.first ++ Line.crlf ++ subject.written.moreLines.flatten
    _ = 32 :: (subject.first.utf8 ++
          (Line.crlf ++ ((subject.more.map Text.utf8).map (· ++ Line.crlf)).flatten)) :=
      List.append_assoc ..
    _ = 32 :: ((Field.joinFolded subject.first subject.more).utf8 ++ Line.crlf) := by
      rw [flatten_crlf, hmore, ← List.append_assoc, ← Text.utf8_append, Field.joinFolded]

/-- The spaces and tabs before the text are left out, on its first line only. -/
theorem raw_written :
    subject.written.field.raw = subject.first.dropWhile Text.isSpacing ++ subject.more.flatten := by
  have hfirst : Field.IsUnbroken (subject.first.dropWhile Text.isSpacing) :=
    fun c hc ↦ subject.first_isUnbroken c ((List.dropWhile_sublist _).subset hc)
  have hstart : ∀ b ∈ Line.crlf.head?, (b == 32 || b == 9) = false := by
    rintro b ⟨⟩
    rfl
  -- The blanks end with the first line, since a line end follows it.
  have hfold : ∀ c ∈ (subject.more.flatMap fun line ↦ '\r' :: '\n' :: line).head?,
      Text.isSpacing c = false := by
    cases subject.more with
    | nil => exact fun _ hc ↦ nomatch hc
    | cons line more =>
      rintro c ⟨⟩
      rfl
  have hend : ∀ b ∈ Line.crlf, (b == 10 || b == 13) = true := by simp [Line.crlf]
  have hlast : ∀ b ∈ (Field.joinFolded (subject.first.dropWhile Text.isSpacing)
      subject.more).utf8.getLast?, (b == 10 || b == 13) = false := by
    intro b hb
    simpa using Field.getLast?_utf8_joinFolded hfirst subject.more_isFolded b hb
  have hvalue : subject.written.field.value =
      (Field.joinFolded (subject.first.dropWhile Text.isSpacing) subject.more).utf8.map
        Symbol.ofByte := by
    rw [Field.Written.field, Field.ofLines, value_written]
    dsimp only
    rw [List.dropWhile_cons_of_pos (by decide), Text.dropWhile_append_stop hstart,
      Text.dropTail_append_dropped hend, Text.dropWhile_utf8, Field.joinFolded,
      Text.dropWhile_append_stop hfold, ← Field.joinFolded, Text.dropTail_eq hlast]
  rw [Field.raw, hvalue, Field.toText_map_ofByte,
    Field.unfoldText_joinFolded hfirst subject.more_isFolded]

/-- Without its line breaks the field is the subject, blanks at the ends aside. -/
theorem trim_raw_written : Text.trim subject.written.field.raw = Text.trim subject.text := by
  have hblank (c : Char) (h : Text.isSpacing c = true) : Text.isBlank c = true := by
    rcases (by simpa [Text.isSpacing] using h : c = ' ' ∨ c = '\t') with rfl | rfl <;> decide
  rw [raw_written, Text.trim, Text.trim, Text.trimBy, Text.trimBy,
    Text.dropWhile_dropWhile_append hblank, text]

end FoldedSubject

/-- A subject without encoded words is decoded as it stands. -/
theorem Subject.decode_unmarked [Platform] {subject : Text} (h : IsUnmarked subject) :
    decode subject = .ok subject :=
  if_neg (Bool.eq_false_iff.mp (hasWord_eq_false h))

theorem FoldedSubject.isUnmarked_trim (subject : FoldedSubject) :
    Subject.IsUnmarked (Text.trim subject.text) :=
  fun hmark ↦ subject.isUnmarked (hmark.trans (Text.trimBy_infix Text.isBlank subject.text))

/-- The first field with the name is the subject. -/
theorem FoldedSubject.field?_written (subject : FoldedSubject) {before after : List Field.Written}
    (hbefore : ∀ field ∈ before, Text.lower field.field.name ≠ "subject") :
    field? "subject" ((before ++ subject.written :: after).map Field.Written.field) =
      some subject.written.field := by
  have hname : Text.lower subject.written.field.name = "subject" := by
    rw [subject.name_written, subject.lower_name]
  rw [List.map_append, Head.field?_append (List.forall_mem_map.mpr hbefore), List.map_cons, field?,
    List.find?_cons_of_pos]
  simpa using hname

end Mail

/-! ## Titles -/

namespace Publication

/-- What comes of a mail that can be read, has a text and has a subject that can be decoded. -/
theorem assemble_of_read [Platform] {ids : IdSource} {time limit : Int} {topic : Text} {mail : List UInt8}
    {message : Mail.Message} {notices : List Mail.Notice} {body title : Text}
    (hread : Mail.Body.readMessage mail = .ok message)
    (hbody : Mail.Body.ofMessage message = (notices, .ok body))
    (htitle : Mail.Subject.decode (subject message) = .ok title) :
    (assemble ids time topic limit mail).result =
      .ok ((ofMail topic (Text.truncate limit (Text.trim body)) ids.next.1 time).withTitle title) := by
  rw [assemble, hread]
  dsimp only
  rw [hbody]
  dsimp only
  rw [withSubject_eq rfl, htitle]
  rfl

theorem withTitle_of_message {p : Publication} (h : p.message ≠ []) (title : Text) :
    p.withTitle title = { p with title := title } :=
  if_neg (by simp [h])

/-- The title of a mail with a text is the text of its subject without the blanks around it. -/
theorem assemble_foldedSubject [Platform] {head : Mail.Head} {subject : Mail.FoldedSubject}
    {before after : List Mail.Field.Written} {body : List UInt8} {limit : Int}
    (htype : head.contentType = some (.type Mail.PlainMail.type))
    (hwritten : head.written = before ++ subject.written :: after)
    (hbefore : ∀ field ∈ before, Text.lower field.field.name ≠ "subject")
    (hbody : Text.trim (head.plainText body) ≠ []) (hlimit : 1 ≤ limit)
    (ids : IdSource) (time : Int) (topic : Text) :
    (assemble ids time topic limit (head.bytesWith body)).result =
      .ok { ofMail topic (Text.truncate limit (Text.trim (head.plainText body))) ids.next.1 time with
        title := Text.trim subject.text } := by
  have hfield : Mail.field? (Text.lower "Subject") head.fields = some subject.written.field := by
    have hlower : Text.lower "Subject" = "subject" := by decide
    rw [hlower, Mail.Head.fields, hwritten, subject.field?_written hbefore]
  have hsubject : Publication.subject (.leaf head.fields body) = Text.trim subject.text := by
    rw [Publication.subject, Mail.rawField?, Mail.Message.fields, hfield, Option.map_some,
      Option.getD_some, subject.trim_raw_written]
  have htitle : Mail.Subject.decode (Publication.subject (.leaf head.fields body)) =
      .ok (Text.trim subject.text) := by
    rw [hsubject, Mail.Subject.decode_unmarked subject.isUnmarked_trim]
  have hmessage : Text.truncate limit (Text.trim (head.plainText body)) ≠ [] :=
    fun hnil ↦ hbody ((Text.truncate_eq_nil_iff hlimit _).mp hnil)
  rw [assemble_of_read (Mail.Head.readMessage_bytesWith htype body) (Mail.Head.ofMessage_leaf htype body)
    htitle, withTitle_of_message hmessage]

/-- A subject with characters above ASCII, folded twice, with a line that is blank. -/
def stockSubject : Mail.FoldedSubject where
  name := "sUBJECT"
  first := "  Größe"
  more := [['\t', ' '], " des Lagers €"]
  toLower_name := by decide
  first_isUnbroken := by decide +kernel
  more_isUnbroken := by decide +kernel
  more_isIndented := by decide +kernel
  isUnmarked := by decide +kernel

def noteField : Mail.Field.Written :=
  .ofTexts "X-Note" "Re: Subject" (by decide) ⟨List.all_eq_true.mp (by decide), by decide⟩

def stockHead : Mail.Head where
  contentType := some (.type Mail.PlainMail.type)
  encoding := none
  before := [noteField]
  after := [stockSubject.written]
  isOther_before := List.forall_mem_singleton.mpr ⟨by decide +kernel, by decide +kernel⟩
  isOther_after := List.forall_mem_singleton.mpr ⟨by decide +kernel, by decide +kernel⟩

def stockMail : List UInt8 :=
  Text.utf8 ("X-Note: Re: Subject\r\nContent-Type: text/plain; charset=utf-8\r\n" ++
    "sUBJECT:   Größe\r\n\t \r\n des Lagers €\r\n\r\nAll of it\r\n" : String)

section Bare

attribute [local instance] Platform.bare

/-- Folds are taken out of a title, and the message is cut to its limit. -/
theorem stockMail_title :
    stockMail = stockHead.bytesWith (Text.utf8 "All of it\r\n") ∧
      (assemble ⟨[], 0⟩ 0 "t" 4 stockMail).result =
        .ok ⟨"t", "All ", "Größe\t  des Lagers €", "abcdefghijkl", 0, "message"⟩ := by
  have hmail : stockMail = stockHead.bytesWith (Text.utf8 "All of it\r\n") := by decide +kernel
  have hwritten : stockHead.written =
      [noteField, Mail.Head.typeField (.type Mail.PlainMail.type)] ++ stockSubject.written :: [] := rfl
  have hbefore : ∀ field ∈ [noteField, Mail.Head.typeField (.type Mail.PlainMail.type)],
      Text.lower field.field.name ≠ "subject" :=
    List.forall_mem_cons.mpr ⟨by decide +kernel, List.forall_mem_singleton.mpr (by decide +kernel)⟩
  refine ⟨hmail, ?_⟩
  rw [hmail, assemble_foldedSubject rfl hwritten hbefore (by decide +kernel) (by decide)]
  exact congrArg Except.ok (by decide +kernel)

end Bare

end Publication

end MailGateway
