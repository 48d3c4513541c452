import Mathlib.Data.List.Forall2
import MailGateway.Log.Setup
import MailGateway.Proofs.JsonReading
import MailGateway.Proofs.Results

/-!
# One line for each record

A JSON line has only visible characters of ASCII and blanks, because every other character of a text is
written as an escape.  So the line breaks of the log are those between the lines, and a line is read as an
object with the data of its record: what a record says cannot end its line, start another one or change the
other data.
-/

namespace MailGateway

/-! ## Visible texts -/

namespace Text

/-- A text of visible characters of ASCII and blanks. -/
def Visible (text : Text) : Prop :=
  ∀ c ∈ text, 0x20 ≤ c.toNat ∧ c.toNat < 0x7f

instance (text : Text) : Decidable text.Visible :=
  List.decidableBAll _ text

@[simp]
theorem visible_nil : Visible [] := List.forall_mem_nil _

@[simp]
theorem visible_cons {c : Char} {text : Text} :
    Visible (c :: text) ↔ (0x20 ≤ c.toNat ∧ c.toNat < 0x7f) ∧ text.Visible :=
  List.forall_mem_cons

@[simp]
theorem visible_append {first second : Text} :
    Visible (first ++ second) ↔ first.Visible ∧ second.Visible :=
  List.forall_mem_append

theorem visible_hex {n : Nat} (h : n < 0x10000) : Visible (hex 4 n) := by
  have hdigit : ∀ d < 16, 0x20 ≤ d.digitChar.toNat ∧ d.digitChar.toNat < 0x7f := by decide
  have hlast (n : Nat) := hdigit (n % 16) (Nat.mod_lt _ (by decide))
  rw [hex_four h]
  simp only [visible_cons, visible_nil, and_true]
  exact ⟨hdigit _ (by omega), hlast _, hlast _, hlast _⟩

theorem visible_ofInt (n : Int) : (ofInt n).Visible := by
  intro c hc
  rcases Bool.or_eq_true_iff.mp (Json.isNumeral_of_mem_ofInt hc) with hdigit | hminus
  · have hrange : 48 ≤ c.toNat ∧ c.toNat ≤ 57 := by
      simpa [Char.isDigit, UInt32.le_iff_toNat_le] using hdigit
    omega
  · rw [beq_iff_eq.mp hminus]
    decide

theorem visible_join {mark : Text} (hmark : mark.Visible) {texts : List Text}
    (h : ∀ text ∈ texts, text.Visible) : (join mark texts).Visible := by
  induction texts with
  | nil => exact visible_nil
  | cons first more ih =>
    obtain ⟨hfirst, hmore⟩ := List.forall_mem_cons.mp h
    cases more with
    | nil => simpa [join] using hfirst
    | cons second more =>
      rw [join, List.intercalate_cons_cons, visible_append, visible_append]
      exact ⟨⟨hfirst, hmark⟩, ih hmore⟩

end Text

namespace Value

/-- A character that is not visible is written as an escape. -/
theorem visible_jsonChar (c : Char) : (jsonChar true c).Visible := by
  by_cases hshort : c ∈ Json.shortlyEscaped
  · simp only [Json.shortlyEscaped, List.mem_cons, List.not_mem_nil, or_false] at hshort
    rcases hshort with rfl | rfl | rfl | rfl | rfl | rfl | rfl
    all_goals decide
  have hvalid : c.toNat < 0xd800 ∨ 0xdfff < c.toNat ∧ c.toNat < 0x110000 := c.valid
  have hmark : Text.Visible "\\u" := by decide
  rw [Json.jsonChar_of_not_mem true hshort]
  split
  · exact Text.visible_append.mpr ⟨hmark, Text.visible_hex (by omega)⟩
  split
  · next hcontrol hraw =>
    exact Text.visible_cons.mpr ⟨⟨by omega, by simpa using hraw⟩, Text.visible_nil⟩
  split
  · next hplane => exact Text.visible_append.mpr ⟨hmark, Text.visible_hex hplane⟩
  · simp only [Text.visible_append]
    exact ⟨⟨⟨hmark, Text.visible_hex (by omega)⟩, hmark⟩, Text.visible_hex (by omega)⟩

/-- A text is visible between its quotes, whatever it holds. -/
theorem visible_jsonText (text : Text) : (jsonText true text).Visible := by
  have hcontent : Text.Visible (text.flatMap (jsonChar true)) := by
    intro d hd
    obtain ⟨c, -, hmem⟩ := List.mem_flatMap.mp hd
    exact visible_jsonChar c d hmem
  exact Text.visible_append.mpr ⟨Text.visible_cons.mpr ⟨by decide, hcontent⟩, by decide⟩

theorem jsonItems_eq_map (ascii : Bool) (items : List Value) :
    jsonItems ascii items = items.map (json ascii) := by
  induction items with
  | nil => rfl
  | cons item items ih => rw [jsonItems, ih, List.map_cons]

theorem jsonFields_eq_map (ascii : Bool) (fields : List (Text × Value)) :
    jsonFields ascii fields =
      fields.map fun (name, value) ↦ jsonText ascii name ++ ": " ++ value.json ascii := by
  induction fields with
  | nil => rfl
  | cons field fields ih => rw [jsonFields, ih, List.map_cons]

/-- Whatever the texts in a value hold, its JSON in ASCII is visible. -/
theorem IsWhole.visible_json {v : Value} (h : v.IsWhole) : (v.json true).Visible := by
  have hseparator : separator.Visible := by decide
  induction h with
  | null => decide
  | bool b => cases b <;> decide
  | int n => exact Text.visible_ofInt n
  | text t => exact visible_jsonText t
  | list _ ih =>
    rw [json, jsonItems_eq_map]
    refine Text.visible_append.mpr ⟨Text.visible_cons.mpr ⟨by decide, ?_⟩, by decide⟩
    exact Text.visible_join hseparator (List.forall_mem_map.mpr ih)
  | object _ ih =>
    rw [json, jsonFields_eq_map]
    refine Text.visible_append.mpr ⟨Text.visible_cons.mpr ⟨by decide, ?_⟩, by decide⟩
    refine Text.visible_join hseparator (List.forall_mem_map.mpr fun field hfield ↦ ?_)
    simp only [Text.visible_append]
    exact ⟨⟨visible_jsonText field.1, by decide⟩, ih field hfield⟩

end Value

/-! ## Lines -/

namespace Text

/-- A character that is no mark belongs to the first piece. -/
theorem splitAll_cons_of_neg {p : Char → Bool} {c : Char} (h : p c = false) {text first : Text}
    {more : List Text} (htext : splitAll p text = first :: more) :
    splitAll p (c :: text) = (c :: first) :: more := by
  rw [splitAll, h, htext]
  rfl

/-- What stands before the first mark is the first piece. -/
theorem splitAll_append {p : Char → Bool} {text : Text} (h : ∀ c ∈ text, p c = false) {mark : Char}
    (hmark : p mark = true) (rest : Text) :
    splitAll p (text ++ mark :: rest) = text :: splitAll p rest := by
  induction text with
  | nil => rw [List.nil_append, splitAll, if_pos hmark]
  | cons c text ih =>
    obtain ⟨hc, htext⟩ := List.forall_mem_cons.mp h
    rw [List.cons_append, splitAll_cons_of_neg hc (ih htext)]

/-- Visible lines are found again at the line breaks that end them. -/
theorem splitAll_lines {lines : List Text} (h : ∀ line ∈ lines, line.Visible) :
    splitAll (· == '\n') (lines.flatMap (· ++ ['\n'])) = lines ++ [[]] := by
  induction lines with
  | nil => rfl
  | cons line lines ih =>
    obtain ⟨hline, hlines⟩ := List.forall_mem_cons.mp h
    have hbreak : ∀ c ∈ line, (c == '\n') = false := by
      intro c hc
      have hvisible := hline c hc
      refine beq_false_of_ne ?_
      rintro rfl
      exact absurd hvisible.1 (by decide)
    rw [List.flatMap_cons, List.append_assoc, List.singleton_append,
      splitAll_append hbreak rfl, ih hlines, List.cons_append]

end Text

namespace Log

open Record

/-- A record that can be written as JSON: its message can be filled, no fractions are attached to it, and no
integers that the platform cannot write. -/
structure Record.IsWritable [Platform] (r : Record) : Prop where
  message : ∃ message, r.message = .ok message
  function : r.function.IsWhole
  topic : ∀ topic ∈ r.topic, topic.IsWhole
  digits : ∀ limit ∈ Platform.digitLimit,
    r.function.fits limit = true ∧ ∀ topic ∈ r.topic, topic.fits limit = true

/-- An object with the data of a record, each under a name of its own.  The error and the topic are there
exactly if the record has them. -/
structure Carries (fields : List (Text × Value)) (session : Option Text) (r : Record) : Prop where
  names : (fields.map Prod.fst).Nodup
  level : fields.lookup "level".toList = some (.text (levelName r.level))
  session : fields.lookup "session_id".toList = some (.text (sessionName session))
  logger : fields.lookup "logger".toList = some (.text r.logger)
  function : fields.lookup "function".toList = some r.function
  message : ∃ message, r.message = .ok message ∧ fields.lookup "message".toList = some (.text message)
  error : fields.lookup "error".toList = r.trouble.map fun trouble ↦ .text trouble.text
  traceback : fields.lookup "traceback".toList = r.trouble.map fun trouble ↦ .text trouble.trace
  topic : fields.lookup "topic".toList = r.topic

/-- A line that tells a record. -/
structure Tells (line : Text) (session : Option Text) (r : Record) : Prop where
  visible : line.Visible
  carries : ∃ fields, Json.read line = some (.object fields) ∧ Carries fields session r

/-- The names of the data, the last three only if there is an error or a topic. -/
def fieldNames (hasTrouble hasTopic : Bool) : List Text :=
  ["timestamp".toList, "level".toList, "session_id".toList, "logger".toList, "function".toList,
      "message".toList] ++
    (if hasTrouble then ["error".toList, "traceback".toList] else []) ++
    (if hasTopic then ["topic".toList] else [])

/-- The names of the data are different from each other. -/
theorem nodup_fieldNames : ∀ hasTrouble hasTopic, (fieldNames hasTrouble hasTopic).Nodup := by
  decide

variable {r : Record} {message : Text}

theorem carries_fields (session : Option Text) (written : Moment) (h : r.message = .ok message) :
    Carries ((r.within session).fields written message) session r := by
  have hnames := nodup_fieldNames r.trouble.isSome r.topic.isSome
  obtain ⟨logger, level, template, arguments, function, own, trouble, topic⟩ := r
  cases trouble <;> cases topic <;>
    exact ⟨hnames, rfl, rfl, rfl, rfl, ⟨message, h, rfl⟩, rfl, rfl, rfl⟩

theorem isWhole_fields [Platform] (session : Option Text) (written : Moment) (message : Text)
    (h : r.IsWritable) :
    (Value.object ((r.within session).fields written message)).IsWhole := by
  obtain ⟨-, hfunction, htopic, -⟩ := h
  obtain ⟨logger, level, template, arguments, function, own, trouble, topic⟩ := r
  dsimp only at hfunction
  apply Value.IsWhole.object
  cases topic with
  | none => cases trouble <;> simp [within, fields, Value.IsWhole.text, hfunction]
  | some topic =>
    have htopic := htopic topic rfl
    cases trouble <;> simp [within, fields, Value.IsWhole.text, hfunction, htopic]

/-- Of the fields of a record only the function and the topic may hold integers. -/
theorem fits_fields [Platform] (session : Option Text) (written : Moment) (message : Text)
    (h : r.IsWritable) :
    ∀ limit ∈ Platform.digitLimit,
      (Value.object ((r.within session).fields written message)).fits limit = true := by
  intro limit hlimit
  obtain ⟨hfunction, htopic⟩ := h.digits limit hlimit
  obtain ⟨logger, level, template, arguments, function, own, trouble, topic⟩ := r
  dsimp only at hfunction
  rw [Value.fits, Value.fieldsFit_iff]
  cases topic with
  | none => cases trouble <;> simp [within, fields, Value.fits, hfunction]
  | some topic =>
    have htopic := htopic topic rfl
    cases trouble <;> simp [within, fields, Value.fits, hfunction, htopic]

/-- A record that can be written has a line, and the line tells the record. -/
theorem jsonLine_tells [Platform] (session : Option Text) (written : Moment) (h : r.IsWritable) :
    ∃ line, (r.within session).jsonLine written = .ok line ∧ Tells line session r := by
  obtain ⟨message, hmessage⟩ := h.message
  have hwhole := isWhole_fields session written message h
  have hfilled : (r.within session).message = .ok message := hmessage
  refine ⟨_, ?_, hwhole.visible_json, _, hwhole.read_json true, carries_fields session written hmessage⟩
  rw [jsonLine, hfilled]
  exact congrArg (Except.mapError LineError.value)
    (Value.json?_of_fits (fits_fields session written message h))

namespace Setup

variable {setup : Setup}

theorem output_cons_of_some [Platform] {session : Option Text} {written created : Moment} {line : Text}
    (h : setup.line? session written created r = some line) (records : List (Record × Moment)) :
    setup.output session written ((r, created) :: records) =
      line ++ ['\n'] ++ setup.output session written records := by
  rw [output, List.flatMap_cons]
  dsimp only
  rw [h]
  rfl

theorem output_cons_of_none [Platform] {session : Option Text} {written created : Moment}
    (h : setup.line? session written created r = none) (records : List (Record × Moment)) :
    setup.output session written ((r, created) :: records) = setup.output session written records := by
  rw [output, List.flatMap_cons]
  dsimp only
  rw [h]
  rfl

/-- A record that is accepted has its JSON line in the output. -/
theorem line?_of_accepts [Platform] (hjson : setup.json = true) (h : setup.accepts r = true)
    (session : Option Text) (written created : Moment) :
    setup.line? session written created r = ((r.within session).jsonLine written).toOption := by
  rw [line?, if_pos h]
  dsimp only
  rw [hjson, if_pos rfl]

/-- The output consists of lines, one for each record that is accepted, in the order of the records. -/
theorem output_eq [Platform] (hjson : setup.json = true) (session : Option Text) (written : Moment)
    {records : List (Record × Moment)} (h : ∀ entry ∈ records, entry.1.IsWritable) :
    ∃ lines, setup.output session written records = lines.flatMap (· ++ ['\n']) ∧
      List.Forall₂ (Tells · session ·) lines ((records.map Prod.fst).filter setup.accepts) := by
  induction records with
  | nil => exact ⟨[], rfl, .nil⟩
  | cons entry records ih =>
    obtain ⟨r, created⟩ := entry
    obtain ⟨hwritable, hrecords⟩ := List.forall_mem_cons.mp h
    obtain ⟨lines, houtput, htells⟩ := ih hrecords
    rw [List.map_cons]
    cases haccepts : setup.accepts r with
    | false =>
      have hnone : setup.line? session written created r = none := by
        rw [line?, haccepts]
        rfl
      rw [output_cons_of_none hnone, List.filter_cons_of_neg (by simp [haccepts])]
      exact ⟨lines, houtput, htells⟩
    | true =>
      obtain ⟨line, hline, hfirst⟩ := jsonLine_tells session written hwritable
      have hsome : setup.line? session written created r = some line := by
        rw [line?_of_accepts hjson haccepts, hline]
        rfl
      rw [output_cons_of_some hsome, List.filter_cons_of_pos haccepts, houtput]
      exact ⟨line :: lines, rfl, .cons hfirst htells⟩

/-- After the log has been set up for JSON, its line breaks cut it into exactly one line for each record
that is accepted, in the order of the records, and nothing follows the last one.  Every line is visible, and
it is read as an object whose data are those of the record, under the session identifier that is current. -/
theorem output_tells_records [Platform] {name : Text} (hsetup : ofName name true = .ok setup)
    (session : Option Text) (written : Moment) {records : List (Record × Moment)}
    (h : ∀ entry ∈ records, entry.1.IsWritable) :
    ∃ lines, setup.output session written records = lines.flatMap (· ++ ['\n']) ∧
      Text.splitAll (· == '\n') (setup.output session written records) = lines ++ [[]] ∧
      List.Forall₂ (Tells · session ·) lines ((records.map Prod.fst).filter setup.accepts) := by
  obtain ⟨level, -, hlevel⟩ := map_eq_ok.mp hsetup
  have hjson : setup.json = true := congrArg Setup.json hlevel.symm
  obtain ⟨lines, houtput, htells⟩ := output_eq hjson session written h
  have hvisible : ∀ line ∈ lines, line.Visible :=
    ((List.forall₂_and_left _ _).mp (htells.imp fun _ _ h ↦ ⟨h.visible, h⟩)).1
  exact ⟨lines, houtput, houtput ▸ Text.splitAll_lines hvisible, htells⟩

/-- A record whose message tries to start a line of its own, with an error and a topic. -/
def forgery : Record :=
  ⟨"gateway", Level.error.rank, "user %s", [.text "x\n\x7b\"level\": \"INFO\"\x7d"], .text "login", .null,
    some ⟨"ValueError", "first\nsecond"⟩, some (.text "💥")⟩

def whisper : Record :=
  ⟨"mail.log", Level.info.rank, "ready", [], .null, .null, none, none⟩

section Bare

attribute [local instance] Platform.bare

/-- The quiet record is left out, and the other one is one line. -/
theorem forgery_on_one_line :
    let moment : Moment := ⟨2024, 1, 1, 12, 0, 0, 0⟩
    let records := [(whisper, moment), (forgery, moment)]
    ofName "info" true = .ok ⟨20, true⟩ ∧ (∀ entry ∈ records, entry.1.IsWritable) ∧
      ∃ line, Text.splitAll (· == '\n') (output ⟨20, true⟩ (some "s1") moment records) = [line, []] ∧
        Tells line (some "s1") forgery := by
  intro moment records
  have hsetup : ofName "info" true = .ok ⟨20, true⟩ := by decide +kernel
  have hwritable : ∀ entry ∈ records, entry.1.IsWritable := by
    have hmessage : forgery.message = .ok "user x\n\x7b\"level\": \"INFO\"\x7d" := by
      decide +kernel
    refine List.forall_mem_cons.mpr ⟨⟨⟨_, rfl⟩, .null, nofun, fun _ _ ↦ ⟨rfl, nofun⟩⟩,
      List.forall_mem_singleton.mpr ⟨⟨_, hmessage⟩, .text _, ?_, fun _ _ ↦ ⟨rfl, ?_⟩⟩⟩
    · rintro _ ⟨⟩
      exact .text _
    · rintro _ ⟨⟩
      rfl
  obtain ⟨lines, -, hlines, htells⟩ := output_tells_records hsetup (some "s1") moment hwritable
  have haccepted : (records.map Prod.fst).filter (accepts ⟨20, true⟩) = [forgery] := rfl
  rw [haccepted] at htells
  obtain ⟨line, more, htold, hmore, rfl⟩ := List.forall₂_cons_right_iff.mp htells
  rw [List.forall₂_nil_right_iff.mp hmore] at hlines
  exact ⟨hsetup, hwritable, line, hlines, htold⟩

end Bare

end Setup

end Log

end MailGateway
