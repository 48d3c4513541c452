import MailGateway.Proofs.MessageContent
import MailGateway.Proofs.OneLine

/-!
# How faults of fields are worded

A structured field that cannot be read or shown names what it stumbles over: a section number in quotes, how
many digits a number has, where surrogates stand, or wrong bytes.  One kind of fault shows text of the
client as it is: a codec that refuses what it is given is reported with the name that it was asked for
under.  The name comes from an extended value, and nothing keeps a line break out of it.  Every other fault
that the fields of a message can end in is worded on one line, if the codecs of the platform word theirs
on one line.
-/

namespace MailGateway.Mail

/-- A fault that is worded on one line, or the refusal of a codec with a reason on one line. -/
def FieldFault.IsOneLineOrRefusal (fault : FieldFault) : Prop :=
  fault.message.OneLine ∨
    ∃ name reason, fault = .charset (.refused name (.named reason)) ∧ reason.OneLine

/-- An error of decoding is on one line, or it is a refusal under the name of the charset. -/
theorem FieldFault.isOneLineOrRefusal_charset {name : Text} {e : Charset.Error} (h : e.IsOf name)
    (hlookup : e.isLookup = false) : (FieldFault.charset e).IsOneLineOrRefusal := by
  cases h with
  | unknown | transformation => cases hlookup
  | nulInName => exact .inl (by decide)
  | undecodable hline => exact .inl hline
  | @refused refusal hline =>
    cases refusal with
    | named reason => exact .inr ⟨name, reason, rfl, hline⟩
    | worded text => exact .inl hline

/-- Surrogates are told by their number and place. -/
theorem FieldFault.oneLine_surrogates (first : Fin 0x800) (position count : Nat) :
    (FieldFault.surrogates first position count).message.OneLine := by
  unfold message
  simp only [Text.oneLine_append]
  refine ⟨⟨by decide, ?_⟩, by decide⟩
  split
  · simp only [Text.oneLine_append]
    exact ⟨⟨⟨by decide, Text.oneLine_hex _ _⟩, by decide⟩, Text.oneLine_ofNat _⟩
  · simp only [Text.oneLine_append]
    exact ⟨⟨⟨by decide, Text.oneLine_ofNat _⟩, by decide⟩, Text.oneLine_ofNat _⟩

/-- A long number is told by how many digits it has. -/
theorem FieldFault.oneLine_numberTooLong (limit digits : Nat) :
    (FieldFault.numberTooLong limit digits).message.OneLine := by
  unfold message
  simp only [Text.oneLine_append]
  exact ⟨⟨⟨⟨by decide, Text.oneLine_ofNat _⟩, by decide⟩, Text.oneLine_ofNat _⟩, by decide⟩

theorem checkShowable_endsOnlyIn (position : Nat) (symbols : List Symbol) :
    EndsOnlyIn FieldFault.IsOneLineOrRefusal (checkShowable position symbols) := by
  fun_induction checkShowable position symbols with
  | case1 => exact endsOnlyIn_ok _
  | case2 => exact endsOnlyIn_error (.inl (FieldFault.oneLine_surrogates _ _ _))
  | case3 _ _ _ ih | case4 _ _ _ ih => exact ih

theorem ContentType.check_endsOnlyIn (contentType : ContentType) :
    EndsOnlyIn FieldFault.IsOneLineOrRefusal contentType.check := by
  have hparameters (parameters : List (List Symbol × List Symbol)) :
      EndsOnlyIn FieldFault.IsOneLineOrRefusal (parameters.forM checkParameter) := by
    induction parameters with
    | nil => exact endsOnlyIn_ok _
    | cons parameter parameters ih =>
      rw [List.forM_eq_forM, List.forM_cons]
      refine endsOnlyIn_bind ?_ fun _ ↦ ih
      exact endsOnlyIn_bind (checkShowable_endsOnlyIn 0 _) fun _ ↦ checkShowable_endsOnlyIn 0 _
  exact endsOnlyIn_bind (hparameters _) fun _ ↦ checkShowable_endsOnlyIn 0 _

/-! ## Parameters -/

namespace Parameter

variable [Platform]

/-- A section number is shown between quotes, or not at all. -/
theorem readSection_endsOnlyIn (symbols : List Symbol) :
    EndsOnlyIn FieldFault.IsOneLineOrRefusal (readSection symbols) := by
  have hvalue (digits : Text) :
      EndsOnlyIn FieldFault.IsOneLineOrRefusal (sectionValue digits) := by
    unfold sectionValue
    dsimp only
    split
    · exact endsOnlyIn_error (.inl (FieldFault.oneLine_numberTooLong _ _))
    split
    · exact endsOnlyIn_error (.inl (Text.oneLine_append.mpr ⟨by decide, digits.oneLine_quoted⟩))
    · exact endsOnlyIn_ok _
  unfold readSection
  split
  · dsimp only
    split
    · exact endsOnlyIn_map _ (hvalue _)
    · exact endsOnlyIn_ok _
  · exact endsOnlyIn_ok _

theorem read?_endsOnlyIn (symbols : List Symbol) :
    EndsOnlyIn FieldFault.IsOneLineOrRefusal (read? symbols) := by
  unfold read?
  split
  · exact endsOnlyIn_ok _
  · next name _ =>
    unfold readMarked
    dsimp only
    split
    · exact endsOnlyIn_ok _
    split
    · exact endsOnlyIn_ok _
    split
    · next fault hfault => exact endsOnlyIn_error (readSection_endsOnlyIn _ fault hfault)
    split
    · exact endsOnlyIn_ok _
    split
    · exact endsOnlyIn_error (.inl (by decide))
    split
    · exact endsOnlyIn_ok _
    · exact endsOnlyIn_ok _

theorem readAll_endsOnlyIn (symbols : List Symbol) :
    EndsOnlyIn FieldFault.IsOneLineOrRefusal (readAll symbols) := by
  have hentry (symbols : List Symbol) :
      EndsOnlyIn FieldFault.IsOneLineOrRefusal (readEntry symbols) := by
    unfold readEntry
    split
    · next fault hfault => exact endsOnlyIn_error (read?_endsOnlyIn symbols fault hfault)
    · exact endsOnlyIn_ok _
    · dsimp only
      split <;> exact endsOnlyIn_ok _
  fun_induction readAll symbols with
  | case1 => exact endsOnlyIn_ok _
  | case2 s rest fault hfault => exact endsOnlyIn_error (hentry _ fault hfault)
  | case3 s rest p? flawed after hread hlength fault hfault ih =>
    exact endsOnlyIn_error (ih fault hfault)
  | case4 => exact endsOnlyIn_ok _
  | case5 => exact endsOnlyIn_ok _

variable (hplatform : Platform.SpeaksOneLine)
include hplatform

/-- The charset of an extended value is the only name that is shown as it stands. -/
theorem extendedValue_endsOnlyIn (charset value : List Symbol) :
    EndsOnlyIn FieldFault.IsOneLineOrRefusal (extendedValue charset value) := by
  unfold extendedValue
  split
  · exact endsOnlyIn_ok _
  · dsimp only
    split
    · exact endsOnlyIn_ok _
    · next name _ =>
      split
      · exact endsOnlyIn_ok _
      · exact endsOnlyIn_ok _
      · exact endsOnlyIn_ok _
      · next e hunknown htransformation he =>
        have hof := Charset.decodeKeeping_endsOnlyIn hplatform name _ e he
        refine endsOnlyIn_error (FieldFault.isOneLineOrRefusal_charset hof ?_)
        cases hof with
        | unknown => exact (hunknown name rfl).elim
        | transformation => exact (htransformation name rfl).elim
        | nulInName | undecodable | refused => rfl

theorem joinSections_endsOnlyIn (charset : List Symbol) (next : Nat) (sections : List Parameter) :
    EndsOnlyIn FieldFault.IsOneLineOrRefusal (joinSections charset next sections) := by
  induction sections generalizing next with
  | nil => exact endsOnlyIn_ok _
  | cons p sections ih =>
    rw [joinSections]
    dsimp only
    split
    · exact endsOnlyIn_bind (ih next) fun _ ↦ endsOnlyIn_ok _
    · split
      · refine endsOnlyIn_bind (endsOnlyIn_ok _) fun value ↦ ?_
        split
        · refine endsOnlyIn_bind (extendedValue_endsOnlyIn hplatform charset value) fun value ↦ ?_
          exact endsOnlyIn_bind (ih (next + 1)) fun _ ↦ endsOnlyIn_ok _
        · refine endsOnlyIn_bind (endsOnlyIn_ok value) fun value ↦ ?_
          exact endsOnlyIn_bind (ih (next + 1)) fun _ ↦ endsOnlyIn_ok _
      · exact endsOnlyIn_error (.inl (by decide))

theorem joined_endsOnlyIn (parameters : List Parameter) :
    EndsOnlyIn FieldFault.IsOneLineOrRefusal (joined parameters) := by
  unfold joined
  split
  · exact endsOnlyIn_ok _
  · split
    · exact endsOnlyIn_map _ (joinSections_endsOnlyIn hplatform _ _ _)
    · exact joinSections_endsOnlyIn hplatform _ _ _
  · exact joinSections_endsOnlyIn hplatform _ _ _

theorem values_endsOnlyIn (parameters : List Parameter) :
    EndsOnlyIn FieldFault.IsOneLineOrRefusal (values parameters) := by
  unfold values
  refine endsOnlyIn_bind ?_ ?_
  · refine endsOnlyIn_mapM fun name _ ↦ ?_
    exact endsOnlyIn_bind (joined_endsOnlyIn hplatform _) fun _ ↦ endsOnlyIn_ok _
  · intro found
    exact endsOnlyIn_ok _

end Parameter

/-! ## Fields and messages -/

variable [Platform] (hplatform : Platform.SpeaksOneLine)

namespace ContentType

include hplatform

theorem withParameters_endsOnlyIn (major minor shown : List Symbol) (flawed : Bool)
    (list : List Symbol) :
    EndsOnlyIn FieldFault.IsOneLineOrRefusal (withParameters major minor shown flawed list) := by
  unfold withParameters
  refine endsOnlyIn_bind (Parameter.readAll_endsOnlyIn list) ?_
  intro many
  exact endsOnlyIn_bind (Parameter.values_endsOnlyIn hplatform _) fun _ ↦ endsOnlyIn_ok _

theorem recover_endsOnlyIn (shown symbols : List Symbol) :
    EndsOnlyIn FieldFault.IsOneLineOrRefusal (recover shown symbols) := by
  unfold recover
  dsimp only
  split
  · exact endsOnlyIn_ok _
  · exact withParameters_endsOnlyIn hplatform _ _ _ _ _

theorem read_endsOnlyIn (symbols : List Symbol) :
    EndsOnlyIn FieldFault.IsOneLineOrRefusal (read symbols) := by
  unfold read
  split
  · exact endsOnlyIn_ok _
  split
  · exact recover_endsOnlyIn hplatform _ _
  split
  · exact endsOnlyIn_ok _
  split
  · exact recover_endsOnlyIn hplatform _ _
  dsimp only
  split
  · exact recover_endsOnlyIn hplatform _ _
  split
  · exact endsOnlyIn_ok _
  split
  · exact withParameters_endsOnlyIn hplatform _ _ _ _ _
  · exact recover_endsOnlyIn hplatform _ _

theorem readShowable_endsOnlyIn (symbols : List Symbol) :
    EndsOnlyIn FieldFault.IsOneLineOrRefusal (readShowable symbols) := by
  refine endsOnlyIn_bind (read_endsOnlyIn hplatform symbols) fun contentType ↦ ?_
  exact endsOnlyIn_bind contentType.check_endsOnlyIn fun _ ↦ endsOnlyIn_ok _

end ContentType

theorem transferEncoding_endsOnlyIn (fields : List Field) :
    EndsOnlyIn FieldFault.IsOneLineOrRefusal (transferEncoding fields) := by
  unfold transferEncoding
  split
  · exact endsOnlyIn_ok _
  · exact endsOnlyIn_map _ (checkShowable_endsOnlyIn 0 _)

include hplatform

theorem boundary?_endsOnlyIn (shown : Text) :
    EndsOnlyIn FieldFault.IsOneLineOrRefusal
      ((ShownField.boundary? shown).mapError FieldFault.charset) := by
  unfold ShownField.boundary?
  split
  · exact endsOnlyIn_ok _
  · exact endsOnlyIn_ok _
  · split
    · exact endsOnlyIn_ok _
    · next e he =>
      split
      · exact endsOnlyIn_ok _
      · next hlookup =>
        rw [Bool.not_eq_true] at hlookup
        exact endsOnlyIn_error (FieldFault.isOneLineOrRefusal_charset
          (Charset.decodeLossy_endsOnlyIn hplatform _ _ e he) hlookup)

theorem readContent_endsOnlyIn (inDigest : Bool) (stops : List Stop) (lines : List Line) :
    EndsOnlyIn FieldFault.IsOneLineOrRefusal (readContent inDigest stops lines) := by
  unfold readContent
  refine endsOnlyIn_bind ?_ ?_
  · unfold shownContentType?
    split
    · exact endsOnlyIn_ok _
    · exact endsOnlyIn_map _ (ContentType.readShowable_endsOnlyIn hplatform _)
  intro shown
  refine endsOnlyIn_bind ?_ ?_
  · unfold Content.ofShown
    dsimp only
    split
    · exact endsOnlyIn_ok _
    split
    · exact endsOnlyIn_ok _
    split
    · refine endsOnlyIn_bind (boundary?_endsOnlyIn hplatform _) fun boundary ↦ ?_
      cases boundary with
      | none => exact endsOnlyIn_ok _
      | some boundary => exact endsOnlyIn_map _ (transferEncoding_endsOnlyIn _)
    · exact endsOnlyIn_ok _
  · intro content
    exact endsOnlyIn_ok _

namespace Message

/-- With this fuel, the readers of messages end in no other faults. -/
structure FaultsOneLine (fuel : Nat) : Prop where
  lines (inDigest : Bool) (stops : List Stop) (lines : List Line) :
    EndsOnlyIn FieldFault.IsOneLineOrRefusal (readLines fuel inDigest stops lines)
  blocks (stops : List Stop) (lines : List Line) :
    EndsOnlyIn FieldFault.IsOneLineOrRefusal (readBlocks fuel stops lines)
  parts (inDigest : Bool) (stops : List Stop) (boundary : List UInt8) (lines : List Line) :
    EndsOnlyIn FieldFault.IsOneLineOrRefusal (readParts fuel inDigest stops boundary lines)

omit hplatform in
theorem FaultsOneLine.content {fuel : Nat} (h : FaultsOneLine fuel) (content : Content)
    (fields : List Field) (stops : List Stop) :
    EndsOnlyIn FieldFault.IsOneLineOrRefusal (content.read fuel fields stops) := by
  cases content with
  | body bytes after => exact endsOnlyIn_ok _
  | blocks lines => exact endsOnlyIn_map _ (h.blocks stops lines)
  | inner lines => exact endsOnlyIn_map _ (h.lines false stops lines)
  | parts inDigest boundary lines => exact endsOnlyIn_map _ (h.parts inDigest stops boundary lines)

/-- By induction on the fuel: the parts of a message fail as the message does. -/
theorem faultsOneLine (fuel : Nat) : FaultsOneLine fuel := by
  induction fuel with
  | zero =>
    refine ⟨?_, ?_, ?_⟩
    · intro inDigest stops lines
      exact endsOnlyIn_ok _
    · intro stops lines
      exact endsOnlyIn_ok _
    · intro inDigest stops boundary lines
      exact endsOnlyIn_ok _
  | succ fuel ih =>
    refine ⟨?_, ?_, ?_⟩
    · intro inDigest stops lines
      rw [readLines_succ]
      exact endsOnlyIn_bind (readContent_endsOnlyIn hplatform inDigest stops lines) fun found ↦
        ih.content found.2 found.1 stops
    · intro stops lines
      rw [readBlocks_succ]
      refine endsOnlyIn_bind (ih.lines false _ lines) ?_
      intro block
      unfold afterBlock
      split
      · exact endsOnlyIn_ok _
      · exact endsOnlyIn_map _ (ih.blocks stops _)
    · intro inDigest stops boundary lines
      rw [readParts_succ]
      refine endsOnlyIn_bind (ih.lines inDigest _ _) ?_
      intro part
      unfold afterPart
      split
      · exact endsOnlyIn_ok _
      split
      · exact endsOnlyIn_ok _
      · exact endsOnlyIn_map _ (ih.parts inDigest stops boundary _)

/-- A message that cannot be read ends in a fault on one line, or in the refusal of a codec. -/
theorem read_endsOnlyIn (bytes : List UInt8) :
    EndsOnlyIn FieldFault.IsOneLineOrRefusal (read bytes) :=
  endsOnlyIn_map _ ((faultsOneLine hplatform _).lines false [] _)

end Message

end MailGateway.Mail
