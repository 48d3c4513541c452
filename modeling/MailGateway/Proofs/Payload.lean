import MailGateway.Proofs.JsonReading
import MailGateway.Publication

/-!
# Payloads

The payload of a publication is an object in JSON: its identifier, its time, its event, its topic, its
title unless this is empty, and its message, in this order.  So the publication can be read back from its
payload, whatever its texts and its time are.

The time is all that a platform may be unable to write: where there is a limit on the digits of integers, it
is the publications whose time has more digits that have no payload.  Without a limit all of them have one.
-/

namespace MailGateway.Publication

def text? (name : Text) (fields : List (Text × Value)) : Option Text :=
  match fields.lookup name with
  | some (.text t) => some t
  | _ => none

def int? (name : Text) (fields : List (Text × Value)) : Option Int :=
  match fields.lookup name with
  | some (.int n) => some n
  | _ => none

/-- The publication with the fields.  Without a title its title is empty. -/
def ofFields? (fields : List (Text × Value)) : Option Publication := do
  let topic ← text? "topic" fields
  let message ← text? "message" fields
  let id ← text? "id" fields
  let time ← int? "time" fields
  let event ← text? "event" fields
  return ⟨topic, message, (text? "title" fields).getD [], id, time, event⟩

def ofPayload? (payload : Text) : Option Publication :=
  match Json.read payload with
  | some (.object fields) => ofFields? fields
  | _ => none

variable (p : Publication)

/-- A publication is found in its fields. -/
theorem ofFields?_fields : ofFields? p.fields = some p := by
  obtain ⟨topic, message, title, id, time, event⟩ := p
  cases title with
  | nil => rfl
  | cons c title => rfl

/-- There are no fractions in a publication. -/
theorem isWhole_fields : (Value.object p.fields).IsWhole := by
  apply Value.IsWhole.object
  unfold fields
  cases p.title with
  | nil => simp [Value.IsWhole.text, Value.IsWhole.int]
  | cons c title => simp [Value.IsWhole.text, Value.IsWhole.int]

theorem read_payload : Json.read p.payload = some (.object p.fields) :=
  p.isWhole_fields.read_json false

/-- A publication is read back from its payload. -/
theorem ofPayload?_payload : ofPayload? p.payload = some p := by
  rw [ofPayload?, read_payload]
  exact p.ofFields?_fields

/-! ## Times and limits -/

/-- Only the digits of its time count in a publication. -/
theorem fits_fields (limit : Nat) :
    (Value.object p.fields).fits limit = true ↔ Text.digitCount p.time ≤ limit := by
  rw [Value.fits, Value.fieldsFit_iff]
  unfold fields
  cases p.title with
  | nil => simp [Value.fits]
  | cons c title => simp [Value.fits]

variable [Platform] {p}

theorem payload?_of_fits (h : ∀ limit ∈ Platform.digitLimit, Text.digitCount p.time ≤ limit) :
    p.payload? = .ok p.payload :=
  Value.json?_of_fits fun limit hlimit ↦ (p.fits_fields limit).mpr (h limit hlimit)

/-- A time beyond the limit leaves a publication without a payload. -/
theorem payload?_of_not_fits {limit : Nat} (hlimit : Platform.digitLimit = some limit)
    (h : limit < Text.digitCount p.time) : p.payload? = .error (.integerTooLong limit) := by
  refine Value.json?_of_not_fits hlimit (Bool.eq_false_iff.mpr fun hfits ↦ ?_)
  exact absurd ((p.fits_fields limit).mp hfits) (Nat.not_le.mpr h)

/-- A publication has its payload, or its time has more digits than the limit. -/
theorem payload?_cases :
    (p.payload? = .ok p.payload ∧ ∀ limit ∈ Platform.digitLimit, Text.digitCount p.time ≤ limit) ∨
      ∃ limit, Platform.digitLimit = some limit ∧ limit < Text.digitCount p.time ∧
        p.payload? = .error (.integerTooLong limit) := by
  by_cases hfits : ∀ limit ∈ Platform.digitLimit, Text.digitCount p.time ≤ limit
  · exact .inl ⟨payload?_of_fits hfits, hfits⟩
  · push Not at hfits
    obtain ⟨limit, hlimit, hlong⟩ := hfits
    exact .inr ⟨limit, hlimit, hlong, payload?_of_not_fits hlimit hlong⟩

/-- The payload is written exactly if the limit allows the time. -/
theorem payload?_eq_ok_iff {payload : Text} :
    p.payload? = .ok payload ↔
      (∀ limit ∈ Platform.digitLimit, Text.digitCount p.time ≤ limit) ∧ payload = p.payload := by
  constructor
  · intro h
    obtain ⟨hpayload, hfits⟩ | ⟨limit, -, -, herror⟩ := p.payload?_cases
    · rw [hpayload] at h
      cases h
      exact ⟨hfits, rfl⟩
    · rw [herror] at h
      cases h
  · rintro ⟨hfits, rfl⟩
    exact payload?_of_fits hfits

/-- The limit is the only reason why a payload is not written. -/
theorem payload?_eq_error_iff {e : Value.WriteError} :
    p.payload? = .error e ↔
      ∃ limit ∈ Platform.digitLimit, limit < Text.digitCount p.time ∧ e = .integerTooLong limit := by
  constructor
  · intro h
    obtain ⟨hpayload, -⟩ | ⟨limit, hlimit, hlong, herror⟩ := p.payload?_cases
    · rw [hpayload] at h
      cases h
    · rw [herror] at h
      cases h
      exact ⟨limit, hlimit, hlong, rfl⟩
  · rintro ⟨limit, hlimit, hlong, rfl⟩
    exact payload?_of_not_fits hlimit hlong

/-- Every platform writes times of up to 4300 digits, and so all that a clock can tell. -/
theorem payload?_of_le_maxDigits (h : Text.digitCount p.time ≤ Text.maxDigits) :
    p.payload? = .ok p.payload :=
  payload?_of_fits fun limit hlimit ↦ h.trans (Platform.maxDigits_le_digitLimit limit hlimit)

end MailGateway.Publication
