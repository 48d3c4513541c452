import MailGateway.Proofs.Answers
import MailGateway.Proofs.DefaultPattern
import MailGateway.Proofs.StartStop
import MailGateway.Proofs.TextParts

/-!
# Settings that were read make a backend

A setting that a source has is checked when it is read, and a setting that no source has takes a default
that passes the same check.  The checks of a backend ask for no more than that, and a recipient is resolved
under the pattern that was read twice before.  So settings that were read make a backend of every publisher,
and under this backend a recipient ends in a topic or in an error of the recipient.
-/

namespace MailGateway

namespace Settings

/-! ## Fields -/

/-- What gathering gives if there are no errors: what each argument gave. -/
theorem Gathered.with_eq_ok {α β : Type} {f : Gathered (α → β)} {x : Gathered α} {b : β} :
    (f.with x).result = .ok b ↔ ∃ g a, f.result = .ok g ∧ x.result = .ok a ∧ g a = b := by
  unfold Gathered.with
  cases hf : f.result <;> cases hx : x.result <;> simp

/-- What holds of the default of a setting and of everything that is read for it, holds of the setting. -/
theorem Sources.field_satisfies {α : Type} {P : α → Prop} {read : Value → Except Problem α} {default : α}
    (hdefault : P default) (hread : ∀ value a, read value = .ok a → P a) {sources : Sources}
    {name : String} {a : α} (h : (sources.field name read default).result = .ok a) : P a := by
  unfold Sources.field at h
  split at h
  · cases h
    exact hdefault
  · next value _ => exact hread value a (ok_of_mapError h)

/-- A limit that was read is positive. -/
theorem readPositive_pos {value : Value} {n : Int} (h : readPositive value = .ok n) : 0 < n := by
  unfold readPositive at h
  split at h
  · split at h
    · cases h
    · cases h
      omega
  · cases h

/-- Not empty, and without blank characters at the ends. -/
def IsTrimmed (text : Text) : Prop :=
  text ≠ [] ∧ (∀ c ∈ text.head?, Text.isBlank c = false) ∧ ∀ c ∈ text.getLast?, Text.isBlank c = false

/-- A domain that was read is trimmed, and it is not empty then. -/
theorem readDomain_isTrimmed {value : Value} {domain : Text} (h : readDomain value = .ok domain) :
    IsTrimmed domain := by
  unfold readDomain at h
  split at h
  · next text _ =>
    dsimp only at h
    split at h
    · cases h
    · next hempty =>
      cases h
      exact ⟨by simpa using hempty, fun _ ↦ Text.head?_trimBy, fun _ ↦ Text.getLast?_trimBy⟩
  · cases h

/-- A pattern is read once when it is checked, so it can be read again. -/
theorem readPattern_readable [Platform] {value : Value} {pattern : Text}
    (h : readPattern value = .ok pattern) : ∃ read, Pattern.read pattern = .ok read := by
  unfold readPattern at h
  split at h
  · split at h
    · next read hread =>
      cases h
      exact ⟨read, hread⟩
    · cases h
  · cases h

/-! ## All settings -/

/-- What the checks of the settings promise to a backend. -/
structure Checked [Platform] (s : Settings) : Prop where
  domain : IsTrimmed s.domain
  messageLimit : 0 < s.messageLimit
  maxMailBytes : 0 < s.maxMailBytes
  topicPattern : ∃ pattern, Pattern.read s.topicPattern = .ok pattern

/-- What the settings with a check are gathered from. -/
theorem gather_eq_ok [Platform] {sources : Sources} {s : Settings} (h : (gather sources).result = .ok s) :
    (sources.field "SMTP_SERVER_DOMAIN" readDomain "localhost").result = .ok s.domain ∧
      (sources.field "SMTP_MAX_MESSAGE_BYTES" readPositive 1048576).result = .ok s.maxMailBytes ∧
      (sources.field "MESSAGE_LIMIT" readPositive Config.defaultLimit).result = .ok s.messageLimit ∧
      (sources.field "TOPIC_PATTERN" readPattern Topic.defaultPattern).result = .ok s.topicPattern := by
  simp only [gather, Gathered.with_eq_ok] at h
  -- The last setting comes first.  There are seven settings behind the pattern.
  iterate 7 obtain ⟨_, _, h, -, rfl⟩ := h
  obtain ⟨_, _, h, hpattern, rfl⟩ := h
  obtain ⟨_, _, h, hlimit, rfl⟩ := h
  obtain ⟨_, _, h, hbytes, rfl⟩ := h
  obtain ⟨_, _, h, -, rfl⟩ := h
  obtain ⟨_, _, h, hdomain, rfl⟩ := h
  iterate 2 obtain ⟨_, _, h, -, rfl⟩ := h
  cases h
  exact ⟨hdomain, hbytes, hlimit, hpattern⟩

/-- Every default passes the check of its setting, so it does not matter where a setting comes from. -/
theorem read_checked [Platform] {sources : Sources} {s : Settings} (h : read sources = .ok s) :
    s.Checked := by
  obtain ⟨hdomain, hbytes, hlimit, hpattern⟩ := gather_eq_ok (ok_of_mapError h)
  have hlocalhost : IsTrimmed "localhost" := by
    refine ⟨by decide, ?_, ?_⟩
    all_goals
      rintro c ⟨⟩
      decide
  constructor
  · exact Sources.field_satisfies hlocalhost (fun _ _ ↦ readDomain_isTrimmed) hdomain
  · exact Sources.field_satisfies (by decide) (fun _ _ ↦ readPositive_pos) hlimit
  · exact Sources.field_satisfies (by decide) (fun _ _ ↦ readPositive_pos) hbytes
  · exact Sources.field_satisfies ⟨_, Topic.read_defaultPattern⟩ (fun _ _ ↦ readPattern_readable) hpattern

/-! ## Backends -/

/-- The checks of a backend ask for no more than what was checked when the settings were read. -/
theorem Checked.config_checked [Platform] {s : Settings} (h : s.Checked) :
    s.config.checked = .ok s.config := by
  obtain ⟨pattern, hpattern⟩ := h.topicPattern
  have hdomain : s.config.domain.isEmpty = false := by
    simpa [config] using h.domain.1
  have hlimit : ¬s.config.messageLimit ≤ 0 := Int.not_le.mpr h.messageLimit
  have hreadable : s.config.topicPattern.bind Config.patternError? = none := by
    rw [config, Option.bind_some, Config.patternError?, hpattern]
  simp only [Config.checked, hdomain, Bool.false_eq_true, if_false, hlimit, hreadable]

/-- Checked settings make a backend of every publisher, and nothing is logged for it. -/
theorem Checked.createBackend [Platform] {s : Settings} (h : s.Checked) (publisher : Publisher)
    (ids : IdSource) (clock : Clock) :
    s.createBackend (some publisher) ids clock =
      .ok (⟨s.config, publisher, .empty, ids, clock⟩, []) := by
  rw [Settings.createBackend, h.config_checked]
  rfl

/-- Settings that were read from what the program gives, the environment and a file have a domain that is
not empty and has no blanks around it, positive limits, a known publisher and a pattern that can be read.
With every publisher they make a backend under these settings, and there a recipient ends in a topic or in
an error of the recipient. -/
theorem read_makes_backend [Platform] {given : List (Text × Value)} {environment : List (Text × Text)}
    {file : Option Text} {s : Settings}
    (h : read ⟨given, environment, file.elim [] (EnvFile.read environment)⟩ = .ok s) :
    IsTrimmed s.domain ∧ 0 < s.messageLimit ∧ 0 < s.maxMailBytes ∧
      (s.publisher.name = "redis" ∨ s.publisher.name = "memory") ∧
      (∃ pattern, Pattern.read s.topicPattern = .ok pattern) ∧
      ∀ publisher ids clock, ∃ config,
        s.createBackend (some publisher) ids clock =
          .ok (⟨config, publisher, .empty, ids, clock⟩, []) ∧
        config.domain = s.domain ∧ config.addressStart = some s.addressStart ∧
        config.messageLimit = s.messageLimit ∧ config.topicPattern = some s.topicPattern ∧
        ∀ recipient fault, Topic.resolve recipient config.domain config.addressStart
          config.topicPattern = .error fault → fault.IsRecipient := by
  have hchecked := read_checked h
  refine ⟨hchecked.domain, hchecked.messageLimit, hchecked.maxMailBytes, ?_, hchecked.topicPattern, ?_⟩
  · cases s.publisher with
    | bus => exact .inl rfl
    | memory => exact .inr rfl
  · intro publisher ids clock
    obtain ⟨pattern, hpattern⟩ := hchecked.topicPattern
    have hread : Pattern.read ((some s.topicPattern).getD Topic.defaultPattern) = .ok pattern := hpattern
    refine ⟨s.config, hchecked.createBackend publisher ids clock, rfl, rfl, rfl, rfl, ?_⟩
    intro recipient
    exact Topic.resolve_endsOnlyIn hread recipient (some s.addressStart) s.domain

def fileOfSettings : Text :=
  "# gateway\nexport SMTP_SERVER_ADDR_PREFIX='ntfy-'\nTOPIC_PATTERN=[a-z]+\nMESSAGE_LIMIT=0\n"

/-- The setting of its domain in the environment. -/
def environmentOfDomain : List (Text × Text) :=
  [("SMTP_SERVER_DOMAIN", " ntfy.example.com\t")]

/-- The setting of its limit, which the program gives in place of the one in the file. -/
def givenLimit : List (Text × Value) :=
  [("MESSAGE_LIMIT", .text "+5_12")]

section Bare

attribute [local instance] Platform.bare

theorem threeSources_make_backend :
    ∃ s, read ⟨givenLimit, environmentOfDomain,
          (some fileOfSettings).elim [] (EnvFile.read environmentOfDomain)⟩ = .ok s ∧
      s.domain = "ntfy.example.com" ∧ s.messageLimit = 512 ∧ s.topicPattern = "[a-z]+" ∧
      ∀ publisher ids clock, (s.createBackend (some publisher) ids clock).isOk = true := by
  have hread : read ⟨givenLimit, environmentOfDomain,
      (some fileOfSettings).elim [] (EnvFile.read environmentOfDomain)⟩ =
      .ok ⟨"0.0.0.0", 2525, "ntfy.example.com", "ntfy-", 1048576, 512, "[a-z]+", .bus,
        "redis://localhost:6379/0", "topic:", "0.0.0.0", 8080, "INFO", true⟩ := by
    decide +kernel
  refine ⟨_, hread, rfl, rfl, rfl, ?_⟩
  intro publisher ids clock
  obtain ⟨config, hbackend, -⟩ := (read_makes_backend hread).2.2.2.2.2 publisher ids clock
  rw [hbackend]
  rfl

end Bare

end Settings

end MailGateway
