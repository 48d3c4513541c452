import MailGateway.Proofs.MediaTypeReading
import MailGateway.Proofs.Results

/-!
# Accepted media types

The strict reading looks at the text in front of a value itself, and then leaves the value to the lenient
reader of structured fields.  Whatever parameters follow, both find the same media type, and it is the one
that decides how a message with this value is taken apart.
-/

namespace MailGateway.Mail

open Mail.Field

/-! ## What the lenient reader finds in front -/

namespace ContentType

/-- Parameters change neither half of a media type. -/
theorem withParameters_eq_ok [Platform] {major minor shown list : List Symbol} {flawed : Bool}
    {contentType : ContentType} (h : withParameters major minor shown flawed list = .ok contentType) :
    contentType.major = major ∧ contentType.minor = minor := by
  obtain ⟨many, -, h⟩ := bind_eq_ok.mp h
  obtain ⟨values, -, h⟩ := bind_eq_ok.mp h
  cases h
  exact ⟨rfl, rfl⟩

/-- A media type before the end or a semicolon is found, with blanks between them or not. -/
theorem read_halves [Platform] {major minor blanks tail : Text} {contentType : ContentType}
    (hmajor : IsWordOf MediaType.isTokenChar major) (hminor : IsWordOf MediaType.isTokenChar minor)
    (hblanks : ∀ c ∈ blanks, Text.isBlank c = true) (htail : ∀ c ∈ tail.head?, c = ';')
    (h : read (Symbol.ofText (major ++ '/' :: (minor ++ (blanks ++ tail)))) = .ok contentType) :
    contentType.major = Symbol.ofText major ∧ contentType.minor = Symbol.ofText minor := by
  have hmajorPlain := hmajor.mono isPlain_of_isTokenChar
  have hslash (rest : List Symbol) := token?_eq hmajorPlain (.scalar '/' :: rest)
    (by rintro s ⟨⟩; rfl) (by rintro s ⟨⟩; rfl)
  have hsemi : ∀ s ∈ (Symbol.ofText tail).head?, s = .scalar ';' := by
    intro s hs
    rw [Symbol.ofText, List.head?_map] at hs
    obtain ⟨c, hc, rfl⟩ := Option.map_eq_some_iff.mp hs
    rw [htail c hc]
  obtain ⟨word, hword, htrim, hrest⟩ := token?_blanks (hminor.mono isPlain_of_isTokenChar) hblanks
    (fun s hs ↦ by rw [hsemi s hs]; rfl) (fun s hs ↦ by rw [hsemi s hs]; rfl)
    (fun s hs ↦ by rw [hsemi s hs]; rfl)
  have hsymbols : Symbol.ofText (major ++ '/' :: (minor ++ (blanks ++ tail))) =
      Symbol.ofText major ++ .scalar '/' ::
        (Symbol.ofText minor ++ (Symbol.ofText blanks ++ Symbol.ofText tail)) := by
    simp only [Symbol.ofText_append, Symbol.ofText_cons]
  have hempty : (Symbol.ofText major ++ .scalar '/' ::
      (Symbol.ofText minor ++ (Symbol.ofText blanks ++ Symbol.ofText tail))).isEmpty = false := by
    simp
  have hslashEq : Symbol.eq '/' (.scalar '/') = true := rfl
  rw [hsymbols, read, hempty, hslash] at h
  simp only [hslashEq, hword, hrest, htrim, hmajorPlain.trimBy_ofText, Bool.not_true,
    Bool.false_eq_true, if_false] at h
  cases tail with
  | nil =>
    cases h
    exact ⟨rfl, rfl⟩
  | cons c list =>
    obtain rfl := htail c rfl
    exact withParameters_eq_ok h

/-- What is shown of a value has been read from it. -/
theorem read_of_readShowable [Platform] {symbols : List Symbol} {found : ContentType}
    (h : readShowable symbols = .ok found) : read symbols = .ok found := by
  obtain ⟨contentType, hread, h⟩ := bind_eq_ok.mp h
  obtain ⟨-, -, h⟩ := bind_eq_ok.mp h
  cases h
  exact hread

end ContentType

namespace MediaType

/-! ## The text in front of a value -/

/-- The text before the first semicolon, without the blanks around it. -/
def front (value : Text) : Text :=
  Text.trim (Text.cut (· == ';') value).1

/-- Blanks around a value do not reach its front. -/
theorem front_trim (value : Text) : front (Text.trim value) = front value := by
  rw [front, front, Text.cut_fst, Text.cut_fst]
  apply Text.trimBy_takeWhile_trimBy
  intro c hc
  cases hsemi : c == ';' with
  | false => rfl
  | true =>
    rw [beq_iff_eq.mp hsemi] at hc
    cases hc

/-- What passes for a media type may be written as one. -/
theorem exists_halves {text : Text} (h : isMediaType text = true) :
    ∃ written : Written, written.halves = text := by
  unfold isMediaType at h
  split at h
  · next major minor hcut =>
    obtain ⟨slash, rfl, hslash, -⟩ := Text.cut_eq_some.mp hcut
    obtain rfl : slash = '/' := by simpa using hslash
    simp only [Bool.and_eq_true, Bool.not_eq_true', List.isEmpty_eq_false_iff, List.all_eq_true] at h
    obtain ⟨⟨⟨hmajorNe, hmajor⟩, hminorNe⟩, hminor⟩ := h
    exact ⟨⟨major, minor, none, false, ⟨hmajorNe, hmajor⟩, ⟨hminorNe, hminor⟩, nofun⟩, rfl⟩
  · cases h

/-- A value without blanks at its start that has a media type in front is this media type, blanks, and
what starts with a semicolon. -/
theorem exists_tail {value : Text} {written : Written} (h : front value = written.halves)
    (hstart : ∀ c ∈ value.head?, Text.isBlank c = false) :
    ∃ blanks tail, Text.dropTail (· == ';') value = written.halves ++ (blanks ++ tail) ∧
      (∀ c ∈ blanks, Text.isBlank c = true) ∧ ∀ c ∈ tail.head?, c = ';' := by
  rw [front, Text.cut_fst] at h
  have hvalue := value.takeWhile_append_dropWhile (p := (!· == ';'))
  have hfirst : ∀ c ∈ value.takeWhile (!· == ';'), (c == ';') = false := by
    intro c hc
    simpa using List.mem_takeWhile_imp hc
  have hrest : ∀ c ∈ (value.dropWhile (!· == ';')).head?, c = ';' := by
    intro c hc
    simpa using Text.head?_dropWhile hc
  generalize value.takeWhile (!· == ';') = first at h hvalue hfirst
  generalize value.dropWhile (!· == ';') = rest at hvalue hrest
  obtain ⟨lead, blanks, hparts, hlead, hblanks⟩ := Text.exists_trimBy Text.isBlank first
  have hnil : lead = [] := by
    cases lead with
    | nil => rfl
    | cons c lead =>
      have hc := hstart c (by rw [← hvalue, hparts]; rfl)
      rw [hlead c List.mem_cons_self] at hc
      cases hc
  have hhalves : first = written.halves ++ blanks := by
    rw [← h, Text.trim]
    rwa [hnil, List.nil_append] at hparts
  refine ⟨blanks, Text.dropTail (· == ';') rest, ?_, hblanks, ?_⟩
  · rw [← hvalue, Text.dropTail_append_kept fun c hc ↦ hfirst c (List.mem_of_getLast? hc), hhalves,
      List.append_assoc]
  · exact fun c hc ↦ hrest c (Text.head?_dropTail hc)

/-! ## Both readings agree -/

/-- The strict reading gives the media type in front of a value that it accepts, in lower case. -/
theorem name_of_parse [Platform] {value : Text} {found : MediaType} (h : parse (some value) = .ok found) :
    ∃ written : Written, front value = written.halves ∧ found.name = Text.lower written.halves := by
  rw [parse, Option.getD_some] at h
  dsimp only at h
  split at h
  · cases h
  split at h
  · cases h
  next hfront =>
  rw [Bool.not_eq_true, Bool.not_eq_false'] at hfront
  obtain ⟨written, hwritten⟩ := exists_halves hfront
  have hvalue : front (Text.trim value) = written.halves := hwritten.symm
  obtain ⟨blanks, tail, hsplit, hblanks, htail⟩ := exists_tail hvalue fun c ↦ Text.head?_trimBy
  refine ⟨written, (front_trim value).symm.trans hvalue, ?_⟩
  rw [hsplit, Written.halves, List.append_assoc, List.cons_append] at h
  split at h
  · cases h
  next contentType hread =>
  split at h
  · cases h
  obtain ⟨hmajor, hminor⟩ :=
    ContentType.read_halves written.isWord_major written.isWord_minor hblanks htail
      (ContentType.read_of_readShowable hread)
  have hhalves : Symbol.ofText written.major ++ .scalar '/' :: Symbol.ofText written.minor =
      Symbol.ofText written.halves := by
    rw [Written.halves, Symbol.ofText_append, Symbol.ofText_cons]
  rw [hmajor, hminor, hhalves, Symbol.toText_ofText] at h
  cases h
  rfl

/-- A front that is a media type is the structural type, in lower case. -/
theorem structuralType_of_front {value : Text} {written : Written} (h : front value = written.halves)
    (inDigest : Bool) : structuralType inDigest (some value) = Text.lower written.halves := by
  rw [front] at h
  rw [← written.structuralType_shown inDigest, structuralType, structuralType, h, written.cut_shown,
    written.trim_halves]

/-- A value that the strict reading accepts has the same media type for both readings, wherever the message
stands. -/
theorem structuralType_of_parse [Platform] {value : Text} {found : MediaType}
    (h : parse (some value) = .ok found) (inDigest : Bool) :
    structuralType inDigest (some value) = found.name := by
  obtain ⟨written, hfront, hname⟩ := name_of_parse h
  rw [structuralType_of_front hfront, hname]

end MediaType

end MailGateway.Mail
