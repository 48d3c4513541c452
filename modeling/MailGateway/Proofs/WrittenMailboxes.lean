import MailGateway.Mail.Address
import MailGateway.Text.Printable
import MailGateway.Text.Word
import MailGateway.Proofs.FieldWords
import MailGateway.Proofs.Topic

/-!
# Written mailboxes

Mailboxes as senders write them: an address of dotted atoms on both sides of its at sign, bare or in angle
brackets, with a display name of words or a quoted one before the bracket.  Reading a list of them gives
the addresses in their order.  The number of addresses agrees with the commas because what the commas are
counted in is the list without its quotations, and no mailbox has a comma outside of them.
-/

namespace MailGateway.Mail.Address

/-! ## What is written -/

/-- Whether the character may stand in an atom: a letter or a number of any script, an underscore, a
hyphen or a plus sign. -/
def isAtomChar (c : Char) : Bool :=
  Text.isWord c || c == '-' || c == '+'

/-- A word of an address or of a display name. -/
structure Atom where
  text : Text
  ne_nil : text ≠ []
  isAtomChar_of_mem : ∀ c ∈ text, isAtomChar c = true

/-- Atoms with dots between them. -/
structure Dotted where
  first : Atom
  others : List Atom

/-- Atoms as they follow others, each after its dot. -/
def dottedTail (atoms : List Atom) : Text :=
  atoms.flatMap fun atom ↦ '.' :: atom.text

def Dotted.text (dotted : Dotted) : Text :=
  dotted.first.text ++ dottedTail dotted.others

/-- An address: a local part and a domain. -/
structure Spec where
  localPart : Dotted
  domain : Dotted

def Spec.text (spec : Spec) : Text :=
  spec.localPart.text ++ '@' :: spec.domain.text

/-- What stands before an angle bracket. -/
inductive DisplayName where
  | absent
  | plain (first : Atom) (others : List Atom)
  | quoted (content : Text) (isPrintable_of_mem : ∀ c ∈ content, Text.isPrintable c = true)

namespace DisplayName

/-- The display name with the space after it.  Quotes and backslashes in a quoted name are escaped. -/
def written : DisplayName → Text
  | absent => []
  | plain first others => (first :: others).flatMap fun word ↦ word.text ++ [' ']
  | quoted content _ => requote content ++ [' ']

/-- What is left of a display name outside of quotations. -/
def visible : DisplayName → Text
  | quoted .. => [' ']
  | name => name.written

end DisplayName

/-- A mailbox as it is written. -/
inductive Mailbox where
  | bare (address : Spec)
  | bracketed (name : DisplayName) (address : Spec)

namespace Mailbox

def address : Mailbox → Spec
  | bare address => address
  | bracketed _ address => address

def written : Mailbox → Text
  | bare address => address.text
  | bracketed name address => name.written ++ '<' :: (address.text ++ ['>'])

/-- The text of a mailbox outside of quotations. -/
def visible : Mailbox → Text
  | bare address => address.text
  | bracketed name address => name.visible ++ '<' :: (address.text ++ ['>'])

end Mailbox

/-- A list of mailboxes with commas between them. -/
def writtenList (mailboxes : List Mailbox) : Text :=
  Text.join ", " (mailboxes.map Mailbox.written)

theorem writtenList_cons_cons (first second : Mailbox) (others : List Mailbox) :
    writtenList (first :: second :: others) =
      first.written ++ ',' :: ' ' :: writtenList (second :: others) := by
  simp [writtenList, Text.join]

/-! ## Characters of atoms -/

section Characters

variable {c : Char}

theorem isBlank_eq_false_of_isAlphanumeric (h : Text.isAlphanumeric c = true) :
    Text.isBlank c = false := by
  have hascii : ∀ n < 128, (Char.ofNat n).isAlphanum = true → Text.isBlank (Char.ofNat n) = false := by
    decide
  have hranges : ∀ n ∈ [0x85, 0xa0, 0x1680, 0x2000, 0x2001, 0x2002, 0x2003, 0x2004, 0x2005, 0x2006,
      0x2007, 0x2008, 0x2009, 0x200a, 0x2028, 0x2029, 0x202f, 0x205f, 0x3000],
      Text.inRanges Text.alphanumericRanges n = false := by
    decide +kernel
  rw [Text.isAlphanumeric] at h
  split at h
  · next hc =>
    have hdecided := hascii c.toNat hc
    rw [Char.ofNat_toNat] at hdecided
    exact hdecided h
  · next hc =>
    rw [Bool.eq_false_iff]
    intro hblank
    have hmem : c.toNat ∈ [0x85, 0xa0, 0x1680, 0x2000, 0x2001, 0x2002, 0x2003, 0x2004, 0x2005, 0x2006,
        0x2007, 0x2008, 0x2009, 0x200a, 0x2028, 0x2029, 0x202f, 0x205f, 0x3000] := by
      simp [Text.isBlank] at hblank ⊢
      omega
    rw [hranges _ hmem] at h
    cases h

theorem isBlank_of_isAtomChar (h : isAtomChar c = true) : Text.isBlank c = false := by
  simp only [isAtomChar, Text.isWord, Bool.or_eq_true, beq_iff_eq] at h
  rcases h with ((h | rfl) | rfl) | rfl
  · exact isBlank_eq_false_of_isAlphanumeric h
  · decide
  · decide
  · decide

/-- No special character of address lists stands in an atom. -/
theorem ne_of_isAtomChar (h : isAtomChar c = true) {d : Char}
    (hd : d ∈ "()<>@,:;.\"[] \t\r\n\\".toList) : c ≠ d := by
  have hspecial : ∀ d ∈ "()<>@,:;.\"[] \t\r\n\\".toList, (!isAtomChar d) = true :=
    List.all_eq_true.mp (by decide)
  rintro rfl
  have hc := hspecial c hd
  rw [h] at hc
  cases hc

theorem endsAtom_of_isAtomChar (h : isAtomChar c = true) : endsAtom c = false := by
  rw [Bool.eq_false_iff]
  intro hends
  have hmem : c ∈ "()<>@,:;.\"[] \t\r\n".toList := by simpa [endsAtom] using hends
  have hsub : "()<>@,:;.\"[] \t\r\n".toList ⊆ "()<>@,:;.\"[] \t\r\n\\".toList := by decide
  exact ne_of_isAtomChar h (hsub hmem) rfl

theorem endsWord_of_isAtomChar (h : isAtomChar c = true) : endsWord c = false := by
  rw [endsWord, endsAtom_of_isAtomChar h, Bool.false_and]

theorem ne_cr_of_isPrintable (h : Text.isPrintable c = true) : c ≠ '\r' := by
  rintro rfl
  exact absurd h (by decide)

end Characters

/-- An atom is a character and more characters of atoms. -/
theorem Atom.exists_cons (atom : Atom) : ∃ c text, atom.text = c :: text ∧ isAtomChar c = true ∧
    ∀ d ∈ text, isAtomChar d = true := by
  cases h : atom.text with
  | nil => exact absurd h atom.ne_nil
  | cons c text =>
    have hall := atom.isAtomChar_of_mem
    rw [h] at hall
    exact ⟨c, text, rfl, hall c List.mem_cons_self, fun d hd ↦ hall d (List.mem_cons_of_mem _ hd)⟩

/-- What holds of the characters of atoms and of the dot holds of the characters of dotted atoms. -/
theorem Dotted.forall_mem {P : Char → Prop} (hatom : ∀ c, isAtomChar c = true → P c) (hdot : P '.')
    (dotted : Dotted) : ∀ c ∈ dotted.text, P c := by
  intro c hc
  simp only [Dotted.text, dottedTail, List.mem_append, List.mem_flatMap, List.mem_cons] at hc
  rcases hc with hc | ⟨atom, -, rfl | hc⟩
  · exact hatom c (dotted.first.isAtomChar_of_mem c hc)
  · exact hdot
  · exact hatom c (atom.isAtomChar_of_mem c hc)

/-! ## Reading words and addresses -/

section Reading

variable {content rest : Text}

/-- Reading goes up to the first character that ends it. -/
theorem upTo_append {p : Char → Bool} (hcontent : ∀ c ∈ content, p c = false)
    (hrest : ∀ c ∈ rest.head?, p c = true) : upTo p (content ++ rest) = (content, rest) :=
  Prod.ext (Text.takeWhile_until hcontent hrest).1 (Text.takeWhile_until hcontent hrest).2

/-- Between a word and a character that is neither blank nor a bracket there is nothing to skip. -/
theorem gap_eq_nil {text : Text} (h : ∀ c ∈ text.head?, c ∉ " \t\r\n(".toList) :
    gap text = ([], text) := by
  cases text with
  | nil => rw [gap]
  | cons c text =>
    have hc := h c rfl
    simp only [String.reduceToList, List.mem_cons, List.not_mem_nil, or_false, not_or] at hc
    obtain ⟨hspace, htab, hcr, hlf, hparen⟩ := hc
    simp [gap, hspace, htab, hcr, hlf, hparen]

theorem skip_eq_self {text : Text} (h : ∀ c ∈ text.head?, c ∉ " \t\r\n(".toList) :
    skip text = text := by
  rw [skip, gap_eq_nil h]

theorem skip_token {c : Char} (h : c ∉ " \t\r\n(".toList) (rest : Text) :
    skip (c :: rest) = c :: rest := by
  apply skip_eq_self
  rintro _ ⟨⟩
  exact h

theorem skip_space (text : Text) : skip (' ' :: text) = skip text := by
  simp [skip, gap]

theorem delimited_requote (h : ∀ c ∈ content, c ≠ '\r') (rest : Text) :
    delimited '"' (content.flatMap (fun c ↦ if c = '\\' ∨ c = '"' then ['\\', c] else [c]) ++
      '"' :: rest) = (content, rest) := by
  induction content with
  | nil => simp [delimited]
  | cons c content ih =>
    have ih := ih fun d hd ↦ h d (List.mem_cons_of_mem _ hd)
    rw [List.flatMap_cons, List.append_assoc]
    by_cases hc : c = '\\' ∨ c = '"'
    · rw [if_pos hc, List.cons_append, List.singleton_append, delimited, ih]
    · have hc' : c ≠ '\\' ∧ c ≠ '"' := by simpa using hc
      have hcr := h c List.mem_cons_self
      rw [if_neg hc, List.singleton_append, delimited, ih]
      · simp [hc', hcr]
      · exact fun _ _ hescape _ ↦ hc'.1 hescape

/-! ### Display names -/

theorem words_space (rest : Text) : words (' ' :: rest) = words rest := by
  rw [words, if_pos (.inl rfl)]

/-- A character that ends words and starts no other token ends a display name. -/
theorem words_stop {c : Char} (h : c = '@' ∨ c = '<') (rest : Text) :
    words (c :: rest) = ([], c :: rest) := by
  rcases h with rfl | rfl <;> simp [words, endsWord, endsAtom]

theorem words_append (hne : content ≠ []) (hends : ∀ c ∈ content, endsWord c = false)
    (hrest : ∀ c ∈ rest.head?, endsWord c = true) :
    words (content ++ rest) = (content :: (words rest).1, (words rest).2) := by
  cases content with
  | nil => exact absurd rfl hne
  | cons c content =>
    have hc := hends c List.mem_cons_self
    have hspecial : ∀ d ∈ " \t\r\n\"(".toList, endsWord d = true :=
      List.all_eq_true.mp (by decide)
    have hnot (d : Char) (hd : d ∈ " \t\r\n\"(".toList) : c ≠ d := by
      rintro rfl
      rw [hspecial c hd] at hc
      cases hc
    have hupTo := upTo_append (fun d hd ↦ hends d (List.mem_cons_of_mem _ hd)) hrest
    rw [List.cons_append, words, if_neg, if_neg (hnot _ (by decide)), if_neg (hnot _ (by decide)),
      if_neg (by simp [hc]), hupTo]
    simp [hnot]

theorem words_requote (h : ∀ c ∈ content, c ≠ '\r') (rest : Text) :
    words (requote content ++ rest) = (content :: (words rest).1, (words rest).2) := by
  have hquote : requote content ++ rest = '"' :: (content.flatMap
      (fun c ↦ if c = '\\' ∨ c = '"' then ['\\', c] else [c]) ++ '"' :: rest) := by
    simp [requote]
  rw [hquote, words, if_neg (by decide), if_pos rfl, delimited_requote h]

theorem words_atoms (atoms : List Atom) (rest : Text) :
    words (atoms.flatMap (fun word ↦ word.text ++ [' ']) ++ rest) =
      (atoms.map Atom.text ++ (words rest).1, (words rest).2) := by
  induction atoms with
  | nil => rfl
  | cons atom atoms ih =>
    have hends : ∀ c ∈ atom.text, endsWord c = false :=
      fun c hc ↦ endsWord_of_isAtomChar (atom.isAtomChar_of_mem c hc)
    rw [List.flatMap_cons, List.append_assoc, List.append_assoc,
      words_append atom.ne_nil hends (by rintro _ ⟨⟩; decide), List.singleton_append, words_space, ih]
    rfl

/-- A display name ends at the angle bracket after it. -/
theorem DisplayName.words_written (name : DisplayName) (rest : Text) :
    (words (name.written ++ '<' :: rest)).2 = '<' :: rest := by
  cases name with
  | absent => rw [written, List.nil_append, words_stop (.inr rfl)]
  | plain first others => rw [written, words_atoms, words_stop (.inr rfl)]
  | quoted content h =>
    rw [written, List.append_assoc, words_requote (fun c hc ↦ ne_cr_of_isPrintable (h c hc)),
      List.singleton_append, words_space, words_stop (.inr rfl)]

/-! ### Addresses -/

theorem dropBlank_eq_self {piece : Text} {pieces : List Text} {c : Char} (hmem : c ∈ piece)
    (hc : Text.isBlank c = false) : dropBlank (piece :: pieces) = piece :: pieces := by
  have hall : piece.all Text.isBlank = false := List.all_eq_false.mpr ⟨c, hmem, by simp [hc]⟩
  rw [dropBlank, hall]
  rfl

theorem dropBlank_atom (atom : Atom) (pieces : List Text) :
    dropBlank (atom.text :: pieces) = atom.text :: pieces := by
  obtain ⟨c, text, htext, hc, -⟩ := atom.exists_cons
  rw [htext]
  exact dropBlank_eq_self List.mem_cons_self (isBlank_of_isAtomChar hc)

/-- What may follow an atom of an address: the end, or a character that is part of no word and of no
gap. -/
def EndsAddress (rest : Text) : Prop :=
  ∀ c ∈ rest.head?, c = '.' ∨ c = '@' ∨ c = '>' ∨ c = ','

theorem EndsAddress.endsAtom (h : EndsAddress rest) : ∀ c ∈ rest.head?, endsAtom c = true := by
  intro c hc
  rcases h c hc with rfl | rfl | rfl | rfl <;> decide

theorem EndsAddress.not_gap (h : EndsAddress rest) : ∀ c ∈ rest.head?, c ∉ " \t\r\n(".toList := by
  intro c hc
  rcases h c hc with rfl | rfl | rfl | rfl <;> decide

theorem endsAddress_cons {c : Char} (h : c = '.' ∨ c = '@' ∨ c = '>' ∨ c = ',') (rest : Text) :
    EndsAddress (c :: rest) := by
  rintro _ ⟨⟩
  exact h

theorem endsAddress_dottedTail (atoms : List Atom) (h : EndsAddress rest) :
    EndsAddress (dottedTail atoms ++ rest) := by
  cases atoms with
  | nil => exact h
  | cons atom atoms => exact endsAddress_cons (.inl rfl) _

theorem Atom.not_gap (atom : Atom) (rest : Text) :
    ∀ c ∈ (atom.text ++ rest).head?, c ∉ " \t\r\n(".toList := by
  obtain ⟨c, text, htext, hc, -⟩ := atom.exists_cons
  have hsub : " \t\r\n(".toList ⊆ "()<>@,:;.\"[] \t\r\n\\".toList := by decide
  rw [htext]
  rintro _ ⟨⟩ hmem
  exact ne_of_isAtomChar hc (hsub hmem) rfl

theorem localPart_atom (pieces : List Text) (atom : Atom) (hrest : EndsAddress rest) :
    localPart pieces (atom.text ++ rest) = localPart (atom.text :: pieces) rest := by
  obtain ⟨c, text, htext, hc, hmore⟩ := atom.exists_cons
  have hupTo := upTo_append (fun d hd ↦ endsAtom_of_isAtomChar (hmore d hd)) hrest.endsAtom
  rw [htext, List.cons_append, localPart, if_neg (ne_of_isAtomChar hc (by decide)),
    if_neg (ne_of_isAtomChar hc (by decide)), if_neg (by simp [endsAtom_of_isAtomChar hc]), hupTo]
  simp only [gap_eq_nil hrest.not_gap, skip_eq_self hrest.not_gap]
  rfl

theorem localPart_dottedTail (atoms : List Atom) (last : Atom) (pieces : List Text) (rest : Text) :
    ∃ found, localPart (last.text :: pieces) (dottedTail atoms ++ '@' :: rest) =
        (found, '@' :: rest) ∧
      found.reverse.flatten = pieces.reverse.flatten ++ last.text ++ dottedTail atoms := by
  induction atoms generalizing last pieces with
  | nil =>
    refine ⟨last.text :: pieces, ?_, by simp [dottedTail]⟩
    change localPart (last.text :: pieces) ('@' :: rest) = _
    rw [localPart, if_neg (by decide), if_neg (by decide), if_pos (by decide), dropBlank_atom]
  | cons atom atoms ih =>
    obtain ⟨found, hfound, hflatten⟩ := ih atom (['.'] :: last.text :: pieces)
    refine ⟨found, ?_, by rw [hflatten]; simp [dottedTail]⟩
    have hrest := endsAddress_dottedTail atoms (endsAddress_cons (.inr (.inl rfl)) rest)
    have htail : dottedTail (atom :: atoms) ++ '@' :: rest =
        '.' :: (atom.text ++ (dottedTail atoms ++ '@' :: rest)) := by simp [dottedTail]
    rw [htail, localPart, if_pos rfl, dropBlank_atom, skip_eq_self (atom.not_gap _),
      localPart_atom _ atom hrest, hfound]

theorem localPart_dotted (dotted : Dotted) (rest : Text) :
    ∃ found, localPart [] (dotted.text ++ '@' :: rest) = (found, '@' :: rest) ∧
      found.reverse.flatten = dotted.text := by
  obtain ⟨found, hfound, hflatten⟩ := localPart_dottedTail dotted.others dotted.first [] rest
  have hrest := endsAddress_dottedTail dotted.others (endsAddress_cons (.inr (.inl rfl)) rest)
  refine ⟨found, ?_, hflatten⟩
  rw [Dotted.text, List.append_assoc, localPart_atom [] dotted.first hrest, hfound]

theorem domain_atom (parts : Text) (atom : Atom) (hrest : EndsAddress rest) :
    domain parts (atom.text ++ rest) = domain (parts ++ atom.text) rest := by
  obtain ⟨c, text, htext, hc, hmore⟩ := atom.exists_cons
  have hupTo := upTo_append (fun d hd ↦ endsAtom_of_isAtomChar (hmore d hd)) hrest.endsAtom
  have hnot {d : Char} (hd : d ∈ "()<>@,:;.\"[] \t\r\n\\".toList) : c ≠ d := ne_of_isAtomChar hc hd
  rw [htext, List.cons_append, domain, if_neg (hnot (by decide)),
    if_neg (not_or.mpr ⟨hnot (by decide), hnot (by decide)⟩), if_neg (hnot (by decide)),
    if_neg (hnot (by decide)), if_neg (hnot (by decide)),
    if_neg (by simp [endsAtom_of_isAtomChar hc]), hupTo]

/-- What may follow an address: the end, or the character that closes its entry. -/
def EndsEntry (rest : Text) : Prop :=
  ∀ c ∈ rest.head?, c = '>' ∨ c = ','

theorem EndsEntry.endsAddress (h : EndsEntry rest) : EndsAddress rest :=
  fun c hc ↦ .inr (.inr (h c hc))

theorem domain_end (parts : Text) (hrest : EndsEntry rest) : domain parts rest = (parts, rest) := by
  cases rest with
  | nil => rw [domain]
  | cons c rest =>
    rcases hrest c rfl with rfl | rfl <;> simp [domain, Address.endsAtom]

theorem domain_dottedTail (atoms : List Atom) (parts : Text) (hrest : EndsEntry rest) :
    domain parts (dottedTail atoms ++ rest) = (parts ++ dottedTail atoms, rest) := by
  induction atoms generalizing parts with
  | nil =>
    change domain parts rest = _
    rw [domain_end parts hrest, dottedTail, List.flatMap_nil, List.append_nil]
  | cons atom atoms ih =>
    have htail (rest : Text) : dottedTail (atom :: atoms) ++ rest =
        '.' :: (atom.text ++ (dottedTail atoms ++ rest)) := by simp [dottedTail]
    have hends := endsAddress_dottedTail atoms hrest.endsAddress
    rw [htail, domain, if_neg (by decide), if_neg (by decide), if_neg (by decide), if_neg (by decide),
      if_pos rfl, domain_atom _ atom hends, ih]
    simp [dottedTail]

theorem domain_dotted (dotted : Dotted) (hrest : EndsEntry rest) :
    domain [] (dotted.text ++ rest) = (dotted.text, rest) := by
  have hends := endsAddress_dottedTail dotted.others hrest.endsAddress
  rw [Dotted.text, List.append_assoc, domain_atom [] dotted.first hends,
    domain_dottedTail _ _ hrest, List.nil_append]

theorem Dotted.not_gap (dotted : Dotted) (rest : Text) :
    ∀ c ∈ (dotted.text ++ rest).head?, c ∉ " \t\r\n(".toList := by
  rw [Dotted.text, List.append_assoc]
  exact dotted.first.not_gap _

theorem Dotted.text_ne_nil (dotted : Dotted) : dotted.text ≠ [] := by
  intro h
  exact dotted.first.ne_nil (List.append_eq_nil_iff.mp h).1

/-- An address is read up to the character that closes its entry. -/
theorem bare_spec (spec : Spec) (hrest : EndsEntry rest) :
    bare (spec.text ++ rest) = (spec.text, rest) := by
  obtain ⟨found, hfound, hflatten⟩ := localPart_dotted spec.localPart (spec.domain.text ++ rest)
  have htext : spec.text ++ rest = spec.localPart.text ++ '@' :: (spec.domain.text ++ rest) := by
    simp [Spec.text]
  have hempty : spec.domain.text.isEmpty = false := by simpa using spec.domain.text_ne_nil
  rw [htext, bare, skip_eq_self (spec.localPart.not_gap _), hfound]
  simp only [skip_eq_self (spec.domain.not_gap _), domain_dotted spec.domain hrest, hempty, hflatten]
  rfl

theorem Spec.not_gap (spec : Spec) (rest : Text) :
    ∀ c ∈ (spec.text ++ rest).head?, c ∉ " \t\r\n(".toList := by
  rw [Spec.text, List.append_assoc]
  exact spec.localPart.not_gap _

/-- An address in angle brackets is read up to the closing one. -/
theorem routed_spec (spec : Spec) (rest : Text) :
    routed false (spec.text ++ '>' :: rest) = (spec.text, rest) := by
  have hends : EndsEntry ('>' :: rest) := by
    rintro _ ⟨⟩
    exact .inl rfl
  have hbare := bare_spec spec hends
  obtain ⟨c, text, htext, hc, -⟩ := spec.localPart.first.exists_cons
  obtain ⟨more, hmore⟩ : ∃ more, spec.text ++ '>' :: rest = c :: more := by
    rw [Spec.text, Dotted.text, htext]
    exact ⟨_, rfl⟩
  rw [hmore] at hbare ⊢
  rw [routed, if_neg (by decide), if_neg (ne_of_isAtomChar hc (by decide)),
    if_neg (ne_of_isAtomChar hc (by decide)), if_neg (ne_of_isAtomChar hc (by decide)), hbare]
  rfl

end Reading

/-! ## Reading lists -/

/-- What follows a mailbox of a list: the end or a comma. -/
def EndsMailbox (rest : Text) : Prop :=
  ∀ c ∈ rest.head?, c = ','

theorem afterComma_of_endsMailbox {rest : Text} (h : EndsMailbox rest) :
    afterComma rest = rest.drop 1 := by
  cases rest with
  | nil => simp [afterComma, skip, gap]
  | cons c rest =>
    obtain rfl := h c rfl
    rw [afterComma, skip_token (by decide)]
    rfl

/-- An entry whose first word ends at an at sign is an address without brackets. -/
theorem entry_bare {text rest : Text} (h : (words (skip text)).2 = '@' :: rest) :
    entry text = ([(bare (skip text)).1], afterComma (bare (skip text)).2) := by
  have hskip : skip ('@' :: rest) = '@' :: rest := skip_token (by decide) rest
  rw [entry]
  simp only [h, hskip]
  rfl

/-- An entry with an angle bracket after its words is the address in the brackets. -/
theorem entry_bracketed {text rest : Text} (h : (words (skip text)).2 = '<' :: rest) :
    entry text = ([(routed false (skip rest)).1], afterComma (routed false (skip rest)).2) := by
  have hskip : skip ('<' :: rest) = '<' :: rest := skip_token (by decide) rest
  rw [entry]
  simp only [h, hskip]
  rfl

/-- A mailbox is read as its address, up to the comma after it. -/
theorem entry_mailbox (mailbox : Mailbox) {text rest : Text}
    (hskip : skip text = mailbox.written ++ rest) (hrest : EndsMailbox rest) :
    entry text = ([mailbox.address.text], rest.drop 1) := by
  have hends : EndsEntry rest := fun c hc ↦ .inr (hrest c hc)
  have hcomma := afterComma_of_endsMailbox hrest
  cases mailbox with
  | bare spec =>
    have htext : skip text = spec.localPart.text ++ '@' :: (spec.domain.text ++ rest) := by
      simp [hskip, Mailbox.written, Spec.text]
    have hword : ∀ c ∈ spec.localPart.text, endsWord c = false :=
      spec.localPart.forall_mem (fun c ↦ endsWord_of_isAtomChar) (by decide)
    have hwords : (words (skip text)).2 = '@' :: (spec.domain.text ++ rest) := by
      rw [htext, words_append spec.localPart.text_ne_nil hword (by rintro _ ⟨⟩; decide),
        words_stop (.inl rfl)]
    rw [entry_bare hwords, hskip, Mailbox.written, bare_spec spec hends, hcomma]
    rfl
  | bracketed name spec =>
    have htext : skip text = name.written ++ '<' :: (spec.text ++ '>' :: rest) := by
      simp [hskip, Mailbox.written]
    have hwords : (words (skip text)).2 = '<' :: (spec.text ++ '>' :: rest) := by
      rw [htext, name.words_written]
    rw [entry_bracketed hwords, skip_eq_self (spec.not_gap _), routed_spec, hcomma]
    rfl

theorem Spec.length_pos (spec : Spec) : 0 < spec.text.length := by
  rw [Spec.text, List.length_append, List.length_cons]
  omega

theorem Mailbox.length_pos (mailbox : Mailbox) : 0 < mailbox.written.length := by
  cases mailbox with
  | bare spec => exact spec.length_pos
  | bracketed name spec =>
    rw [written, List.length_append, List.length_cons]
    omega

theorem Mailbox.not_gap (mailbox : Mailbox) (rest : Text) :
    ∀ c ∈ (mailbox.written ++ rest).head?, c ∉ " \t\r\n(".toList := by
  cases mailbox with
  | bare spec => exact spec.not_gap rest
  | bracketed name spec =>
    cases name with
    | absent =>
      rintro _ ⟨⟩
      decide
    | plain first others =>
      have htext : ∃ more, (bracketed (.plain first others) spec).written ++ rest =
          first.text ++ more := by
        simp [written, DisplayName.written]
      obtain ⟨more, hmore⟩ := htext
      rw [hmore]
      exact first.not_gap more
    | quoted content h =>
      rintro _ ⟨⟩
      decide

theorem entries_of_entry {text rest : Text} {address : Text} (h : entry text = ([address], rest))
    (hlength : rest.length < text.length) : entries text = address :: entries rest := by
  cases text with
  | nil => exact absurd hlength (Nat.not_lt_zero _)
  | cons c text =>
    rw [List.length_cons] at hlength
    rw [entries, h]
    exact if_pos (Nat.le_of_lt_succ hlength)

/-- The entries of a written list are its addresses.  What comes before the first mailbox is the space
after a comma. -/
theorem entries_writtenList (first : Mailbox) (others : List Mailbox) {text : Text}
    (hskip : skip text = skip (writtenList (first :: others)))
    (hlength : (writtenList (first :: others)).length ≤ text.length) :
    entries text = (first :: others).map fun mailbox ↦ mailbox.address.text := by
  induction others generalizing first text with
  | nil =>
    have hwritten : writtenList [first] = first.written ++ [] := by
      simp [writtenList, Text.join]
    rw [hwritten, skip_eq_self (first.not_gap _)] at hskip
    have hentry := entry_mailbox first hskip (by rintro _ ⟨⟩)
    have hpos := first.length_pos
    rw [entries_of_entry hentry]
    · rw [List.drop_nil, entries]
      rfl
    · rw [hwritten, List.append_nil] at hlength
      exact Nat.lt_of_lt_of_le hpos hlength
  | cons second others ih =>
    rw [writtenList_cons_cons, skip_eq_self (first.not_gap _)] at hskip
    have hentry := entry_mailbox first hskip (by rintro _ ⟨⟩; rfl)
    have hrest := ih second (skip_space (writtenList (second :: others))) (by simp)
    rw [entries_of_entry hentry]
    · rw [List.drop_one, List.tail_cons, hrest]
      rfl
    · rw [writtenList_cons_cons] at hlength
      simp at hlength ⊢
      omega

/-! ## Counting the commas -/

section Counting

variable {text : Text}

theorem outsideQuotes_append (h : ∀ c ∈ text, c ≠ '\\' ∧ c ≠ '"') (rest : Text) :
    outsideQuotes none (text ++ rest) = text ++ outsideQuotes none rest := by
  induction text with
  | nil => rfl
  | cons c text ih =>
    have hc := h c List.mem_cons_self
    have ih := ih fun d hd ↦ h d (List.mem_cons_of_mem _ hd)
    rw [List.cons_append, outsideQuotes, if_neg hc.2, ih, List.cons_append]
    exact fun _ _ hescape _ ↦ hc.1 hescape

theorem outsideQuotes_escaped (content held rest : Text) :
    outsideQuotes (some held) (content.flatMap (fun c ↦ if c = '\\' ∨ c = '"' then ['\\', c] else [c]) ++
      '"' :: rest) = outsideQuotes none rest := by
  induction content generalizing held with
  | nil => simp [outsideQuotes]
  | cons c content ih =>
    rw [List.flatMap_cons, List.append_assoc]
    by_cases hc : c = '\\' ∨ c = '"'
    · rw [if_pos hc, List.cons_append, List.singleton_append, outsideQuotes, ih]
    · have hc' : c ≠ '\\' ∧ c ≠ '"' := by simpa using hc
      rw [if_neg hc, List.singleton_append, outsideQuotes, if_neg hc'.2, ih]
      exact fun _ _ hescape _ ↦ hc'.1 hescape

theorem balanced_of_forall (h : ∀ c ∈ text, c ≠ '\\' ∧ c ≠ '(' ∧ c ≠ ')') :
    balanced 0 text = true := by
  induction text with
  | nil => rfl
  | cons c text ih =>
    have hc := h c List.mem_cons_self
    have ih := ih fun d hd ↦ h d (List.mem_cons_of_mem _ hd)
    rw [balanced, if_neg hc.2.1, if_neg hc.2.2, ih]
    exact fun _ _ hescape _ ↦ hc.1 hescape

end Counting

/-- The characters that matter when commas are counted: those that open or close quotations and comments,
escapes, and the comma. -/
def countedChars : Text :=
  "()\\\","

theorem not_counted_of_isAtomChar {c : Char} (h : isAtomChar c = true) : c ∉ countedChars := by
  have hsub : countedChars ⊆ "()<>@,:;.\"[] \t\r\n\\".toList := by decide
  exact fun hmem ↦ ne_of_isAtomChar h (hsub hmem) rfl

theorem Spec.not_counted (spec : Spec) : ∀ c ∈ spec.text, c ∉ countedChars := by
  have hdotted (dotted : Dotted) : ∀ c ∈ dotted.text, c ∉ countedChars :=
    dotted.forall_mem (fun _ ↦ not_counted_of_isAtomChar) (by decide)
  intro c hc
  rw [Spec.text, List.mem_append, List.mem_cons] at hc
  rcases hc with hc | rfl | hc
  · exact hdotted _ c hc
  · decide
  · exact hdotted _ c hc

theorem DisplayName.not_counted (name : DisplayName) : ∀ c ∈ name.visible, c ∉ countedChars := by
  intro c hc
  cases name with
  | absent => cases hc
  | plain first others =>
    simp only [visible, written, List.mem_flatMap, List.mem_append, List.mem_singleton] at hc
    obtain ⟨atom, -, hc | rfl⟩ := hc
    · exact not_counted_of_isAtomChar (atom.isAtomChar_of_mem c hc)
    · decide
  | quoted content h =>
    obtain rfl := List.mem_singleton.mp hc
    decide

/-- A mailbox has none of these characters outside of quotations. -/
theorem Mailbox.not_counted (mailbox : Mailbox) : ∀ c ∈ mailbox.visible, c ∉ countedChars := by
  cases mailbox with
  | bare spec => exact spec.not_counted
  | bracketed name spec =>
    intro c hc
    simp only [visible, List.mem_append, List.mem_cons, List.not_mem_nil, or_false] at hc
    rcases hc with hc | rfl | hc | rfl
    · exact name.not_counted c hc
    · decide
    · exact spec.not_counted c hc
    · decide

theorem outsideQuotes_of_not_counted {text : Text} (h : ∀ c ∈ text, c ∉ countedChars) (rest : Text) :
    outsideQuotes none (text ++ rest) = text ++ outsideQuotes none rest := by
  apply outsideQuotes_append
  intro c hc
  constructor
  · rintro rfl
    exact h _ hc (by decide)
  · rintro rfl
    exact h _ hc (by decide)

theorem DisplayName.outsideQuotes_written (name : DisplayName) (rest : Text) :
    outsideQuotes none (name.written ++ rest) = name.visible ++ outsideQuotes none rest := by
  cases name with
  | absent => rfl
  | plain first others => exact outsideQuotes_of_not_counted (plain first others).not_counted rest
  | quoted content h =>
    have hquote : (quoted content h).written ++ rest = '"' :: (content.flatMap
        (fun c ↦ if c = '\\' ∨ c = '"' then ['\\', c] else [c]) ++ '"' :: ' ' :: rest) := by
      simp [written, requote]
    rw [hquote, outsideQuotes, if_pos rfl, outsideQuotes_escaped]
    · rfl
    · exact fun _ _ hescape _ ↦ absurd hescape (by decide)

theorem Mailbox.outsideQuotes_written (mailbox : Mailbox) (rest : Text) :
    outsideQuotes none (mailbox.written ++ rest) = mailbox.visible ++ outsideQuotes none rest := by
  cases mailbox with
  | bare spec => exact outsideQuotes_of_not_counted spec.not_counted rest
  | bracketed name spec =>
    have hbracket : ∀ c ∈ '<' :: (spec.text ++ ['>']), c ∉ countedChars :=
      (bracketed .absent spec).not_counted
    rw [written, visible, List.append_assoc, name.outsideQuotes_written,
      outsideQuotes_of_not_counted hbracket, List.append_assoc]

def visibleList (mailboxes : List Mailbox) : Text :=
  Text.join ", " (mailboxes.map Mailbox.visible)

theorem visibleList_cons_cons (first second : Mailbox) (others : List Mailbox) :
    visibleList (first :: second :: others) =
      first.visible ++ ',' :: ' ' :: visibleList (second :: others) := by
  simp [visibleList, Text.join]

theorem outsideQuotes_writtenList (mailboxes : List Mailbox) :
    outsideQuotes none (writtenList mailboxes) = visibleList mailboxes := by
  induction mailboxes with
  | nil => rfl
  | cons first others ih =>
    cases others with
    | nil =>
      have h := first.outsideQuotes_written []
      simpa [writtenList, visibleList, Text.join, outsideQuotes] using h
    | cons second others =>
      have hcomma : ∀ c ∈ [',', ' '], c ≠ '\\' ∧ c ≠ '"' := by simp
      rw [writtenList_cons_cons, first.outsideQuotes_written, visibleList_cons_cons, ← ih]
      exact congrArg (first.visible ++ ·) (outsideQuotes_append hcomma _)

theorem balanced_visibleList (mailboxes : List Mailbox) : balanced 0 (visibleList mailboxes) = true := by
  have hmem : ∀ c ∈ visibleList mailboxes, c = ',' ∨ c = ' ' ∨ c ∉ countedChars := by
    induction mailboxes with
    | nil =>
      intro c hc
      cases hc
    | cons first others ih =>
      cases others with
      | nil =>
        intro c hc
        exact .inr (.inr (first.not_counted c (by simpa [visibleList, Text.join] using hc)))
      | cons second others =>
        intro c hc
        simp only [visibleList_cons_cons, List.mem_append, List.mem_cons] at hc
        rcases hc with hc | rfl | rfl | hc
        · exact .inr (.inr (first.not_counted c hc))
        · exact .inl rfl
        · exact .inr (.inl rfl)
        · exact ih c hc
  apply balanced_of_forall
  intro c hc
  have hor := hmem c hc
  refine ⟨?_, ?_, ?_⟩ <;> rintro rfl <;> exact absurd hor (by decide)

/-- There are as many commas outside quotations as there are further mailboxes. -/
theorem count_visibleList (first : Mailbox) (others : List Mailbox) :
    (visibleList (first :: others)).count ',' = others.length := by
  have hnone (mailbox : Mailbox) : mailbox.visible.count ',' = 0 :=
    List.count_eq_zero.mpr fun hmem ↦ mailbox.not_counted ',' hmem (by decide)
  induction others generalizing first with
  | nil => simpa [visibleList, Text.join] using hnone first
  | cons second others ih =>
    rw [visibleList_cons_cons, List.count_append, hnone, List.count_cons_self,
      List.count_cons_of_ne (by decide), ih, Nat.zero_add, List.length_cons]

theorem Spec.isAddress (spec : Spec) : isAddress spec.text = true := by
  have hbracket : '[' ∉ spec.text := by
    have hdotted (dotted : Dotted) : ∀ c ∈ dotted.text, c ≠ '[' :=
      dotted.forall_mem (fun _ h ↦ ne_of_isAtomChar h (by decide)) (by decide)
    rw [Spec.text, List.mem_append, List.mem_cons]
    rintro (h | h | h)
    · exact hdotted _ _ h rfl
    · exact absurd h (by decide)
    · exact hdotted _ _ h rfl
  have hat : '@' ∈ spec.text := by simp [Spec.text]
  simp [Address.isAddress, hbracket, hat]

theorem Mailbox.at_mem (mailbox : Mailbox) : '@' ∈ mailbox.written := by
  have hspec (spec : Spec) : '@' ∈ spec.text := by simp [Spec.text]
  cases mailbox with
  | bare spec => exact hspec spec
  | bracketed name spec => simp [written, hspec]

theorem at_mem_writtenList (first : Mailbox) (others : List Mailbox) :
    '@' ∈ writtenList (first :: others) := by
  cases others with
  | nil => simpa [writtenList, Text.join] using first.at_mem
  | cons second others =>
    rw [writtenList_cons_cons]
    exact List.mem_append_left _ first.at_mem

/-- A written list is read as its addresses, in order. -/
theorem list?_writtenList (first : Mailbox) (others : List Mailbox) :
    list? (writtenList (first :: others)) =
      some ((first :: others).map fun mailbox ↦ mailbox.address.text) := by
  have hentries := entries_writtenList first others rfl (Nat.le_refl _)
  have hall : ((first :: others).map fun mailbox ↦ mailbox.address.text).all isAddress = true := by
    rw [List.all_map, List.all_eq_true]
    exact fun mailbox _ ↦ mailbox.address.isAddress
  rw [list?]
  simp only [hentries, outsideQuotes_writtenList, balanced_visibleList, count_visibleList, hall,
    List.length_map, List.length_cons, beq_self_eq_true, Bool.and_self, if_true]

end MailGateway.Mail.Address

namespace MailGateway.Topic

open Mail.Address

/-- The addresses of a written list are those of its mailboxes. -/
theorem addresses_writtenList (first : Mailbox) (others : List Mailbox) :
    addresses (some (writtenList (first :: others))) =
      .ok ((first :: others).map fun mailbox ↦ mailbox.address.text) := by
  have hat : '@' ∈ writtenList (first :: others) := at_mem_writtenList first others
  have htrim : (Text.trim (writtenList (first :: others))).isEmpty = false := by
    rw [List.isEmpty_eq_false_iff_exists_mem]
    exact ⟨'@', Text.mem_trimBy hat (by decide)⟩
  rw [addresses]
  simp only [htrim, list?_writtenList]
  rfl

/-- A recipient that is a list of mailboxes is read as their addresses, in order.  Only a single mailbox can
stand for a topic: a list of two or more is refused before anything else is looked at, and none of its
mailboxes is picked. -/
theorem writtenList_recipient [Platform] (first : Mailbox) (others : List Mailbox) :
    let recipient := some (writtenList (first :: others))
    addresses recipient = .ok ((first :: others).map fun mailbox ↦ mailbox.address.text) ∧
      (others ≠ [] → ∀ (domain : Text) (start pattern : Option Text),
        resolve recipient domain start pattern = .error (.gateway .tooManyRecipients)) := by
  intro recipient
  have haddresses : addresses recipient =
      .ok ((first :: others).map fun mailbox ↦ mailbox.address.text) :=
    addresses_writtenList first others
  refine ⟨haddresses, ?_⟩
  intro hothers domain start pattern
  cases others with
  | nil => exact absurd rfl hothers
  | cons second others =>
    rw [resolve, haddresses]
    rfl

/-- The comma and the brackets of a quoted name separate nothing, the comma after the mailbox does. -/
theorem two_mailboxes_refused [Platform] :
    let mailbox := Mailbox.bracketed (.quoted "Ops, <\"x@y\">" (List.all_eq_true.mp (by decide)))
      ⟨⟨⟨"a", by simp, List.all_eq_true.mp (by decide)⟩, [⟨"b", by simp, List.all_eq_true.mp (by decide)⟩]⟩,
        ⟨⟨"c", by simp, List.all_eq_true.mp (by decide)⟩, []⟩⟩
    let recipient : Text := "\"Ops, <\\\"x@y\\\">\" <a.b@c>, a.b@c"
    writtenList [mailbox, .bare mailbox.address] = recipient ∧
      addresses (some recipient) = .ok ["a.b@c".toList, "a.b@c".toList] ∧
      resolve (some recipient) "c" none none = .error (.gateway .tooManyRecipients) := by
  intro mailbox recipient
  have hlist : writtenList [mailbox, .bare mailbox.address] = recipient := by decide
  have h := writtenList_recipient mailbox [.bare mailbox.address]
  rw [hlist] at h
  exact ⟨hlist, h.1, h.2 (by simp) "c" none none⟩

end MailGateway.Topic
