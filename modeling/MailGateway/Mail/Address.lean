import MailGateway.Text.Blank

/-!
# Address lists

The value of an address field: mailboxes, mailboxes in angle brackets with a display name, routes
and groups, with comments anywhere.  `Address.list?` gives the bare addresses of a value and refuses
every value in which the number of addresses found is not the number that the commas announce, since
such a value can be read as different lists.
-/

namespace MailGateway.Mail.Address

def endsAtom (c : Char) : Bool :=
  ("()<>@,:;.\"[] \t\r\n" : Text).contains c

/-- Characters that end a word of a display name: a dot does not. -/
def endsWord (c : Char) : Bool :=
  endsAtom c && c != '.'

/-- What follows a comment, given how many comments are open around the innermost one.  A carriage
return ends a comment too. -/
def afterComment : Nat → Text → Text
  | _, [] => []
  | depth, '\\' :: _ :: rest => afterComment depth rest
  | depth, c :: rest =>
    if c = ')' ∨ c = '\r' then
      match depth with
      | 0 => rest
      | outer + 1 => afterComment outer rest
    else if c = '(' then afterComment (depth + 1) rest
    else afterComment depth rest

theorem length_afterComment_le (depth : Nat) (text : Text) :
    (afterComment depth text).length ≤ text.length := by
  fun_induction afterComment depth text <;> simp_all <;> omega

/-- The blanks before the next token, and the text from that token on.  Comments and line breaks are
skipped and do not count as blanks. -/
def gap : Text → Text × Text
  | [] => ([], [])
  | c :: rest =>
    if c = ' ' ∨ c = '\t' then (c :: (gap rest).1, (gap rest).2)
    else if c = '\r' ∨ c = '\n' then gap rest
    else if c = '(' then gap (afterComment 0 rest)
    else ([], c :: rest)
termination_by text => text.length
decreasing_by
  all_goals have := length_afterComment_le 0 rest
  all_goals simp only [List.length_cons]; omega

def skip (text : Text) : Text :=
  (gap text).2

theorem length_skip_le (text : Text) : (skip text).length ≤ text.length := by
  unfold skip
  fun_induction gap text with
  | case4 rest _ _ ih =>
    have := length_afterComment_le 0 rest
    simp only [List.length_cons]
    omega
  | _ => simp_all <;> omega

/-- The content up to the closing character or a carriage return, without escapes, and the rest. -/
def delimited (close : Char) : Text → Text × Text
  | [] => ([], [])
  | '\\' :: c :: rest => (c :: (delimited close rest).1, (delimited close rest).2)
  | c :: rest =>
    if c = close ∨ c = '\r' then ([], rest)
    else
      let (content, text) := delimited close rest
      (if c = '\\' then content else c :: content, text)

theorem length_delimited_le (close : Char) (text : Text) :
    (delimited close text).2.length ≤ text.length := by
  fun_induction delimited close text <;> simp_all <;> omega

/-- The text up to the first character that satisfies `p`, and the rest. -/
def upTo (p : Char → Bool) (text : Text) : Text × Text :=
  (text.takeWhile (!p ·), text.dropWhile (!p ·))

theorem length_upTo_le (p : Char → Bool) (text : Text) :
    (upTo p text).2.length ≤ text.length :=
  (text.dropWhile_suffix (!p ·)).length_le

/-- The words of a display name and the text after them. -/
def words : Text → List Text × Text
  | [] => ([], [])
  | c :: rest =>
    if c = ' ' ∨ c = '\t' ∨ c = '\r' ∨ c = '\n' then words rest
    else if c = '"' then
      let (more, after) := words (delimited '"' rest).2
      ((delimited '"' rest).1 :: more, after)
    else if c = '(' then words (afterComment 0 rest)
    else if endsWord c then ([], c :: rest)
    else
      let (more, after) := words (upTo endsWord rest).2
      ((c :: (upTo endsWord rest).1) :: more, after)
termination_by text => text.length
decreasing_by
  all_goals have := length_afterComment_le 0 rest
  all_goals have := length_delimited_le '"' rest
  all_goals have := length_upTo_le endsWord rest
  all_goals simp only [List.length_cons]; omega

/-- A quoted local part as it is written in an address. -/
def requote (content : Text) : Text :=
  '"' :: content.flatMap (fun c ↦ if c = '\\' ∨ c = '"' then ['\\', c] else [c]) ++ ['"']

/-- Drop the last piece, which is first in the list, if it is blank. -/
def dropBlank : List Text → List Text
  | [] => []
  | piece :: pieces => if piece.all Text.isBlank then pieces else piece :: pieces

/-- Add the blanks after a piece, if there are any. -/
def keepBlanks (blanks : Text) (pieces : List Text) : List Text :=
  if blanks.isEmpty then pieces else blanks :: pieces

/-- The pieces of a local part, last piece first, and the text after them.  Blanks around dots are
dropped. -/
def localPart (pieces : List Text) : Text → List Text × Text
  | [] => (pieces, [])
  | c :: rest =>
    if c = '.' then localPart (['.'] :: dropBlank pieces) (skip rest)
    else if c = '"' then
      let content := (delimited '"' rest).1
      let after := (delimited '"' rest).2
      localPart (keepBlanks (gap after).1 (requote content :: pieces)) (skip after)
    else if endsAtom c then (dropBlank pieces, c :: rest)
    else
      let atom := c :: (upTo endsAtom rest).1
      let after := (upTo endsAtom rest).2
      localPart (keepBlanks (gap after).1 (atom :: pieces)) (skip after)
termination_by text => text.length
decreasing_by
  · have := length_skip_le rest
    simp only [List.length_cons]; omega
  · have := length_delimited_le '"' rest
    have := length_skip_le (delimited '"' rest).2
    simp only [List.length_cons]; omega
  · have := length_upTo_le endsAtom rest
    have := length_skip_le (upTo endsAtom rest).2
    simp only [List.length_cons]; omega

/-- The domain of an address and the text after it.  A second at sign makes the domain empty. -/
def domain (parts : Text) : Text → Text × Text
  | [] => (parts, [])
  | c :: rest =>
    if c = '@' then ([], c :: rest)
    else if c = ' ' ∨ c = '\t' then domain parts rest
    else if c = '(' then domain parts (afterComment 0 rest)
    else if c = '[' then
      domain (parts ++ '[' :: (delimited ']' rest).1 ++ [']']) (delimited ']' rest).2
    else if c = '.' then domain (parts ++ ['.']) rest
    else if endsAtom c then (parts, c :: rest)
    else domain (parts ++ c :: (upTo endsAtom rest).1) (upTo endsAtom rest).2
termination_by text => text.length
decreasing_by
  all_goals have := length_afterComment_le 0 rest
  all_goals have := length_delimited_le ']' rest
  all_goals have := length_upTo_le endsAtom rest
  all_goals simp only [List.length_cons]; omega

theorem length_domain_le (parts text : Text) : (domain parts text).2.length ≤ text.length := by
  fun_induction domain parts text with
  | case4 parts rest _ _ ih =>
    have := length_afterComment_le 0 rest
    simp only [List.length_cons]
    omega
  | case5 parts rest _ _ _ ih =>
    have := length_delimited_le ']' rest
    simp only [List.length_cons]
    omega
  | case8 parts c rest _ _ _ _ _ _ ih =>
    have := length_upTo_le endsAtom rest
    simp only [List.length_cons]
    omega
  | _ => simp_all <;> omega

/-- An address without brackets and the text after it.  An address without a usable domain is
empty. -/
def bare (text : Text) : Text × Text :=
  let (pieces, after) := localPart [] (skip text)
  let name := pieces.reverse.flatten
  match after with
  | '@' :: rest =>
    let (host, after) := domain [] (skip rest)
    (if host.isEmpty then [] else name ++ '@' :: host, after)
  | _ => (name, after)

/-- The address between angle brackets and the text after them.  `expectDomain` says that the part
of a route that comes next is a domain, which is skipped. -/
def routed (expectDomain : Bool) : Text → Text × Text
  | [] => ([], [])
  | c :: rest =>
    if expectDomain then routed false (skip (domain [] (c :: rest)).2)
    else if c = '>' then ([], rest)
    else if c = '@' then routed true (skip rest)
    else if c = ':' then routed false (skip rest)
    else
      let (address, after) := bare (c :: rest)
      (address, after.drop 1)
termination_by text => (text.length, expectDomain.toNat)
decreasing_by
  · have h := Nat.le_trans (length_skip_le (domain [] (c :: rest)).2)
      (length_domain_le [] (c :: rest))
    rcases Nat.lt_or_eq_of_le h with h | h
    · exact Prod.Lex.left _ _ h
    · rw [h]
      exact Prod.Lex.right _ (by simp_all)
  all_goals exact Prod.Lex.left _ _ (Nat.lt_succ_of_le (length_skip_le rest))

/-- Skip to the next token and over one comma there. -/
def afterComma (text : Text) : Text :=
  match skip text with
  | ',' :: rest => rest
  | text => text

mutual

/-- The addresses of one entry of a list, several if the entry is a group, and the text after the
entry and its comma. -/
def entry (text : Text) : List Text × Text :=
  let start := skip text
  let (names, after) := words start
  match skip after with
  | [] => (names.take 1, [])
  | c :: rest =>
    if c = '@' ∨ c = '.' then
      let (address, after) := bare start
      ([address], afterComma after)
    else if c = ':' then
      if rest.length < text.length then
        let (addresses, after) := members rest
        (addresses, afterComma after)
      else ([], [])
    else if c = '<' then
      let (address, after) := routed false (skip rest)
      ([address], afterComma after)
    else if !names.isEmpty then (names.take 1, afterComma (c :: rest))
    else ([], afterComma (if endsAtom c then rest else c :: rest))
termination_by (text.length, 0)

/-- The addresses of a group up to its semicolon, and the text after it. -/
def members : Text → List Text × Text
  | [] => ([], [])
  | c :: text =>
    match skip (c :: text) with
    | ';' :: rest => ([], rest)
    | start =>
      if start.length ≤ text.length + 1 then
        let (addresses, after) := entry start
        if after.length ≤ text.length then
          let (more, after) := members after
          (addresses ++ more, after)
        else (addresses, after)
      else ([], start)
termination_by text => (text.length, 1)
decreasing_by
  · rename_i h
    rcases Nat.lt_or_eq_of_le h with h | h
    · exact Prod.Lex.left _ _ h
    · rw [List.length_cons, h]
      exact Prod.Lex.right _ (by decide)
  · rename_i h
    exact Prod.Lex.left _ _ (Nat.lt_succ_of_le h)

end

/-- The addresses of all entries.  An entry without an address counts as an empty one. -/
def entries : Text → List Text
  | [] => []
  | c :: text =>
    let (addresses, after) := entry (c :: text)
    let found := if addresses.isEmpty then [[]] else addresses
    if after.length ≤ text.length then found ++ entries after else found
termination_by text => text.length

/-- The text without its closed quotations.  `held` is the text since the quote that is open, last
character first. -/
def outsideQuotes : Option Text → Text → Text
  | none, [] => []
  | some held, [] => held.reverse
  | none, '\\' :: c :: rest => '\\' :: c :: outsideQuotes none rest
  | some held, '\\' :: c :: rest => outsideQuotes (some (c :: '\\' :: held)) rest
  | none, c :: rest =>
    if c = '"' then outsideQuotes (some ['"']) rest else c :: outsideQuotes none rest
  | some held, c :: rest =>
    if c = '"' then outsideQuotes none rest else outsideQuotes (some (c :: held)) rest

/-- Whether every parenthesis has its partner, given how many are open.  Escaped ones do not
count. -/
def balanced : Nat → Text → Bool
  | depth, [] => depth == 0
  | depth, '\\' :: _ :: rest => balanced depth rest
  | depth, c :: rest =>
    if c = '(' then balanced (depth + 1) rest
    else if c = ')' then
      match depth with
      | 0 => false
      | outer + 1 => balanced outer rest
    else balanced depth rest

/-- Whether the text is an address: it has an at sign, and no bracket is left of an address literal
that was not closed. -/
def isAddress (address : Text) : Bool :=
  address.contains '@' && !address.contains '['

/-- The bare addresses of a list, if the list is well formed. -/
def list? (value : Text) : Option (List Text) :=
  let visible := outsideQuotes none value
  let addresses := entries value
  if balanced 0 visible && addresses.length == visible.count ',' + 1 && addresses.all isAddress then
    some addresses
  else none

end MailGateway.Mail.Address
