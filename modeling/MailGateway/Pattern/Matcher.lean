import MailGateway.Pattern.Reader
import MailGateway.Text.Case

/-!
# Matching patterns

A pattern is matched by trying its possibilities in order: the first possibility after which the
rest of the pattern matches is taken.  The rest of the pattern is a function from places in the text,
so `Node.run node place next` is the first place where `node` ends and `next` succeeds.
-/

namespace MailGateway.Pattern

/-- A place in a text: the characters before it in reverse, those after it, and the texts of the
groups that have matched. -/
structure Place where
  before : Text
  rest : Text
  groups : List (Nat × Text)
deriving DecidableEq, Repr

abbrev Next := Place → Option Place

def Category.holds (kind : Category) (flags : Flags) (c : Char) : Bool :=
  match kind with
  | .digit => if flags.ascii then c.isDigit else Text.isDecimal c
  | .space => if flags.ascii then c == ' ' || (9 ≤ c.toNat && c.toNat ≤ 13) else Text.isBlank c
  | .word => if flags.ascii then c.isAlphanum || c == '_' else Text.isWord c

/-- Whether a character of the pattern changes with its case. -/
def codeHasCase (flags : Flags) (code : Nat) : Bool :=
  if flags.ascii then (Char.ofNat code).isAlpha else Text.hasCase (Char.ofNat code)

/-- Whether a character of the text is a character of the pattern when case does not count. -/
def sameCode (flags : Flags) (code : Nat) (c : Char) : Bool :=
  if flags.ascii then (Char.ofNat code).toLower == c.toLower && (c.toNat < 0x80 || c.toNat == code)
  else Text.sameLetter (Char.ofNat code) c

def rangeCodes (first last : Nat) : List Nat :=
  (List.range (last + 1 - first)).map (first + ·)

/-- Whether the member has a character that changes with its case. -/
def Item.hasCase (flags : Flags) : Item → Bool
  | .single code => codeHasCase flags code
  | .range first last => (rangeCodes first last).any (codeHasCase flags)
  | .category .. => false

def Item.holds (flags : Flags) (cased : Bool) (c : Char) : Item → Bool
  | .single code => if cased then sameCode flags code c else code == c.toNat
  | .range first last =>
    if cased then (rangeCodes first last).any (sameCode flags · c)
    else first ≤ c.toNat && c.toNat ≤ last
  | .category kind negated => kind.holds flags c != negated

def inSet (flags : Flags) (negated : Bool) (items : List Item) (c : Char) : Bool :=
  let cased := flags.ignoreCase && items.any (·.hasCase flags)
  items.any (·.holds flags cased c) != negated

/-- Whether a condition on a place holds.  An empty text has no boundaries, and no places without
one either. -/
def Anchor.holds (anchor : Anchor) (flags : Flags) (place : Place) : Bool :=
  let word (text : Text) : Bool := match text with
    | c :: _ => Category.word.holds flags c
    | [] => false
  match anchor with
  | .textStart => place.before.isEmpty
  | .textEnd => place.rest.isEmpty
  | .lineStart => match place.before with
    | [] => true
    | c :: _ => flags.multiline && c == '\n'
  | .lineEnd => match place.rest with
    | [] => true
    | c :: rest => c == '\n' && (flags.multiline || rest.isEmpty)
  | .boundary =>
    !(place.before.isEmpty && place.rest.isEmpty) && word place.before != word place.rest
  | .noBoundary =>
    !(place.before.isEmpty && place.rest.isEmpty) && word place.before == word place.rest

/-- Match one character that satisfies `p`. -/
def step (p : Char → Bool) (place : Place) (next : Next) : Option Place :=
  match place.rest with
  | [] => none
  | c :: rest => if p c then next ⟨c :: place.before, rest, place.groups⟩ else none

def stepText (same : Char → Char → Bool) : Text → Place → Next → Option Place
  | [], place, next => next place
  | c :: text, place, next => step (same c) place fun place ↦ stepText same text place next

def required (body : Place → Next → Option Place) : Nat → Place → Next → Option Place
  | 0, place, next => next place
  | count + 1, place, next => body place fun place ↦ required body count place next

/-- The rounds of a repetition that may be.  A round that took no character is the last one.
`last` is the length of the rest before the previous round. -/
def optional (body : Place → Next → Option Place) (lazy : Bool) :
    Nat → Option Nat → Option Nat → Place → Next → Option Place
  | 0, _, _, place, next => next place
  | fuel + 1, most, last, place, next =>
    if most = some 0 ∨ last = some place.rest.length then next place
    else
      let round := fun (_ : Unit) ↦ body place fun after ↦
        optional body lazy fuel (most.map (· - 1)) (some place.rest.length) after next
      if lazy then next place <|> round () else round () <|> next place

/-- As many rounds as there are, each taking the first possibility. -/
def exhaust (body : Place → Next → Option Place) :
    Nat → Option Nat → Option Nat → Place → Place
  | 0, _, _, place => place
  | fuel + 1, most, last, place =>
    if most = some 0 ∨ last = some place.rest.length then place
    else match body place some with
      | some after => exhaust body fuel (most.map (· - 1)) (some place.rest.length) after
      | none => place

def rounds (body : Place → Next → Option Place) (greed : Greed) (least : Nat) (most : Option Nat)
    (place : Place) (next : Next) : Option Place :=
  let left := most.map (· - least)
  let fuel := place.rest.length + 2
  match greed with
  | .greedy => required body least place fun place ↦ optional body false fuel left none place next
  | .lazy => required body least place fun place ↦ optional body true fuel left none place next
  | .possessive =>
    match required (fun place next ↦ (body place some).bind next) least place some with
    | some place => next (exhaust body fuel left none place)
    | none => none

def Place.back? (place : Place) (count : Nat) : Option Place :=
  if count ≤ place.before.length then
    some ⟨place.before.drop count, (place.before.take count).reverse ++ place.rest, place.groups⟩
  else none

/-- Match a pattern at a place and what has to follow after it. -/
def Node.run (flags : Flags) : Node → Place → Next → Option Place
  | .empty, place, next => next place
  | .any, place, next => step (fun c ↦ flags.dotAll || c != '\n') place next
  | .set negated items, place, next => step (inSet flags negated items) place next
  | .anchor condition, place, next => if condition.holds flags place then next place else none
  | .seq a b, place, next => a.run flags place fun place ↦ b.run flags place next
  | .alt a b, place, next => a.run flags place next <|> b.run flags place next
  | .rep greed least most body, place, next =>
    rounds (fun place next ↦ body.run flags place next) greed least most place next
  | .group number body, place, next =>
    body.run flags place fun after ↦
      let length := place.rest.length - after.rest.length
      next { after with groups := (number, place.rest.take length) :: after.groups }
  | .scoped add del body, place, next => body.run (flags.inside add del) place next
  | .atomic body, place, next => (body.run flags place some).bind next
  | .look behind negated body, place, next =>
    let start := match behind with
      | none => some place
      | some count => place.back? count
    match start.bind fun start ↦ body.run flags start some with
    | some after => if negated then none else next { place with groups := after.groups }
    | none => if negated then next place else none
  | .ref number, place, next =>
    match place.groups.lookup number with
    | some text =>
      stepText (fun c d ↦ if flags.ignoreCase then sameCode flags c.toNat d else c == d) text
        place next
    | none => none
  | .cond number yes no, place, next =>
    if (place.groups.lookup number).isSome then yes.run flags place next
    else no.run flags place next

def fullMatch (pattern : Pattern) (text : Text) : Bool :=
  (pattern.node.run pattern.flags ⟨[], text, []⟩ fun place ↦
    if place.rest.isEmpty then some place else none).isSome

end MailGateway.Pattern
