import MailGateway.Text.Basic

/-!
# Patterns

The form of a topic pattern: characters, sets, repetitions, groups, references to groups and
conditions on the neighbourhood.  `Node.width` gives the least and the greatest number of characters
that a pattern can take, which a look behind has to know in advance.
-/

namespace MailGateway.Pattern

/-- How a pattern is read: what case, lines and the classes of characters mean. -/
structure Flags where
  ignoreCase : Bool := false
  multiline : Bool := false
  dotAll : Bool := false
  verbose : Bool := false
  ascii : Bool := false
  unicode : Bool := false
  template : Bool := false
deriving DecidableEq, Repr, Inhabited

namespace Flags

def union (a b : Flags) : Flags where
  ignoreCase := a.ignoreCase || b.ignoreCase
  multiline := a.multiline || b.multiline
  dotAll := a.dotAll || b.dotAll
  verbose := a.verbose || b.verbose
  ascii := a.ascii || b.ascii
  unicode := a.unicode || b.unicode
  template := a.template || b.template

/-- The flags of the first that are not flags of the second. -/
def minus (a b : Flags) : Flags where
  ignoreCase := a.ignoreCase && !b.ignoreCase
  multiline := a.multiline && !b.multiline
  dotAll := a.dotAll && !b.dotAll
  verbose := a.verbose && !b.verbose
  ascii := a.ascii && !b.ascii
  unicode := a.unicode && !b.unicode
  template := a.template && !b.template

def meets (a b : Flags) : Bool :=
  a.ignoreCase && b.ignoreCase || a.multiline && b.multiline || a.dotAll && b.dotAll ||
    a.verbose && b.verbose || a.ascii && b.ascii || a.unicode && b.unicode ||
    a.template && b.template

/-- The flags inside a group that adds some and removes others.  A choice of the character classes
replaces the choice outside. -/
def inside (outer add del : Flags) : Flags :=
  let base := if add.ascii || add.unicode then { outer with ascii := false, unicode := false }
    else outer
  (base.union add).minus del

end Flags

/-- The classes of characters that have a name in patterns. -/
inductive Category where
  | digit
  | space
  | word
deriving DecidableEq, Repr

/-- A member of a set of characters.  Characters are given by number. -/
inductive Item where
  | single (code : Nat)
  | range (first last : Nat)
  | category (kind : Category) (negated : Bool)
deriving DecidableEq, Repr

/-- A condition on a place in the text. -/
inductive Anchor where
  | lineStart
  | lineEnd
  | textStart
  | textEnd
  | boundary
  | noBoundary
deriving DecidableEq, Repr

/-- How a repetition chooses the number of rounds: as many as possible, as few as possible, or as
many as possible once and for all. -/
inductive Greed where
  | greedy
  | lazy
  | possessive
deriving DecidableEq, Repr

/-- A pattern.  A look at the text ahead has no number; a look at the text behind has the number of
characters that it goes back. -/
inductive Node where
  | empty
  | any
  | set (negated : Bool) (items : List Item)
  | anchor (place : Anchor)
  | seq (first second : Node)
  | alt (first second : Node)
  | rep (greed : Greed) (least : Nat) (most : Option Nat) (body : Node)
  | group (number : Nat) (body : Node)
  | scoped (add del : Flags) (body : Node)
  | atomic (body : Node)
  | look (behind : Option Nat) (negated : Bool) (body : Node)
  | ref (number : Nat)
  | cond (number : Nat) (yes no : Node)
deriving DecidableEq, Repr, Inhabited

namespace Node

def char (code : Nat) : Node :=
  .set false [.single code]

def ofList (nodes : List Node) : Node :=
  nodes.foldr .seq .empty

def isRep : Node → Bool
  | .rep .. => true
  | _ => false

def isAnchor : Node → Bool
  | .anchor _ => true
  | _ => false

end Node

/-- The number that stands for unlimited repetition when widths are computed. -/
def unlimited : Nat := 4294967295

def maxWidth : Nat := 18446744073709551616

/-- The least and the greatest number of characters of a pattern, given those of the groups. -/
def Node.width (groups : Nat → Nat × Nat) : Node → Nat × Nat
  | .empty | .anchor _ | .look .. => (0, 0)
  | .any | .set .. => (1, 1)
  | .seq a b =>
    let (l, h) := a.width groups
    let (m, k) := b.width groups
    (min (l + m) maxWidth, min (h + k) maxWidth)
  | .alt a b =>
    let (l, h) := a.width groups
    let (m, k) := b.width groups
    (min l m, max h k)
  | .rep _ least most body =>
    let (l, h) := body.width groups
    let top := match most with
      | some m => h * m
      | none => if h = 0 then 0 else maxWidth
    (min (l * least) maxWidth, min top maxWidth)
  | .group _ body | .scoped _ _ body | .atomic body => body.width groups
  | .ref n => groups n
  | .cond _ yes no =>
    let (l, h) := yes.width groups
    let (m, k) := no.width groups
    (min l m, max h k)

end MailGateway.Pattern
