import MailGateway.Text.Printable

/-!
# Problems of patterns

Why a text is no pattern, where, and how that is said.  A place is given as the number of characters
before it, and also by line and column when the pattern has several lines.
-/

namespace MailGateway.Pattern

inductive Problem where
  | endOfPattern
  | danglingEscape
  | badEscape (escape : Text)
  | incompleteEscape (escape : Text)
  | octalTooLarge (escape : Text)
  | missing (what : Text)
  | unterminatedName (terminator : Char)
  | unknownCharacterName (name : Text)
  | openGroup
  | invalidReference (number : Nat)
  | lookBehindReference
  | unterminatedSet
  | badRange (first last : Text)
  | minAboveMax
  | nothingToRepeat
  | multipleRepeat
  | badGroupName (name : Text)
  | unknownGroupName (name : Text)
  | badGroupNumber
  | redefinedGroup (name : Text) (number former : Nat)
  | unknownExtension (text : Text)
  | unterminatedComment
  | unterminatedGroup
  | tooManyBranches
  | lateFlags
  | unknownFlag
  | flags (text : Text)
  | unbalanced
  | lookBehindWidth
  | lookBehindTooFar
  | templateRepeat (name : Text)
deriving DecidableEq, Repr

def Problem.message : Problem → Text
  | .endOfPattern => "unexpected end of pattern"
  | .danglingEscape => "bad escape (end of pattern)"
  | .badEscape escape => "bad escape " ++ escape
  | .incompleteEscape escape => "incomplete escape " ++ escape
  | .octalTooLarge escape => "octal escape value " ++ escape ++ " outside of range 0-0o377"
  | .missing what => "missing " ++ what
  | .unterminatedName terminator => "missing " ++ [terminator] ++ ", unterminated name"
  | .unknownCharacterName name => "undefined character name " ++ name.quoted
  | .openGroup => "cannot refer to an open group"
  | .invalidReference n => "invalid group reference " ++ Text.ofNat n
  | .lookBehindReference => "cannot refer to group defined in the same lookbehind subpattern"
  | .unterminatedSet => "unterminated character set"
  | .badRange first last => "bad character range " ++ first ++ "-" ++ last
  | .minAboveMax => "min repeat greater than max repeat"
  | .nothingToRepeat => "nothing to repeat"
  | .multipleRepeat => "multiple repeat"
  | .badGroupName name => "bad character in group name " ++ name.quoted
  | .unknownGroupName name => "unknown group name " ++ name.quoted
  | .badGroupNumber => "bad group number"
  | .redefinedGroup name number former => "redefinition of group name " ++ name.quoted ++
      " as group " ++ Text.ofNat number ++ "; was group " ++ Text.ofNat former
  | .unknownExtension text => "unknown extension ?" ++ text
  | .unterminatedComment => "missing ), unterminated comment"
  | .unterminatedGroup => "missing ), unterminated subpattern"
  | .tooManyBranches => "conditional backref with more than two branches"
  | .lateFlags => "global flags not at the start of the expression"
  | .unknownFlag => "unknown flag"
  | .flags text => "bad inline flags: " ++ text
  | .unbalanced => "unbalanced parenthesis"
  | .lookBehindWidth => "look-behind requires fixed-width pattern"
  | .lookBehindTooFar => "looks too much behind"
  | .templateRepeat name => "internal: unsupported template operator " ++ name

/-- Why a text is not accepted as a pattern.  Besides problems with a place there are two general
ones: a repetition count that is too large, and classes of characters chosen in two ways. -/
inductive Error where
  | malformed (problem : Problem) (pattern : Text) (position : Option Nat)
  | countTooLarge
  | conflictingClasses
deriving DecidableEq, Repr

/-- The place in words: the number of characters before it, and line and column if there are
several lines. -/
def placeIn (pattern : Text) (position : Nat) : Text :=
  let before := pattern.take position
  let line := before.count '\n' + 1
  let column := (before.reverse.takeWhile (· != '\n')).length + 1
  " at position " ++ Text.ofNat position ++
    (if pattern.contains '\n' then
      " (line " ++ Text.ofNat line ++ ", column " ++ Text.ofNat column ++ ")"
    else [])

def Error.message : Error → Text
  | .malformed problem pattern position => problem.message ++
      match position with
      | some n => placeIn pattern n
      | none => []
  | .countTooLarge => "the repetition number is too large"
  | .conflictingClasses => "ASCII and UNICODE flags are incompatible"

end MailGateway.Pattern
