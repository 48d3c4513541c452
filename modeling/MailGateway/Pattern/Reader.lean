import MailGateway.Pattern.Node
import MailGateway.Pattern.Problem
import MailGateway.Platform
import MailGateway.Text.Identifier

/-!
# Reading patterns

A pattern is read from left to right with one token of look-ahead.  A token is a character or an
escape, and a lone escape sign at the end is reported as soon as it is the next token.  `Pattern.read`
gives the pattern of a text or the first problem with it.
-/

namespace MailGateway.Pattern

/-- A character or an escape, and the number of characters before it. -/
abbrev Token := Text × Nat

def tokens (place : Nat) : Text → List Token
  | [] => []
  | '\\' :: c :: rest => (['\\', c], place) :: tokens (place + 2) rest
  | c :: rest => ([c], place) :: tokens (place + 1) rest

/-- What is known while a pattern is read: the tokens ahead, the flags for the whole pattern, the
names of groups, the widths of closed groups, how many groups there were when the outermost look
behind began, and the numbers that conditions refer to with their places. -/
structure Cursor where
  pattern : Text
  ahead : List Token
  flags : Flags
  names : List (Text × Nat)
  widths : List (Option (Nat × Nat))
  lookBehind : Option Nat
  conditions : List (Nat × Nat)

abbrev Read := StateT Cursor (Except Error)

namespace Read

def place : Read Nat := do
  let cursor ← get
  return match cursor.ahead with
    | (_, n) :: _ => n
    | [] => cursor.pattern.length

def failAt (problem : Problem) (position : Nat) : Read α := do
  throw (.malformed problem (← get).pattern (some position))

/-- Report a problem some characters before the next token. -/
def fail (problem : Problem) (back : Nat) : Read α := do
  failAt problem ((← place) - back)

def peek : Read (Option Text) := do
  return (← get).ahead.head?.map Prod.fst

/-- Report a lone escape sign if it is the next token. -/
def guardEscape : Read Unit := do
  match (← get).ahead with
  | (['\\'], n) :: _ => failAt .danglingEscape n
  | _ => pure ()

def advance : Read Unit := do
  modify fun cursor ↦ { cursor with ahead := cursor.ahead.drop 1 }
  guardEscape

def next : Read (Option Text) := do
  let token ← peek
  advance
  return token

/-- Take the next token if it is the character `c`. -/
def accept (c : Char) : Read Bool := do
  if (← peek) == some [c] then
    advance
    return true
  else return false

/-- Take up to `count` tokens that are characters with the property `p`. -/
def takeWhile (p : Char → Bool) : Nat → Read Text
  | 0 => return []
  | count + 1 => do
    match ← peek with
    | some [c] =>
      if p c then
        advance
        return c :: (← takeWhile p count)
      else return []
    | _ => return []

/-- Take tokens up to a terminator and return what stands before it, which must not be empty. -/
def untilChar (terminator : Char) (what : Text) : Nat → Text → Read Text
  | 0, taken => return taken
  | fuel + 1, taken => do
    match ← next with
    | none =>
      if taken.isEmpty then fail (.missing what) 0
      else fail (.unterminatedName terminator) taken.length
    | some token =>
      if token == [terminator] then
        if taken.isEmpty then fail (.missing what) 1 else return taken
      else untilChar terminator what fuel (taken ++ token)

def before (terminator : Char) (what : Text) : Read Text := do
  untilChar terminator what ((← get).ahead.length + 1) []

end Read

open Read

/-- The number that octal or hexadecimal digits stand for. -/
def digitsValue (base : Nat) (digits : Text) : Nat :=
  digits.foldl (fun n c ↦ n * base + (Text.hexValue? c).getD 0) 0

def isOctal (c : Char) : Bool :=
  '0' ≤ c && c ≤ '7'

def isHex (c : Char) : Bool :=
  (Text.hexValue? c).isSome

def controlOf? (c : Char) : Option Nat :=
  ([('a', 7), ('b', 8), ('f', 12), ('n', 10), ('r', 13), ('t', 9), ('v', 11), ('\\', 92)] :
    List (Char × Nat)).lookup c

/-- The class of characters of the letter of an escape. -/
def categoryOf? (c : Char) : Option Item :=
  ([('d', .category .digit false), ('D', .category .digit true), ('s', .category .space false),
    ('S', .category .space true), ('w', .category .word false), ('W', .category .word true)] :
    List (Char × Item)).lookup c

def anchorOf? (c : Char) : Option Anchor :=
  ([('A', .textStart), ('b', .boundary), ('B', .noBoundary), ('Z', .textEnd)] :
    List (Char × Anchor)).lookup c

/-- A character given by a fixed number of hexadecimal digits. -/
def hexEscape (escape : Text) (count : Nat) : Read Nat := do
  let digits ← Read.takeWhile isHex count
  let whole := escape ++ digits
  if digits.length ≠ count then fail (.incompleteEscape whole) whole.length
  else
    let code := digitsValue 16 digits
    if 0x110000 ≤ code then fail (.badEscape whole) whole.length else return code

variable [Platform]

/-- A character given by the name that the platform has for it. -/
def namedEscape : Read Nat := do
  if ← accept (Char.ofNat 123) then
    let name ← Read.before (Char.ofNat 125) "character name"
    match Platform.character? name with
    | some c => return c.toNat
    | none => fail (.unknownCharacterName name) (name.length + 4)
  else fail (.missing [Char.ofNat 123]) 0

/-- The escapes that mean the same inside and outside of sets.  The letter `c` follows the escape
sign. -/
def plainEscape (c : Char) : Read Nat := do
  let escape : Text := ['\\', c]
  if c = 'x' then hexEscape escape 2
  else if c = 'u' then hexEscape escape 4
  else if c = 'U' then hexEscape escape 8
  else if c = 'N' then namedEscape
  else if c.isAlpha || c.isDigit then fail (.badEscape escape) 2
  else return c.toNat

def octalEscape (escape digits : Text) : Read Nat := do
  let code := digitsValue 8 digits
  if 0xff < code then fail (.octalTooLarge escape) escape.length else return code

def setEscape (c : Char) : Read Item := do
  match controlOf? c, categoryOf? c with
  | some code, _ => return .single code
  | none, some item => return item
  | none, none =>
    if isOctal c then
      let more ← Read.takeWhile isOctal 2
      return .single (← octalEscape ('\\' :: c :: more) (c :: more))
    else return .single (← plainEscape c)

/-- Refuse a reference to a group that is still open or that belongs to the current look behind. -/
def checkLookBehind (number : Nat) : Read Unit := do
  let cursor ← get
  match cursor.lookBehind with
  | none => pure ()
  | some groups =>
    if (cursor.widths[number - 1]?).join.isNone then fail .openGroup 0
    else if groups ≤ number then fail .lookBehindReference 0
    else pure ()

/-- A reference to the group of a number.  `back` is the length of its text. -/
def reference (number back invalidBack : Nat) : Read Node := do
  let cursor ← get
  if number ≤ cursor.widths.length then
    if (cursor.widths[number - 1]?).join.isNone then fail .openGroup back
    else
      checkLookBehind number
      return .ref number
  else fail (.invalidReference number) invalidBack

/-- An escape that starts with a digit other than zero: three octal digits are a character, anything
else refers to a group. -/
def digitEscape (c : Char) : Read Node := do
  match ← Read.takeWhile Char.isDigit 1 with
  | [d] =>
    let third ← if isOctal c && isOctal d then Read.takeWhile isOctal 1 else pure []
    if third.isEmpty then
      reference (digitsValue 10 [c, d]) 3 2
    else return .char (← octalEscape ('\\' :: c :: d :: third) (c :: d :: third))
  | _ => reference (digitsValue 10 [c]) 2 1

def escape (c : Char) : Read Node := do
  match anchorOf? c, categoryOf? c, controlOf? c with
  | some place, _, _ => return .anchor place
  | none, some item, _ => return .set false [item]
  | none, none, some code => return .char code
  | none, none, none =>
    if c = '0' then
      let more ← Read.takeWhile isOctal 2
      return .char (digitsValue 8 (c :: more))
    else if c.isDigit then digitEscape c
    else return .char (← plainEscape c)

def member : Text → Read Item
  | ['\\', c] => setEscape c
  | c :: _ => return .single c.toNat
  | [] => return .single 0

/-- The members of a set up to its closing bracket, last member first.  `start` is the place of the
opening bracket. -/
def members (start : Nat) : Nat → List Item → Read (List Item)
  | 0, done => return done
  | fuel + 1, done => do
    match ← next with
    | none => failAt .unterminatedSet start
    | some first =>
      if first == "]" && !done.isEmpty then return done
      else
        let low ← member first
        if ← accept '-' then
          match ← next with
          | none => failAt .unterminatedSet start
          | some second =>
            if second == "]" then return .single 45 :: low :: done
            else
              let high ← member second
              let bad : Read (List Item) :=
                fail (.badRange first second) (first.length + 1 + second.length)
              match low, high with
              | .single a, .single b =>
                if b < a then bad else members start fuel (.range a b :: done)
              | _, _ => bad
        else members start fuel (low :: done)

/-- A set, from its opening bracket on. -/
def set (start : Nat) : Read Node := do
  let negated ← accept '^'
  return .set negated (← members start ((← get).ahead.length + 1) []).reverse

/-- The counts of a repetition sign, if it is one: an opening brace without counts stands for
itself. -/
def counts (sign : Char) : Read (Option (Nat × Option Nat)) := do
  if sign = '?' then return some (0, some 1)
  else if sign = '*' then return some (0, none)
  else if sign = '+' then return some (1, none)
  else
    let closing := Char.ofNat 125
    if (← peek) == some [closing] then return none
    let start ← place
    let ahead := (← get).ahead
    let low ← Read.takeWhile Char.isDigit ahead.length
    let high ← if ← accept ',' then Read.takeWhile Char.isDigit ahead.length else pure low
    if !(← accept closing) then
      modify fun cursor ↦ { cursor with ahead := ahead }
      return none
    let least := digitsValue 10 low
    let most := digitsValue 10 high
    if unlimited ≤ least || unlimited ≤ most then throw .countTooLarge
    else if high.isEmpty then return some (least, none)
    else if most < least then failAt .minAboveMax start
    else return some (least, some most)

/-- The flag of a letter, and whether the letter is one. -/
def flagOf? (token : Text) : Option Flags :=
  match token with
  | ['i'] => some { ignoreCase := true }
  | ['L'] => some {}
  | ['m'] => some { multiline := true }
  | ['s'] => some { dotAll := true }
  | ['x'] => some { verbose := true }
  | ['a'] => some { ascii := true }
  | ['t'] => some { template := true }
  | ['u'] => some { unicode := true }
  | _ => none

def notFlag (token expected : Text) : Read α :=
  match token with
  | [c] =>
    if Text.isAlphanumeric c && !Text.isDigit c then fail .unknownFlag 1
    else fail (.missing expected) 1
  | _ => fail (.missing expected) token.length

/-- The flags to add, and the token after them. -/
def addedFlags : Nat → Flags → Text → Read (Flags × Text)
  | 0, added, token => return (added, token)
  | fuel + 1, added, token => do
    match flagOf? token with
    | none => notFlag token "-, : or )"
    | some flag =>
      if token == "L" then fail (.flags "cannot use 'L' flag with a str pattern") 0
      let added := added.union flag
      if (flag.ascii || flag.unicode) && added.ascii && added.unicode then
        fail (.flags "flags 'a', 'u' and 'L' are incompatible") 0
      match ← next with
      | none => fail (.missing "-, : or )") 0
      | some token =>
        if token == ")" || token == "-" || token == ":" then return (added, token)
        else addedFlags fuel added token

/-- The flags to remove, up to the colon. -/
def removedFlags : Nat → Flags → Text → Text → Read Flags
  | 0, removed, _, _ => return removed
  | fuel + 1, removed, token, expected => do
    match flagOf? token with
    | none => notFlag token expected
    | some flag =>
      if token == "a" || token == "u" || token == "L" then
        fail (.flags "cannot turn off flags 'a', 'u' and 'L'") 0
      let removed := removed.union flag
      match ← next with
      | none => fail (.missing ":") 0
      | some token =>
        if token == ":" then return removed else removedFlags fuel removed token ":"

/-- Flags in a group: those for the whole pattern, or those that the group adds and removes. -/
def inlineFlags (token : Text) : Read (Flags ⊕ (Flags × Flags)) := do
  let fuel := (← get).ahead.length + 1
  let (added, token) ← if token == "-" then pure ({}, token) else addedFlags fuel {} token
  if token == ")" then return .inl added
  if added.template then fail (.flags "cannot turn on global flag") 1
  let removed ← if token == "-" then
      match ← next with
      | none => fail (.missing "flag") 0
      | some token => removedFlags fuel {} token "flag"
    else pure {}
  if removed.template then fail (.flags "cannot turn off global flag") 1
  if added.meets removed then fail (.flags "flag turned on and off") 1
  return .inr (added, removed)

def openGroup (name : Option Text) : Read Nat := do
  let cursor ← get
  let number := cursor.widths.length + 1
  match name with
  | none => pure ()
  | some name =>
    match cursor.names.lookup name with
    | some former => fail (.redefinedGroup name number former) (name.length + 1)
    | none => modify fun cursor ↦ { cursor with names := (name, number) :: cursor.names }
  modify fun cursor ↦ { cursor with widths := cursor.widths ++ [none] }
  return number

def Cursor.groupWidth (cursor : Cursor) (number : Nat) : Nat × Nat :=
  (cursor.widths[number - 1]?).join.getD (0, 0)

def closeGroup (number : Nat) (body : Node) : Read Unit :=
  modify fun cursor ↦
    { cursor with widths := cursor.widths.set (number - 1) (some (body.width cursor.groupWidth)) }

/-- The closing parenthesis of a group that opened at `start`. -/
def close (start : Nat) : Read Unit := do
  if ← accept ')' then pure () else failAt .unterminatedGroup start

def groupName (terminator : Char) : Read Text := do
  let name ← Read.before terminator "group name"
  if Text.isIdentifier name then return name
  else fail (.badGroupName name) (name.length + 1)

/-- The group that a condition refers to, by name or by number. -/
def condition : Read Nat := do
  let name ← Read.before ')' "group name"
  let back := name.length + 1
  let number ←
    if Text.isIdentifier name then
      match (← get).names.lookup name with
      | some number => pure number
      | none => fail (.unknownGroupName name) back
    else match Text.toInt? name with
      | some (.ofNat 0) => fail .badGroupNumber back
      | some (.ofNat n) =>
        if 1073741823 ≤ n then fail (.invalidReference n) back
        else
          let position := (← place) - back
          modify fun cursor ↦
            if (cursor.conditions.lookup n).isSome then cursor
            else { cursor with conditions := cursor.conditions ++ [(n, position)] }
          pure n
      | _ => fail (.badGroupName name) back
  checkLookBehind number
  return number

def skipLine : Nat → Read Unit
  | 0 => pure ()
  | fuel + 1 => do
    match ← next with
    | none => pure ()
    | some token => if token == "\n" then pure () else skipLine fuel

/-- Skip a comment group that opened at `start`. -/
def skipComment (start : Nat) : Nat → Read Unit
  | 0 => pure ()
  | fuel + 1 => do
    if (← peek).isNone then failAt .unterminatedComment start
    if (← next) == some [')'] then pure () else skipComment start fuel

/-- What stands after the question mark of a group. -/
inductive Opening where
  | capture (name : Option Text)
  | plain
  | ref (number : Nat)
  | comment
  | look (ahead negated : Bool)
  | cond
  | atomic
  | globalFlags (flags : Flags)
  | scoped (add del : Flags)

def opening (start : Nat) : Read Opening := do
  if !(← accept '?') then return .capture none
  match ← next with
  | none => fail .endOfPattern 0
  | some token =>
    if token == "P" then
      if ← accept '<' then return .capture (some (← groupName '>'))
      else if ← accept '=' then
        let name ← groupName ')'
        match (← get).names.lookup name with
        | none => fail (.unknownGroupName name) (name.length + 1)
        | some number =>
          let _ ← reference number (name.length + 1) 0
          return .ref number
      else match ← next with
        | none => fail .endOfPattern 0
        | some token => fail (.unknownExtension ('P' :: token)) (token.length + 2)
    else if token == ":" then return .plain
    else if token == "#" then
      skipComment start ((← get).ahead.length + 1)
      return .comment
    else if token == "=" then return .look true false
    else if token == "!" then return .look true true
    else if token == "<" then
      match ← next with
      | none => fail .endOfPattern 0
      | some token =>
        if token == "=" then return .look false false
        else if token == "!" then return .look false true
        else fail (.unknownExtension ('<' :: token)) (token.length + 2)
    else if token == "(" then return .cond
    else if token == ">" then return .atomic
    else if (flagOf? token).isSome || token == "-" then
      match ← inlineFlags token with
      | .inl flags => return .globalFlags flags
      | .inr (add, del) => return .scoped add del
    else fail (.unknownExtension token) (token.length + 1)

def repeated (start : Nat) (least : Nat) (most : Option Nat) : List Node → Read (List Node)
  | [] => failAt .nothingToRepeat start
  | last :: done => do
    if last.isAnchor then failAt .nothingToRepeat start
    if last.isRep then failAt .multipleRepeat start
    let greed ←
      if ← accept '?' then pure Greed.lazy
      else if ← accept '+' then pure Greed.possessive
      else pure Greed.greedy
    return .rep greed least most last :: done

mutual

def branches : Nat → Bool → Bool → Bool → Read Node
  | 0, _, _, _ => return .empty
  | fuel + 1, verbose, nested, first => do
    let parts ← sequence fuel verbose (first && !nested) []
    if ← accept '|' then
      let verbose ← if nested then pure verbose else pure (← get).flags.verbose
      return .alt (Node.ofList parts.reverse) (← branches fuel verbose nested false)
    else return Node.ofList parts.reverse

/-- The parts of a branch, last part first.  `first` says that flags for the whole pattern may stand
here. -/
def sequence : Nat → Bool → Bool → List Node → Read (List Node)
  | 0, _, _, done => return done
  | fuel + 1, verbose, first, done => do
    let start ← place
    match ← peek with
    | none => return done
    | some token =>
      if token == "|" || token == ")" then return done
      advance
      match token with
      | ['\\', c] => sequence fuel verbose first ((← escape c) :: done)
      | [c] =>
        if verbose && (c == ' ' || (9 ≤ c.toNat && c.toNat ≤ 13)) then
          sequence fuel verbose first done
        else if verbose && c == '#' then
          skipLine ((← get).ahead.length + 1)
          sequence fuel verbose first done
        else if c == '[' then sequence fuel verbose first ((← set start) :: done)
        else if c == '*' || c == '+' || c == '?' || c.toNat == 123 then
          match ← counts c with
          | none => sequence fuel verbose first (.char c.toNat :: done)
          | some (least, most) => sequence fuel verbose first (← repeated start least most done)
        else if c == '.' then sequence fuel verbose first (.any :: done)
        else if c == '^' then sequence fuel verbose first (.anchor .lineStart :: done)
        else if c == '$' then sequence fuel verbose first (.anchor .lineEnd :: done)
        else if c == '(' then
          match ← opening start with
          | .comment => sequence fuel verbose first done
          | .ref number => sequence fuel verbose first (.ref number :: done)
          | .globalFlags flags =>
            modify fun cursor ↦ { cursor with flags := cursor.flags.union flags }
            if !first || !done.isEmpty then failAt .lateFlags start
            sequence fuel (← get).flags.verbose first done
          | .look ahead negated =>
            let outer := (← get).lookBehind
            if !ahead && outer.isNone then
              modify fun cursor ↦ { cursor with lookBehind := some (cursor.widths.length + 1) }
            let body ← branches fuel verbose true false
            if !ahead then modify fun cursor ↦ { cursor with lookBehind := outer }
            close start
            let width := (body.width (← get).groupWidth).1
            sequence fuel verbose first
              (.look (if ahead then none else some width) negated body :: done)
          | .cond =>
            let number ← condition
            let yes ← sequence fuel verbose false []
            let no ← if ← accept '|' then
                let no ← sequence fuel verbose false []
                if (← peek) == some ['|'] then fail .tooManyBranches 0
                pure no
              else pure []
            close start
            sequence fuel verbose first
              (.cond number (Node.ofList yes.reverse) (Node.ofList no.reverse) :: done)
          | .plain =>
            let body ← branches fuel verbose true false
            close start
            sequence fuel verbose first (.scoped {} {} body :: done)
          | .atomic =>
            let body ← branches fuel verbose true false
            close start
            sequence fuel verbose first (.atomic body :: done)
          | .scoped add del =>
            let body ← branches fuel ((verbose || add.verbose) && !del.verbose) true false
            close start
            sequence fuel verbose first (.scoped add del body :: done)
          | .capture name =>
            let number ← openGroup name
            let body ← branches fuel verbose true false
            close start
            closeGroup number body
            sequence fuel verbose first (.group number body :: done)
        else sequence fuel verbose first (.char c.toNat :: done)
      | _ => sequence fuel verbose first done

end

/-- What cannot be matched although it can be read: repetitions under the template flag, and looks
behind without a fixed width. -/
def Node.obstacle? (groups : Nat → Nat × Nat) (template : Bool) : Node → Option Problem
  | .empty | .any | .set .. | .anchor _ | .ref _ => none
  | .seq a b | .alt a b | .cond _ a b =>
    (a.obstacle? groups template).or (b.obstacle? groups template)
  | .rep greed _ _ body =>
    if template then some (.templateRepeat (match greed with
      | .greedy => "MAX_REPEAT"
      | .lazy => "MIN_REPEAT"
      | .possessive => "POSSESSIVE_REPEAT"))
    else body.obstacle? groups template
  | .group _ body | .scoped _ _ body | .atomic body => body.obstacle? groups template
  | .look behind _ body =>
    let (low, high) := body.width groups
    if behind.isSome && unlimited < low then some .lookBehindTooFar
    else if behind.isSome && low ≠ high then some .lookBehindWidth
    else body.obstacle? groups template

end MailGateway.Pattern

namespace MailGateway

/-- A pattern that has been read: its parts and the flags for all of it. -/
structure Pattern where
  flags : Pattern.Flags
  node : Pattern.Node
deriving DecidableEq, Repr

end MailGateway

namespace MailGateway.Pattern

variable [Platform]

def readAll : Read Pattern := do
  Read.guardEscape
  let fuel := 2 * (← get).pattern.length + 3
  let node ← branches fuel false false true
  let flags := (← get).flags
  if flags.ascii && flags.unicode then throw .conflictingClasses
  let cursor ← get
  if !cursor.ahead.isEmpty then Read.fail .unbalanced 0
  match cursor.conditions.find? fun (n, _) ↦ cursor.widths.length < n with
  | some (n, position) => Read.failAt (.invalidReference n) position
  | none => pure ()
  match node.obstacle? cursor.groupWidth flags.template with
  | some problem => throw (.malformed problem cursor.pattern none)
  | none => return ⟨{ flags with unicode := !flags.ascii }, node⟩

/-- The pattern that a text is, or the first problem with it. -/
def read (pattern : Text) : Except Error Pattern :=
  (readAll.run ⟨pattern, tokens 0 pattern, {}, [], [], none, []⟩).map Prod.fst

end MailGateway.Pattern
