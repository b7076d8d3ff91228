import Workbench.Pattern.Basic
import Workbench.Pattern.Fault
import Workbench.Text.Blank
import Workbench.Json.Reader
import Workbench.Decimal.Numeral

/-!
# Reading patterns

The text of a pattern is read token by token, where a backslash and the character after it are one
token. A backslash at the very end is found as soon as it is the next token.

Flags for the whole pattern may stand at its start only. A branch that is one character or set is
merged with its neighbours of that kind, after the parts that all branches begin with have been
taken out in front.
-/

namespace Workbench.Pattern

open Text (isAsciiLetter isAsciiDigit)

/-- The settings that hold for a whole pattern. -/
structure Globals where
  modes : Modes
  unicode : Bool
  verbose : Bool
  template : Bool
  deriving Repr

/-- How far a pattern has been read, and what has been seen. -/
structure Progress where
  /-- The text from the next token on. -/
  rest : List Char
  /-- The place of the next token. -/
  position : Nat
  globals : Globals
  /-- The width of each group from the first on; nothing while the group is open. -/
  groups : List (Option Width)
  names : List (String × Nat)
  /-- The number of groups (and one) at the start of the outermost look behind that is open. -/
  lookbehind : Option Nat
  /-- The groups that conditions name by number, each with its first place. -/
  conditions : List (Nat × Nat)
  deriving Repr

/-- A step of reading. -/
abbrev Reading := StateT Progress (Except Fault)

/-- A token: a character, or a backslash and a character. -/
abbrev Token := List Char

/-- Fails at a place. -/
def failAt {α : Type} (problem : Problem) (position : Nat) : Reading α :=
  throw ⟨problem, some position⟩

/-- Fails at the place `offset` characters before the next token. -/
def failBefore {α : Type} (problem : Problem) (offset : Nat) : Reading α := do
  failAt problem ((← get).position - offset)

/-- Fails if the next token is a backslash at the end of the pattern. -/
def checkNext : Reading Unit := do
  let p ← get
  if p.rest == ['\\'] then failAt .trailingBackslash p.position

/-- The next token, if there is one. -/
def peek : Reading (Option Token) := do
  match (← get).rest with
  | [] => pure none
  | '\\' :: c :: _ => pure (some ['\\', c])
  | c :: _ => pure (some [c])

/-- The place of the next token. -/
def here : Reading Nat := do
  pure (← get).position

/-- Takes the next token. -/
def takeToken : Reading (Option Token) := do
  let token ← peek
  match token with
  | none => pure none
  | some t =>
    modify fun p => { p with rest := p.rest.drop t.length, position := p.position + t.length }
    checkNext
    pure (some t)

/-- Takes the next token if it is the given character. -/
def accept (c : Char) : Reading Bool := do
  if (← peek) == some [c] then
    discard takeToken
    pure true
  else pure false

/-- Takes up to `count` tokens that are characters of a kind. -/
def takeUpTo (kind : Char → Bool) : Nat → Reading (List Char)
  | 0 => pure []
  | count + 1 => do
    match ← peek with
    | some [c] =>
      if kind c then
        discard takeToken
        pure (c :: (← takeUpTo kind count))
      else pure []
    | _ => pure []

/-- Takes all tokens that are digits. -/
def takeDigits : Reading (List Char) := do
  takeUpTo isAsciiDigit (← get).rest.length

/-- Takes a name up to its terminator; `taken` holds the characters so far. -/
def takeNameFrom (terminator : Char) (what : String) (taken : List Char) :
    Nat → Reading (List Char)
  | 0 => failBefore (.missing what) 0
  | fuel + 1 => do
    match ← takeToken with
    | none =>
      if taken.isEmpty then failBefore (.missing what) 0
      else failBefore (.unterminatedName (String.singleton terminator)) taken.length
    | some token =>
      if token == [terminator] then
        if taken.isEmpty then failBefore (.missing what) 1 else pure taken
      else takeNameFrom terminator what (taken ++ token) fuel

/-- Takes a name up to its terminator. -/
def takeName (terminator : Char) (what : String) : Reading (List Char) := do
  takeNameFrom terminator what [] ((← get).rest.length + 1)

/-- Whether a character is an octal digit. -/
def isOctal (c : Char) : Bool :=
  '0' ≤ c && c ≤ '7'

/-- Whether a character is a hexadecimal digit. -/
def isHex (c : Char) : Bool :=
  (Json.hexValue? c).isSome

/-- The number that digits stand for in a base. -/
def digitsIn (base : Nat) (digits : List Char) : Nat :=
  digits.foldl (fun n c => n * base + (Json.hexValue? c).getD 0) 0

/-- An escape with exactly `count` hexadecimal digits after its letter. -/
def readHexEscape (letter : Char) (count : Nat) : Reading Nat := do
  let digits ← takeUpTo isHex count
  let escape := '\\' :: letter :: digits
  if digits.length != count then
    failBefore (.incompleteEscape (String.ofList escape)) escape.length
  else
    let code := digitsIn 16 digits
    if 0x110000 ≤ code then failBefore (.badEscape (String.ofList escape)) escape.length
    else pure code

/-- An escape that names a character. No name is known. -/
def readNamedEscape : Reading Nat := do
  if ← accept '{' then
    let name ← takeName '}' "character name"
    failBefore (.undefinedCharacter (String.ofList name)) (name.length + 4)
  else failBefore (.missing "\x7b") 0

/-- An octal escape; the digits are known to be octal. -/
def octalCode (digits : List Char) : Reading Nat := do
  let code := digitsIn 8 digits
  if 0o377 < code then
    failBefore (.octalTooLarge (String.ofList ('\\' :: digits))) (digits.length + 1)
  else pure code

/-- The character that a letter stands for after a backslash. -/
def controlCode? : Char → Option Nat
  | 'a' => some 7
  | 'b' => some 8
  | 'f' => some 12
  | 'n' => some 10
  | 'r' => some 13
  | 't' => some 9
  | 'v' => some 11
  | '\\' => some 92
  | _ => none

/-- The class that a letter stands for after a backslash. -/
def categoryMember? : Char → Option Member
  | 'd' => some (.category .digit false)
  | 'D' => some (.category .digit true)
  | 's' => some (.category .space false)
  | 'S' => some (.category .space true)
  | 'w' => some (.category .word false)
  | 'W' => some (.category .word true)
  | _ => none

/-- The place that a letter stands for after a backslash. -/
def anchorOf? : Char → Option Anchor
  | 'A' => some .textStart
  | 'b' => some .boundary
  | 'B' => some .noBoundary
  | 'Z' => some .textEnd
  | _ => none

/-- An escape that stands for a character by its code, if the letter is one of those. -/
def codeEscape? (c : Char) : Option (Reading Nat) :=
  match c with
  | 'x' => some (readHexEscape c 2)
  | 'u' => some (readHexEscape c 4)
  | 'U' => some (readHexEscape c 8)
  | 'N' => some readNamedEscape
  | _ => none

/-- An escaped character that stands for itself. -/
def plainEscape (c : Char) : Reading Nat :=
  if isAsciiLetter c || isAsciiDigit c then
    failBefore (.badEscape (String.ofList ['\\', c])) 2
  else pure c.toNat

/-- An escape inside of a set. -/
def readMemberEscape (c : Char) : Reading Member := do
  match controlCode? c, categoryMember? c, codeEscape? c with
  | some code, _, _ => pure (.literal code)
  | _, some member, _ => pure member
  | _, _, some read => pure (.literal (← read))
  | _, _, _ =>
    if isOctal c then pure (.literal (← octalCode (c :: (← takeUpTo isOctal 2))))
    else pure (.literal (← plainEscape c))

def closedWidth? (p : Progress) (group : Nat) : Option Width :=
  if group = 0 then none else (p.groups[group - 1]?).join

/-- Fails if a reference inside of a look behind is to a group that is open or inside of it too. -/
def checkLookbehind (group : Nat) : Reading Unit := do
  let p ← get
  match p.lookbehind with
  | none => pure ()
  | some bound =>
    if (closedWidth? p group).isNone then failBefore .openGroup 0
    else if bound ≤ group then failBefore .lookbehindGroup 0

/-- A reference to a group by number; `size` is the length of its text. -/
def readReference (group size : Nat) : Reading Node := do
  let p ← get
  if group ≤ p.groups.length then
    match closedWidth? p group with
    | none => failBefore .openGroup size
    | some width =>
      checkLookbehind group
      pure (.backreference group width)
  else failBefore (.invalidReference group) (size - 1)

/-- An escape that starts with a digit other than zero: three octal digits name a character, one or
two digits a group. -/
def readDigitEscape (c : Char) : Reading Node := do
  match ← takeUpTo isAsciiDigit 1 with
  | [d] =>
    let third ← if isOctal c && isOctal d then takeUpTo isOctal 1 else pure []
    if third.isEmpty then readReference (digitsIn 10 [c, d]) 3
    else pure (.literal (← octalCode (c :: d :: third)))
  | _ => readReference (digitsIn 10 [c]) 2

/-- An escape outside of a set. -/
def readEscape (c : Char) : Reading Node := do
  match anchorOf? c, categoryMember? c, controlCode? c, codeEscape? c with
  | some a, _, _, _ => pure (.anchor a)
  | _, some member, _, _ => pure (.set false [member])
  | _, _, some code, _ => pure (.literal code)
  | _, _, _, some read => pure (.literal (← read))
  | _, _, _, _ =>
    if c == '0' then pure (.literal (digitsIn 8 (← takeUpTo isOctal 2)))
    else if isAsciiDigit c then readDigitEscape c
    else pure (.literal (← plainEscape c))

/-- A member of a set from its token. -/
def readMember (token : Token) : Reading Member :=
  match token with
  | ['\\', c] => readMemberEscape c
  | c :: _ => pure (.literal c.toNat)
  | [] => pure (.literal 0)

/-- The members of a set up to its closing bracket; `start` is the place of the opening one. -/
def readMembers (start : Nat) (members : List Member) : Nat → Reading (List Member)
  | 0 => failAt .unterminatedSet start
  | fuel + 1 => do
    match ← takeToken with
    | none => failAt .unterminatedSet start
    | some first =>
      if first == [']'] && !members.isEmpty then pure members
      else
        let low ← readMember first
        if ← accept '-' then
          match ← takeToken with
          | none => failAt .unterminatedSet start
          | some last =>
            if last == [']'] then pure (members ++ [low, .literal '-'.toNat])
            else
              let high ← readMember last
              let bad : Reading (List Member) :=
                failBefore (.badRange (String.ofList first) (String.ofList last))
                  (first.length + 1 + last.length)
              match low, high with
              | .literal a, .literal b =>
                if b < a then bad
                else readMembers start (members ++ [.range a b]) fuel
              | _, _ => bad
        else readMembers start (members ++ [low]) fuel

/-- A set from its opening bracket, which has been taken. -/
def readSet : Reading Node := do
  let start := (← here) - 1
  let negated ← accept '^'
  let members := (← readMembers start [] ((← get).rest.length + 1)).eraseDups
  match members with
  | [.literal code] => pure (if negated then .notLiteral code else .literal code)
  | _ => pure (.set negated members)

/-- The least number of repetitions that is too large to be written. -/
def repetitionLimit : Nat := 4294967295

/-- The bounds in braces after an opening brace, which has been taken; nothing if the brace stands
for itself. -/
def readBounds : Reading (Option (Nat × Option Nat)) := do
  let back ← get
  let low ← takeDigits
  let high ← if ← accept ',' then takeDigits else pure low
  if ← accept '}' then
    let least := digitsIn 10 low
    let most := digitsIn 10 high
    if repetitionLimit ≤ least || repetitionLimit ≤ most then
      throw ⟨.repetitionTooLarge, none⟩
    else if !high.isEmpty && most < least then failAt .minGreaterThanMax back.position
    else pure (some (least, if high.isEmpty then none else some most))
  else
    set back
    pure none

/-- The bounds of a repetition from its sign, which has been taken; nothing if the sign stands for
itself. -/
def readRepetition (sign : Char) : Reading (Option (Nat × Option Nat)) := do
  if sign == '?' then pure (some (0, some 1))
  else if sign == '*' then pure (some (0, none))
  else if sign == '+' then pure (some (1, none))
  else if (← peek) == some ['}'] then pure none
  else readBounds

/-- The sign after a repetition that tells how it repeats. -/
def readGreed : Reading Greed := do
  let lazy ← accept '?'
  if lazy then pure .lazy
  else
    let possessive ← accept '+'
    pure (if possessive then .possessive else .greedy)

/-- Repeats the last of the parts that were read (last first); `position` is that of the sign. -/
def repeatLast (position : Nat) (bounds : Nat × Option Nat) (done : List Node) :
    Reading (List Node) := do
  match done with
  | [] => failAt .nothingToRepeat position
  | .anchor _ :: _ => failAt .nothingToRepeat position
  | .repetition .. :: _ => failAt .multipleRepeat position
  | item :: before =>
    pure (.repetition (← readGreed) bounds.1 bounds.2 item :: before)

def flagLetters : List Char := ['i', 'L', 'm', 's', 'x', 'a', 't', 'u']

/-- The flags that choose a character set. -/
def typeLetters : List Char := ['a', 'u', 'L']

/-- What is wrong with a token where a flag is expected. -/
def flagProblem (token : Token) (otherwise : Problem) : Problem :=
  if token.all fun c => Text.inRuns Text.letterBounds c.toNat then .unknownFlag else otherwise

/-- The flags that are turned on, from the first one; ends with the token after them. -/
def readFlagsOn (on : List Char) (flag : Char) : Nat → Reading (List Char × Char)
  | 0 => failBefore .missingFlagEnd 0
  | fuel + 1 => do
    if flag == 'L' then failBefore .localeFlag 0
    let on := flag :: on
    if typeLetters.contains flag && on.any (fun c => typeLetters.contains c && c != flag) then
      failBefore .incompatibleFlags 0
    match ← takeToken with
    | none => failBefore .missingFlagEnd 0
    | some token =>
      match token with
      | [c] =>
        if c == ')' || c == '-' || c == ':' then pure (on, c)
        else if flagLetters.contains c then readFlagsOn on c fuel
        else failBefore (flagProblem token .missingFlagEnd) token.length
      | _ => failBefore (flagProblem token .missingFlagEnd) token.length

/-- The flags that are turned off, from the first one up to a colon. -/
def readFlagsOff (off : List Char) (flag : Char) : Nat → Reading (List Char)
  | 0 => failBefore .missingColon 0
  | fuel + 1 => do
    if typeLetters.contains flag then failBefore .typeOff 0
    let off := flag :: off
    match ← takeToken with
    | none => failBefore .missingColon 0
    | some token =>
      match token with
      | [c] =>
        if c == ':' then pure off
        else if flagLetters.contains c then readFlagsOff off c fuel
        else failBefore (flagProblem token .missingColon) token.length
      | _ => failBefore (flagProblem token .missingColon) token.length

/-- Flags of a whole pattern or of a group. -/
inductive Flags where
  | whole (on : List Char)
  | group (on off : List Char)
  deriving Repr

/-- Flags from their first token, which has been taken. -/
def readFlags (first : Char) : Reading Flags := do
  let fuel := (← get).rest.length + 1
  let (on, stop) ← if first == '-' then pure ([], '-') else readFlagsOn [] first fuel
  if stop == ')' then pure (.whole on)
  else
    if on.contains 't' then failBefore .globalOn 1
    let off ←
      if stop == '-' then
        match ← takeToken with
        | none => failBefore .missingFlag 0
        | some token =>
          match token with
          | [c] =>
            if flagLetters.contains c then readFlagsOff [] c fuel
            else failBefore (flagProblem token .missingFlag) token.length
          | _ => failBefore (flagProblem token .missingFlag) token.length
      else pure []
    if off.contains 't' then failBefore .globalOff 1
    if on.any off.contains then failBefore .onAndOff 1
    pure (.group on off)

/-- What flags do to one mode. -/
def switched (on off : List Char) (letter : Char) : Option Bool :=
  if on.contains letter then some true else if off.contains letter then some false else none

/-- What flags do to the modes. -/
def Switch.ofFlags (on off : List Char) : Switch :=
  { ignoreCase := switched on off 'i'
    multiline := switched on off 'm'
    dotAll := switched on off 's'
    asciiOnly :=
      if on.contains 'a' then some true else if on.contains 'u' then some false else none }

/-- Settings with further flags. -/
def Globals.withFlags (g : Globals) (on : List Char) : Globals :=
  { modes :=
      { ignoreCase := g.modes.ignoreCase || on.contains 'i'
        multiline := g.modes.multiline || on.contains 'm'
        dotAll := g.modes.dotAll || on.contains 's'
        asciiOnly := g.modes.asciiOnly || on.contains 'a' }
    unicode := g.unicode || on.contains 'u'
    verbose := g.verbose || on.contains 'x'
    template := g.template || on.contains 't' }

/-- Opens a new group. -/
def openGroup (name : Option (List Char)) : Reading Nat := do
  let p ← get
  let number := p.groups.length + 1
  set { p with groups := p.groups ++ [none] }
  match name with
  | none => pure number
  | some cs =>
    let text := String.ofList cs
    match Entries.lookup text p.names with
    | some earlier => failBefore (.redefinition text number earlier) (cs.length + 1)
    | none =>
      modify fun p => { p with names := p.names ++ [(text, number)] }
      pure number

/-- Closes a group that has been opened. -/
def closeGroup (number : Nat) (width : Width) : Reading Unit :=
  modify fun p => { p with groups := p.groups.set (number - 1) (some width) }

/-- The number of a group that is not written as a name: blanks around it and single underscores
between its digits are allowed. -/
def groupNumber? (name : List Char) : Option Nat :=
  let body :=
    match Text.trim name with
    | '+' :: cs => cs
    | cs => cs
  let digits := (Decimal.withoutUnderscores? body).getD body
  if digits.isEmpty || 4300 < digits.length || !digits.all Text.isDecimal then none
  else some (Decimal.decimalNumber digits)

/-- The number of groups that a pattern can have. -/
def groupLimit : Nat := 1073741823

/-- The group of a condition, from its opening bracket, which has been taken. -/
def readConditionGroup : Reading Nat := do
  let name ← takeName ')' "group name"
  let text := String.ofList name
  if Text.isIdentifier name then
    match Entries.lookup text (← get).names with
    | some group => pure group
    | none => failBefore (.unknownGroupName text) (name.length + 1)
  else
    match groupNumber? name with
    | none => failBefore (.badGroupName text) (name.length + 1)
    | some group =>
      if group = 0 then failBefore .badGroupNumber (name.length + 1)
      else if groupLimit ≤ group then failBefore (.invalidReference group) (name.length + 1)
      else
        let position := (← here) - name.length - 1
        modify fun p =>
          if p.conditions.any (·.1 == group) then p
          else { p with conditions := p.conditions ++ [(group, position)] }
        pure group

/-- A group name up to its terminator. -/
def takeGroupName (terminator : Char) : Reading (List Char) := do
  let name ← takeName terminator "group name"
  if Text.isIdentifier name then pure name
  else failBefore (.badGroupName (String.ofList name)) (name.length + 1)

/-- A reference to a group by name. -/
def readNamedReference : Reading Node := do
  let name ← takeGroupName ')'
  let p ← get
  match Entries.lookup (String.ofList name) p.names with
  | none => failBefore (.unknownGroupName (String.ofList name)) (name.length + 1)
  | some group =>
    match closedWidth? p group with
    | none => failBefore .openGroup (name.length + 1)
    | some width =>
      checkLookbehind group
      pure (.backreference group width)

/-- Skips a comment up to its closing bracket; `start` is the place of the opening one. -/
def skipComment (start : Nat) : Nat → Reading Unit
  | 0 => failAt .unterminatedComment start
  | fuel + 1 => do
    match ← takeToken with
    | none => failAt .unterminatedComment start
    | some token => if token == [')'] then pure () else skipComment start fuel

/-- Skips to the end of a line. -/
def skipLine : Nat → Reading Unit
  | 0 => pure ()
  | fuel + 1 => do
    match ← takeToken with
    | none => pure ()
    | some token => if token == ['\n'] then pure () else skipLine fuel

/-- The white space that is skipped in verbose patterns. -/
def isLayout (c : Char) : Bool :=
  c == ' ' || (9 ≤ c.toNat && c.toNat ≤ 13)

/-- The parts of a sequence with plain groups opened up. -/
def flattened (parts : List Node) : List Node :=
  parts.flatMap fun
    | .group none switch body => if switch = .keep then body.parts else [.group none switch body]
    | node => [node]

/-- Takes out the parts that all branches begin with. -/
def commonParts : Nat → List (List Node) → List Node × List (List Node)
  | 0, branches => ([], branches)
  | fuel + 1, branches =>
    match branches with
    | (first :: _) :: _ =>
      let shared := branches.all fun
        | part :: _ => part.sameUnit first
        | [] => false
      if shared then
        let (parts, rest) := commonParts fuel (branches.map (·.drop 1))
        (first :: parts, rest)
      else ([], branches)
    | _ => ([], branches)

/-- The members of a branch that is one character or one set. -/
def branchMembers? : List Node → Option (List Member)
  | [.literal code] => some [.literal code]
  | [.set false members] => some members
  | _ => none

/-- A choice between branches. -/
def choiceOf (branches : List (List Node)) : Node :=
  match branches with
  | [parts] => .seq parts
  | _ =>
    let (shared, rest) := commonParts ((branches.map List.length).foldl max 0) branches
    match rest.mapM branchMembers? with
    | some members => .seq (shared ++ [.set false members.flatten.eraseDups])
    | none => .seq (shared ++ [.choice (rest.map .seq)])

/-- Takes a closing bracket; `start` is the place of the opening one. -/
def closeAt (start : Nat) : Reading Unit := do
  if !(← accept ')') then failAt .unterminatedGroup start

mutual

/-- Branches separated by bars. `top` tells whether they stand outside of all groups, `done` holds
the branches so far. -/
def readChoice (top verbose : Bool) (done : List (List Node)) : Nat → Reading Node
  | 0 => failBefore .unexpectedEnd 0
  | fuel + 1 => do
    let branch ← readSequence verbose (top && done.isEmpty) [] fuel
    let done := done ++ [branch]
    if ← accept '|' then
      let globals := (← get).globals
      readChoice top (if top then globals.verbose else verbose) done fuel
    else pure (choiceOf done)
termination_by structural fuel => fuel

/-- Parts up to a bar, a closing bracket or the end. `first` tells whether flags for the whole
pattern may stand here if nothing else does; `done` holds the parts so far, last first. -/
def readSequence (verbose first : Bool) (done : List Node) : Nat → Reading (List Node)
  | 0 => failBefore .unexpectedEnd 0
  | fuel + 1 => do
    match ← peek with
    | none => pure (flattened done.reverse)
    | some ['\\', c] =>
      discard takeToken
      let node ← readEscape c
      readSequence verbose first (node :: done) fuel
    | some token =>
      let c := token.headD ' '
      if c == '|' || c == ')' then pure (flattened done.reverse)
      else
        discard takeToken
        if verbose && isLayout c then readSequence verbose first done fuel
        else if verbose && c == '#' then
          skipLine ((← get).rest.length + 1)
          readSequence verbose first done fuel
        else if c == '[' then
          let node ← readSet
          readSequence verbose first (node :: done) fuel
        else if c == '*' || c == '+' || c == '?' || c == '{' then
          let position := (← here) - 1
          match ← readRepetition c with
          | none => readSequence verbose first (.literal c.toNat :: done) fuel
          | some bounds =>
            let done ← repeatLast position bounds done
            readSequence verbose first done fuel
        else if c == '.' then readSequence verbose first (.any :: done) fuel
        else if c == '^' then readSequence verbose first (.anchor .lineStart :: done) fuel
        else if c == '$' then readSequence verbose first (.anchor .lineEnd :: done) fuel
        else if c == '(' then
          let start := (← here) - 1
          let (nodes, global) ← readGroup verbose start fuel
          if global then
            if first && done.isEmpty then
              readSequence (← get).globals.verbose first done fuel
            else failAt .lateFlags start
          else readSequence verbose first (nodes ++ done) fuel
        else readSequence verbose first (.literal c.toNat :: done) fuel
termination_by structural fuel => fuel

/-- What an opening bracket, which has been taken, starts: a part if it is one, and whether it was
flags for the whole pattern. -/
def readGroup (verbose : Bool) (start : Nat) : Nat → Reading (List Node × Bool)
  | 0 => failBefore .unexpectedEnd 0
  | fuel + 1 => do
    if !(← accept '?') then
      let node ← readNumbered verbose start none fuel
      pure ([node], false)
    else
      match ← takeToken with
      | none => failBefore .unexpectedEnd 0
      | some ['P'] =>
        match ← takeToken with
        | none => failBefore .unexpectedEnd 0
        | some ['<'] =>
          let name ← takeGroupName '>'
          let node ← readNumbered verbose start (some name) fuel
          pure ([node], false)
        | some ['='] =>
          let node ← readNamedReference
          pure ([node], false)
        | some token =>
          failBefore (.unknownExtension (String.ofList ('P' :: token))) (token.length + 2)
      | some [':'] =>
        let body ← readBody verbose start fuel
        pure ([.group none .keep body], false)
      | some ['#'] =>
        skipComment start ((← get).rest.length + 1)
        pure ([], false)
      | some ['='] => readLook verbose start true true fuel
      | some ['!'] => readLook verbose start true false fuel
      | some ['<'] =>
        match ← takeToken with
        | none => failBefore .unexpectedEnd 0
        | some ['='] => readLook verbose start false true fuel
        | some ['!'] => readLook verbose start false false fuel
        | some token =>
          failBefore (.unknownExtension (String.ofList ('<' :: token))) (token.length + 2)
      | some ['('] =>
        let group ← readConditionGroup
        checkLookbehind group
        let yes ← readSequence verbose false [] fuel
        let no ←
          if ← accept '|' then
            let no ← readSequence verbose false [] fuel
            if (← peek) == some ['|'] then failBefore .tooManyBranches 0
            pure no
          else pure []
        closeAt start
        pure ([.conditional group (.seq yes) (.seq no)], false)
      | some ['>'] =>
        let body ← readBody verbose start fuel
        pure ([.atomic body], false)
      | some [c] =>
        if flagLetters.contains c || c == '-' then
          match ← readFlags c with
          | .whole on =>
            modify fun p => { p with globals := p.globals.withFlags on }
            pure ([], true)
          | .group on off =>
            let verbose := (verbose || on.contains 'x') && !off.contains 'x'
            let body ← readBody verbose start fuel
            pure ([.group none (Switch.ofFlags on off) body], false)
        else failBefore (.unknownExtension (String.singleton c)) 2
      | some token => failBefore (.unknownExtension (String.ofList token)) (token.length + 1)
termination_by structural fuel => fuel

/-- The body of a group up to its closing bracket. -/
def readBody (verbose : Bool) (start : Nat) : Nat → Reading Node
  | 0 => failBefore .unexpectedEnd 0
  | fuel + 1 => do
    let body ← readChoice false verbose [] fuel
    closeAt start
    pure body
termination_by structural fuel => fuel

/-- A group with a number and maybe a name. -/
def readNumbered (verbose : Bool) (start : Nat) (name : Option (List Char)) : Nat → Reading Node
  | 0 => failBefore .unexpectedEnd 0
  | fuel + 1 => do
    let number ← openGroup name
    let body ← readBody verbose start fuel
    closeGroup number body.width
    pure (.group (some number) .keep body)
termination_by structural fuel => fuel

/-- A condition on the text ahead or behind. -/
def readLook (verbose : Bool) (start : Nat) (ahead wanted : Bool) :
    Nat → Reading (List Node × Bool)
  | 0 => failBefore .unexpectedEnd 0
  | fuel + 1 => do
    let outer := (← get).lookbehind
    if !ahead && outer.isNone then
      modify fun p => { p with lookbehind := some (p.groups.length + 1) }
    let body ← readChoice false verbose [] fuel
    if !ahead && outer.isNone then modify fun p => { p with lookbehind := none }
    closeAt start
    pure ([.look ahead wanted body], false)
termination_by structural fuel => fuel

end

/-- The word for a kind of repetition. -/
def Greed.word : Greed → String
  | .greedy => "MAX_REPEAT"
  | .lazy => "MIN_REPEAT"
  | .possessive => "POSSESSIVE_REPEAT"

mutual

/-- What is wrong with a part that could be read: a look behind whose width varies, or a repetition
in a template. -/
def Node.problem? (template : Bool) : Node → Option Problem
  | .literal _ | .notLiteral _ | .any | .set _ _ | .anchor _ | .backreference _ _ => none
  | .seq parts | .choice parts => firstProblem? template parts
  | .group _ _ body | .atomic body => body.problem? template
  | .look ahead _ body =>
    if ahead then body.problem? template
    else if repetitionLimit < body.width.least then some .distantLookbehind
    else if body.width.least != body.width.greatest then some .variableLookbehind
    else body.problem? template
  | .conditional _ yes no => (yes.problem? template).or (no.problem? template)
  | .repetition greed _ _ body =>
    if template then some (.templateRepetition greed.word) else body.problem? template

/-- The first thing that is wrong with one of several parts. -/
def firstProblem? (template : Bool) : List Node → Option Problem
  | [] => none
  | part :: rest => (part.problem? template).or (firstProblem? template rest)

end

/-- A pattern and the modes in which it starts. -/
structure Compiled where
  node : Node
  modes : Modes
  deriving Repr

/-- Reads a whole pattern. -/
def readAll : Reading Compiled := do
  checkNext
  let node ← readChoice true false [] (8 * (← get).rest.length + 16)
  let p ← get
  if p.globals.modes.asciiOnly && p.globals.unicode then throw ⟨.asciiAndUnicode, none⟩
  if !p.rest.isEmpty then failBefore .unbalanced 0
  match p.conditions.find? fun (group, _) => p.groups.length < group with
  | some (group, position) => failAt (.invalidReference group) position
  | none => pure ()
  match node.problem? p.globals.template with
  | some problem => throw ⟨problem, none⟩
  | none => pure ⟨node, p.globals.modes⟩

def compile (ignoreCase : Bool) (text : List Char) : Except Fault Compiled :=
  let progress : Progress :=
    { rest := text
      position := 0
      globals := ⟨⟨ignoreCase, false, false, false⟩, false, false, false⟩
      groups := []
      names := []
      lookbehind := none
      conditions := [] }
  (readAll.run progress).map (·.1)

end Workbench.Pattern
