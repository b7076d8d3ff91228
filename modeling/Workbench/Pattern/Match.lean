import Workbench.Pattern.Reader
import Workbench.Text.Lowercase

/-!
# Matching patterns

A part of a pattern is matched by trying, in order of preference, every way in which it can match,
and handing each to what follows until that succeeds. A repetition that could go on without end on
an empty match stops after one such round. What `atomic` and `look` match is settled inside of them;
what follows cannot ask for another way.
-/

namespace Workbench.Pattern

open Text (lowerChar lowerSiblings sameLetter)

/-- What a group has matched: where it started, the text from there on, and where it ended. -/
structure Mark where
  start : Nat
  text : List Char
  stop : Option Nat
  deriving Repr, DecidableEq

/-- A place in a text, with what the groups have matched. -/
structure Cursor where
  /-- The text before the place, last character first. -/
  before : List Char
  /-- The text from the place on. -/
  after : List Char
  position : Nat
  marks : List (Nat × Mark)
  deriving Repr, DecidableEq

namespace Cursor

/-- The place at the start of a text. -/
def start (text : List Char) : Cursor := ⟨[], text, 0, []⟩

/-- One character further. -/
def next? (c : Cursor) : Option (Char × Cursor) :=
  match c.after with
  | [] => none
  | ch :: rest =>
    some (ch, { c with before := ch :: c.before, after := rest, position := c.position + 1 })

/-- Some characters back. -/
def back? : Nat → Cursor → Option Cursor
  | 0, c => some c
  | n + 1, c =>
    match c.before with
    | [] => none
    | ch :: rest =>
      back? n { c with before := rest, after := ch :: c.after, position := c.position - 1 }

def mark? (group : Nat) (c : Cursor) : Option Mark :=
  (c.marks.find? (·.1 == group)).map (·.2)

/-- The same place with another mark for a group. -/
def withMark (group : Nat) (mark : Mark) (c : Cursor) : Cursor :=
  { c with marks := (group, mark) :: c.marks.filter (·.1 != group) }

/-- Marks the start of a group. -/
def openMark (group : Nat) (c : Cursor) : Cursor :=
  c.withMark group ⟨c.position, c.after, (c.mark? group).bind (·.stop)⟩

/-- Marks the end of a group. -/
def closeMark (group : Nat) (c : Cursor) : Cursor :=
  match c.mark? group with
  | some mark => c.withMark group { mark with stop := some c.position }
  | none => c

/-- The text that a group has matched. -/
def captured? (group : Nat) (c : Cursor) : Option (List Char) := do
  let mark ← c.mark? group
  let stop ← mark.stop
  if stop < mark.start then none else some (mark.text.take (stop - mark.start))

end Cursor

/-- A character that is a letter, a digit or an underscore in ASCII. -/
def isAsciiWord (c : Char) : Bool :=
  Text.isAsciiLetter c || Text.isAsciiDigit c || c == '_'

/-- Whether a character is in a class. -/
def Category.holds (asciiOnly : Bool) (c : Char) : Category → Bool
  | .digit => if asciiOnly then Text.isAsciiDigit c else Text.isDecimal c
  | .space => if asciiOnly then isLayout c else Text.isBlank c
  | .word => if asciiOnly then isAsciiWord c else Text.isWord c

/-- The lower-case partner of a character in the modes. -/
def Modes.lower (m : Modes) (c : Char) : Char :=
  if m.asciiOnly then c.toLower else lowerChar c

/-- Whether two characters agree when case is ignored. -/
def Modes.sameLetter (m : Modes) (a b : Char) : Bool :=
  if m.asciiOnly then a.toLower == b.toLower else Text.sameLetter a b

/-- The characters whose lower-case partner is the given character. -/
def raised (c : Char) : List Char :=
  let n : Int := c.toNat
  let partners := Text.lowerRuns.toList.filterMap fun (first, last, step, delta) =>
    let m := (n - delta).toNat
    if first ≤ m && m ≤ last && (m - first) % step == 0 && (m + delta == n) then
      some (Char.ofNat m)
    else none
  let same := if lowerChar c = c then [c] else []
  let ascii := if 'a' ≤ c && c ≤ 'z' then [Char.ofNat (c.toNat - 32)] else []
  let dotted := if c = 'i' then ['\u0130'] else []
  same ++ ascii ++ dotted ++ partners

/-- The characters that agree with the given one when case is ignored. -/
def Modes.letters (m : Modes) (c : Char) : List Char :=
  if m.asciiOnly then [c.toLower, c.toUpper]
  else
    let low := lowerChar c
    (low :: lowerSiblings low).flatMap raised

/-- Whether a character is the one with a given code. -/
def Modes.isLiteral (m : Modes) (code : Nat) (c : Char) : Bool :=
  if m.ignoreCase then Nat.isValidChar code && m.sameLetter (Char.ofNat code) c
  else c.toNat == code

/-- Whether a character is one that a member of a set stands for. Beyond the basic plane a letter
stands for its lower-case form only when case is ignored. -/
def Member.holds (m : Modes) (c : Char) : Member → Bool
  | .literal code =>
    if m.ignoreCase && 0x10000 ≤ code then (m.lower c).toNat == code else m.isLiteral code c
  | .range first last =>
    if m.ignoreCase then
      (m.letters c).any fun d => first ≤ d.toNat && d.toNat ≤ last
    else first ≤ c.toNat && c.toNat ≤ last
  | .category k negated => k.holds m.asciiOnly c != negated

/-- Whether a word character stands at the front of a text. -/
def wordFirst (m : Modes) : List Char → Bool
  | [] => false
  | c :: _ => Category.holds m.asciiOnly c .word

/-- Whether a place is one that an anchor asks for. -/
def Anchor.holds (m : Modes) (c : Cursor) : Anchor → Bool
  | .lineStart => c.before.isEmpty || (m.multiline && c.before.head? == some '\n')
  | .lineEnd =>
    c.after.isEmpty || c.after == ['\n'] || (m.multiline && c.after.head? == some '\n')
  | .textStart => c.before.isEmpty
  | .textEnd => c.after.isEmpty
  | .boundary =>
    !(c.before.isEmpty && c.after.isEmpty) && wordFirst m c.before != wordFirst m c.after
  | .noBoundary =>
    !(c.before.isEmpty && c.after.isEmpty) && wordFirst m c.before == wordFirst m c.after

/-- A way to match: hands places to what follows until that succeeds. -/
abbrev Matcher := (Cursor → Option Cursor) → Cursor → Option Cursor

/-- One character that passes a test. -/
def matchOne (test : Char → Bool) : Matcher := fun follow c =>
  match c.next? with
  | some (ch, c) => if test ch then follow c else none
  | none => none

/-- The text of a group once more. -/
def matchAgain (m : Modes) : List Char → Matcher
  | [], follow, c => follow c
  | wanted :: rest, follow, c =>
    match c.next? with
    | none => none
    | some (ch, c) =>
      let same := if m.ignoreCase then m.lower wanted == m.lower ch else wanted == ch
      if same then matchAgain m rest follow c else none

/-- Whether a repetition may have another round after `count` of them. -/
def mayRepeat (most : Option Nat) (count : Nat) : Bool :=
  match most with
  | some n => count < n
  | none => true

/-- The rounds of a repetition that takes as many as it can. `last` is the place where the round
before started. -/
def matchGreedy (body : Matcher) (least : Nat) (most : Option Nat) (follow : Cursor → Option Cursor) :
    Nat → Nat → Option Nat → Cursor → Option Cursor
  | 0, _, _, c => follow c
  | fuel + 1, count, last, c =>
    if count < least then body (matchGreedy body least most follow fuel (count + 1) last) c
    -- a round that starts where the round before did would match nothing for ever
    else if mayRepeat most count && last != some c.position then
      (body (matchGreedy body least most follow fuel (count + 1) (some c.position)) c).or (follow c)
    else follow c

/-- The rounds of a repetition that takes as few as it can. -/
def matchLazy (body : Matcher) (least : Nat) (most : Option Nat) (follow : Cursor → Option Cursor) :
    Nat → Nat → Option Nat → Cursor → Option Cursor
  | 0, _, _, c => follow c
  | fuel + 1, count, last, c =>
    if count < least then body (matchLazy body least most follow fuel (count + 1) last) c
    else
      (follow c).or <|
        if mayRepeat most count && last != some c.position then
          body (matchLazy body least most follow fuel (count + 1) (some c.position)) c
        else none

/-- The place after the rounds of a repetition each of which is settled for good. -/
def matchPossessive (body : Matcher) (least : Nat) (most : Option Nat) :
    Nat → Nat → Option Nat → Cursor → Option Cursor
  | 0, _, _, c => some c
  | fuel + 1, count, last, c =>
    if count < least then
      match body some c with
      | some c => matchPossessive body least most fuel (count + 1) last c
      | none => none
    else if mayRepeat most count && last != some c.position then
      match body some c with
      | some d => matchPossessive body least most fuel (count + 1) (some c.position) d
      | none => some c
    else some c

/-- How many rounds a repetition can have at a place: the least number, one for each character that
is left, and one that matches nothing. -/
def roundsAt (least : Nat) (c : Cursor) : Nat :=
  least + c.after.length + 2

mutual

/-- The ways in which a part of a pattern matches. -/
def Node.matcher (m : Modes) : Node → Matcher
  | .literal code => matchOne (m.isLiteral code)
  | .notLiteral code => matchOne fun c => !m.isLiteral code c
  | .any => matchOne fun c => m.dotAll || c != '\n'
  | .set negated members => matchOne fun c => members.any (·.holds m c) != negated
  | .anchor a => fun follow c => if a.holds m c then follow c else none
  | .backreference group _ => fun follow c =>
    match c.captured? group with
    | some text => matchAgain m text follow c
    | none => none
  | .seq parts => fun follow c => matchParts m parts follow c
  | .choice branches => fun follow c => matchBranches m branches follow c
  | .group number switch body =>
    let inner := body.matcher (m.switch switch)
    match number with
    | none => inner
    | some n => fun follow c => inner (fun d => follow (d.closeMark n)) (c.openMark n)
  | .atomic body =>
    let inner := body.matcher m
    fun follow c => (inner some c).bind follow
  | .look ahead wanted body =>
    let inner := body.matcher m
    -- a part that looks behind has one width only, so this is how far back it starts
    let back := if ahead then 0 else body.width.least
    fun follow c =>
      match (c.back? back).bind (inner some) with
      | some d => if wanted then follow { c with marks := d.marks } else none
      | none => if wanted then none else follow c
  | .conditional group yes no =>
    let whenSet := yes.matcher m
    let whenUnset := no.matcher m
    fun follow c => if (c.captured? group).isSome then whenSet follow c else whenUnset follow c
  | .repetition greed least most body =>
    let inner := body.matcher m
    match greed with
    | .greedy => fun follow c => matchGreedy inner least most follow (roundsAt least c) 0 none c
    | .lazy => fun follow c => matchLazy inner least most follow (roundsAt least c) 0 none c
    | .possessive => fun follow c =>
      (matchPossessive inner least most (roundsAt least c) 0 none c).bind follow

/-- The ways in which parts match one after the other. -/
def matchParts (m : Modes) : List Node → Matcher
  | [] => fun follow c => follow c
  | part :: rest =>
    let first := part.matcher m
    let others := matchParts m rest
    fun follow c => first (others follow) c

/-- The ways in which one of several branches matches. -/
def matchBranches (m : Modes) : List Node → Matcher
  | [] => fun _ _ => none
  | branch :: rest =>
    let first := branch.matcher m
    let others := matchBranches m rest
    fun follow c => (first follow c).or (others follow c)

end

/-- Whether a way to match succeeds at a place or further on. -/
def searchFrom (matcher : Matcher) (before : List Char) (position : Nat) : List Char → Bool
  | [] => (matcher some ⟨before, [], position, []⟩).isSome
  | c :: rest =>
    (matcher some ⟨before, c :: rest, position, []⟩).isSome ||
      searchFrom matcher (c :: before) (position + 1) rest

/-- Whether a pattern matches somewhere in a text. -/
def Compiled.occursIn (p : Compiled) (text : String) : Bool :=
  searchFrom (p.node.matcher p.modes) [] 0 text.toList

end Workbench.Pattern
