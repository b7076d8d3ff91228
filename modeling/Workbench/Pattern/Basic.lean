/-!
# Patterns

The syntax of search patterns. Code points are numbers, because a pattern may name code points that
are no characters. Each node that a pattern repeats or looks at knows how wide a match can be.
-/

namespace Workbench.Pattern

/-- A class of characters that has a letter of its own. -/
inductive Category where
  | digit
  | space
  | word
  deriving Repr, DecidableEq

/-- A member of a set of characters. -/
inductive Member where
  | literal (code : Nat)
  | range (first last : Nat)
  | category (c : Category) (negated : Bool)
  deriving Repr, DecidableEq

/-- A place in a text that a pattern can ask for. -/
inductive Anchor where
  | lineStart
  | lineEnd
  | textStart
  | textEnd
  | boundary
  | noBoundary
  deriving Repr, DecidableEq

/-- How often a repetition prefers to repeat, and whether it gives back what it has taken. -/
inductive Greed where
  | greedy
  | lazy
  | possessive
  deriving Repr, DecidableEq

/-- The modes that change what a part of a pattern matches. -/
structure Modes where
  ignoreCase : Bool
  multiline : Bool
  dotAll : Bool
  asciiOnly : Bool
  deriving Repr, DecidableEq, Inhabited

/-- The modes that a group turns on and off. -/
structure Switch where
  ignoreCase : Option Bool
  multiline : Option Bool
  dotAll : Option Bool
  asciiOnly : Option Bool
  deriving Repr, DecidableEq, Inhabited

/-- No mode is changed. -/
def Switch.keep : Switch := ⟨none, none, none, none⟩

/-- The modes inside of a group. -/
def Modes.switch (m : Modes) (s : Switch) : Modes :=
  ⟨s.ignoreCase.getD m.ignoreCase, s.multiline.getD m.multiline, s.dotAll.getD m.dotAll,
    s.asciiOnly.getD m.asciiOnly⟩

/-- The least and the greatest number of characters that a match can have. -/
structure Width where
  least : Nat
  greatest : Nat
  deriving Repr, DecidableEq, Inhabited

/-- A part of a pattern. -/
inductive Node where
  /-- One given character. -/
  | literal (code : Nat)
  /-- One character other than the given one. -/
  | notLiteral (code : Nat)
  /-- One character, by default no line feed. -/
  | any
  /-- One character in a set, or outside of it. -/
  | set (negated : Bool) (members : List Member)
  | anchor (a : Anchor)
  /-- The text that a group has matched before. -/
  | backreference (group : Nat) (width : Width)
  /-- One part after the other. -/
  | seq (parts : List Node)
  /-- The first branch that leads to a match. -/
  | choice (branches : List Node)
  /-- A group that is numbered, changes modes, or both. -/
  | group (number : Option Nat) (switch : Switch) (body : Node)
  /-- The first match of the body and no other. -/
  | atomic (body : Node)
  /-- A condition on the text ahead or behind. -/
  | look (ahead wanted : Bool) (body : Node)
  /-- One of two parts, depending on whether a group has matched. -/
  | conditional (group : Nat) (yes no : Node)
  | repetition (greed : Greed) (least : Nat) (most : Option Nat) (body : Node)
  deriving Repr, Inhabited

/-- The greatest width that is told apart. -/
def widthLimit : Nat := Nat.pow 2 64

namespace Width

/-- No character. -/
def zero : Width := ⟨0, 0⟩

/-- One character. -/
def one : Width := ⟨1, 1⟩

/-- One match after another. -/
def add (a b : Width) : Width := ⟨a.least + b.least, a.greatest + b.greatest⟩

/-- One match or another. -/
def either (a b : Width) : Width := ⟨min a.least b.least, max a.greatest b.greatest⟩

/-- A width within the limit. -/
def capped (w : Width) : Width := ⟨min w.least widthLimit, min w.greatest widthLimit⟩

/-- Repeated matches. -/
def times (w : Width) (least : Nat) (most : Option Nat) : Width :=
  let greatest :=
    match most with
    | some n => w.greatest * n
    | none => if w.greatest = 0 then 0 else widthLimit
  ⟨w.least * least, greatest⟩

end Width

mutual

/-- How wide a match of a part can be. -/
def Node.width : Node → Width
  | .literal _ | .notLiteral _ | .any | .set _ _ => .one
  | .anchor _ | .look .. => .zero
  | .backreference _ w => w
  | .seq parts => (totalWidth parts).capped
  | .choice branches =>
    match branches with
    | [] => .zero
    | first :: rest => (anyWidth first.width rest).capped
  | .group _ _ body | .atomic body => body.width
  | .conditional _ yes no => (yes.width.either no.width).capped
  | .repetition _ least most body => (body.width.times least most).capped

/-- How wide matches of all parts can be together. -/
def totalWidth : List Node → Width
  | [] => .zero
  | part :: rest => part.width.add (totalWidth rest)

/-- How wide a match of one of several parts can be, or one of width `w`. -/
def anyWidth (w : Width) : List Node → Width
  | [] => w
  | branch :: rest => anyWidth (w.either branch.width) rest

end

/-- The parts of a part that is a sequence; any other part by itself. -/
def Node.parts : Node → List Node
  | .seq parts => parts
  | node => [node]

/-- Whether two parts are the same place, character or set, or refer to the same group. -/
def Node.sameUnit : Node → Node → Bool
  | .literal a, .literal b => a == b
  | .notLiteral a, .notLiteral b => a == b
  | .any, .any => true
  | .set n as, .set m bs => n == m && as == bs
  | .anchor a, .anchor b => a == b
  | .backreference a _, .backreference b _ => a == b
  | _, _ => false

end Workbench.Pattern
