import Workbench.Text.Runs
import Workbench.Text.CaseTable

/-!
# Lower case

`lowerChar` is the simple lower-case partner of one character. `lower` is the lower-case form of a
text: simple partners, with two exceptions. The dotted capital I becomes an `i` and a combining
dot, and a capital sigma becomes a final sigma iff a cased letter stands before it and none
after it, where case-ignorable characters in between do not count.

`sameLetter` is the relation behind matching without regard to case: two characters agree if they
have the same lower-case partner, or partners that share an upper-case letter.
-/

namespace Workbench.Text

/-- The partner distance that the first run holding `c` gives; zero if none does. -/
def lowerDelta (c : Nat) (runs : Array (Nat × Nat × Nat × Int)) : Int :=
  match runs.find? fun (first, last, step, _) =>
      first ≤ c && c ≤ last && (c - first) % step == 0 with
  | some (_, _, _, delta) => delta
  | none => 0

/-- The simple lower-case partner of a character; the character itself if it has none. -/
def lowerChar (c : Char) : Char :=
  if c.toNat < 128 then
    if 'A' ≤ c && c ≤ 'Z' then Char.ofNat (c.toNat + 32) else c
  else if c.toNat == 0x130 then 'i'
  else Char.ofNat (c.toNat + lowerDelta c.toNat lowerRuns).toNat

/-- Whether the next character that is not ignored is a cased one. -/
def casedNext : List Char → Bool
  | [] => false
  | c :: cs =>
    if inRuns caseIgnorableBounds c.toNat then casedNext cs else inRuns casedBounds c.toNat

/-- The lower-case form of the characters after `before` (last character first). -/
def lowerFrom (before : List Char) : List Char → List Char
  | [] => []
  | c :: cs =>
    let rest := lowerFrom (c :: before) cs
    if c.toNat == 0x130 then 'i' :: '\u0307' :: rest
    else if c == 'Σ' then
      (if casedNext before && !casedNext cs then 'ς' else 'σ') :: rest
    else lowerChar c :: rest

/-- The lower-case form of a text. -/
def lower (s : String) : String :=
  String.ofList (lowerFrom [] s.toList)

/-- The lower-case characters that share an upper-case letter with the given one. -/
def lowerSiblings (c : Char) : List Char :=
  match sharedUpper.find? fun (n, _) => n == c.toNat with
  | some (_, others) => others.map Char.ofNat
  | none => []

/-- Whether two characters agree when case is ignored. -/
def sameLetter (a b : Char) : Bool :=
  let x := lowerChar a
  let y := lowerChar b
  x == y || (lowerSiblings x).contains y

end Workbench.Text
