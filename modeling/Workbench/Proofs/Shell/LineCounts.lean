import Workbench.Proofs.Shell.Quoting
import Workbench.Shell.Execute
import Mathlib.Data.List.DropRight

/-!
# Counts of lines

`head` and `tail` take a count of lines in three forms, before the path or behind it. A bundle of
flags is taken apart into its characters, so the digits of the count are put together again from the
flags, or the count is the first operand. In five of the six ways of writing it the count is read as
it was written, and `head` and `tail` show that many lines (`head_tail_counts`).

The sixth way is a count that stands apart from its flag and behind the path. There the first
operand is the path and not the count: the line means what it means with the two exchanged, and the
count is not read.
-/

namespace Workbench.Decimal

variable {c : Char} {n : Nat}

/-- The value of a digit. -/
theorem decimalValue?_of_isDigit (h : c.isDigit = true) :
    Text.decimalValue? c = some (c.toNat - '0'.toNat) := by
  simp only [Char.isDigit, Bool.and_eq_true, decide_eq_true_eq, ge_iff_le] at h
  have low : '0' ≤ c := h.1
  have high : c ≤ '9' := h.2
  have small : c.toNat < 128 := Nat.lt_of_le_of_lt (UInt32.le_iff_toNat_le.mp h.2) (by decide)
  rw [Text.decimalValue?, if_pos small, if_pos (by simp [Text.isAsciiDigit, low, high])]
  rfl

/-- A digit is decimal. -/
theorem isDecimal_of_isDigit (h : c.isDigit = true) : Text.isDecimal c = true := by
  rw [Text.isDecimal, decimalValue?_of_isDigit h, Option.isSome_some]

/-- A number is read as it is written. -/
theorem decimalNumber_toDigits (n : Nat) : decimalNumber (Nat.toDigits 10 n) = n := by
  have digits : ∀ c ∈ Nat.toDigits 10 n, c.isDigit = true := fun c hc =>
    Nat.isDigit_of_mem_toDigits (by decide) (by decide) hc
  have fold (cs : List Char) (digits : ∀ c ∈ cs, c.isDigit = true) (start : Nat) :
      cs.foldl (fun n c => n * 10 + (Text.decimalValue? c).getD 0) start =
        Nat.ofDigitChars 10 cs start := by
    induction cs generalizing start with
    | nil => rfl
    | cons c cs ih =>
      rw [List.foldl_cons, ih (fun d hd => digits d (List.mem_cons_of_mem c hd)),
        decimalValue?_of_isDigit (digits c List.mem_cons_self), Option.getD_some, Nat.mul_comm]
      rfl
  rw [decimalNumber, fold _ digits, Nat.ofDigitChars_ten_toDigits]

/-- A number is read back from its decimal digits, unless these are too many. -/
theorem count_repr (few : n.repr.length ≤ 4300) : count n.repr = .ok n := by
  have decimal : (Nat.toDigits 10 n).takeWhile Text.isDecimal = Nat.toDigits 10 n :=
    List.takeWhile_eq_self_iff.mpr fun c hc =>
      isDecimal_of_isDigit (Nat.isDigit_of_mem_toDigits (by decide) (by decide) hc)
  have nonempty : (Nat.toDigits 10 n).isEmpty = false := by simp [Nat.toDigits_ne_nil]
  have short : ¬ 4300 < (Nat.toDigits 10 n).length := by
    rw [← Nat.toList_repr, String.length_toList]
    exact Nat.not_lt.mpr few
  rw [count, Nat.toList_repr, decimal, if_neg short, if_neg (by simp [nonempty]),
    decimalNumber_toDigits]

end Workbench.Decimal

namespace Workbench.Shell

/-- The forms of a count: in one token with the flag, in the token behind the flag, or as a flag
itself. -/
inductive CountForm where
  | joined
  | apart
  | short
  deriving Repr, DecidableEq

def CountForm.tokens (n : Nat) : CountForm → List String
  | joined => ["-n" ++ n.repr]
  | apart => ["-n", n.repr]
  | short => ["-" ++ n.repr]

/-- How a count and a path are written. -/
structure CountStyle where
  form : CountForm
  /-- Whether the count stands behind the path. -/
  behind : Bool
  deriving Repr, DecidableEq

namespace CountStyle

def tokens (style : CountStyle) (n : Nat) (path : String) : List String :=
  if style.behind then path :: style.form.tokens n else style.form.tokens n ++ [path]

/-- The count does not stand apart from its flag and behind the path. -/
def IsRead (style : CountStyle) : Prop :=
  style ≠ ⟨.apart, true⟩

instance (style : CountStyle) : Decidable style.IsRead :=
  inferInstanceAs (Decidable (_ ≠ _))

end CountStyle

/-- Words that write a count and a path behind the name of a command. -/
structure Spells (style : CountStyle) (n : Nat) (path : String) (words : List (Nat × Word)) :
    Prop where
  tokens : words.map (·.2.text) = style.tokens n path
  few : n.repr.length ≤ 4300

/-- What a line comes to in a state. -/
def State.answer? (clock : Clock) (state : State) (line : String) : Option Outcome :=
  (Command.parse? line).map fun command => execute builtins clock command state

def Word.head : Word := .bare "head" (by decide) (by decide) (by decide)

def Word.tail : Word := .bare "tail" (by decide) (by decide) (by decide)

variable {n : Nat} {path name content : String} {style : CountStyle} {command : Command}
variable {clock : Clock} {state : State} {words : List (Nat × Word)}

/-! ## Digits among the flags -/

/-- The decimal digits of a number, each as a flag. -/
def digitFlags (n : Nat) : List String :=
  (Nat.toDigits 10 n).map String.singleton

theorem isDigit_of_mem_digits {c : Char} (h : c ∈ Nat.toDigits 10 n) : c.isDigit = true :=
  Nat.isDigit_of_mem_toDigits (by decide) (by decide) h

/-- A number starts with a digit. -/
theorem exists_digits_cons (n : Nat) :
    ∃ d ds, Nat.toDigits 10 n = d :: ds ∧ d ≠ '-' ∧ d ≠ 'n' := by
  obtain ⟨d, ds, digits⟩ := List.exists_cons_of_ne_nil (Nat.toDigits_ne_nil (n := n) (b := 10))
  have digit : d.isDigit = true := isDigit_of_mem_digits (n := n) (by rw [digits]; simp)
  refine ⟨d, ds, digits, ?_, ?_⟩ <;>
    · rintro rfl
      exact absurd digit (by decide)

/-- It is written with digits only. -/
theorem isDigits_repr (n : Nat) : Text.isDigits n.repr = true := by
  have filled : n.repr.isEmpty = false := by
    rw [String.isEmpty_eq_false_iff]
    intro empty
    exact Nat.toDigits_ne_nil ((Nat.toList_repr).symm.trans (congrArg String.toList empty))
  rw [Text.isDigits, filled, Nat.toList_repr, Bool.not_false, Bool.true_and, List.all_eq_true]
  intro c hc
  rw [Text.isDigit, Decimal.isDecimal_of_isDigit (isDigit_of_mem_digits hc), Bool.true_or]

/-- So it is taken for no option. -/
theorem isOption_repr (n : Nat) : isOption n.repr = false := by
  obtain ⟨d, ds, digits, notDash, -⟩ := exists_digits_cons n
  simp [isOption, Nat.toList_repr, digits, notDash]

/-- The flags of `-nN`. -/
theorem flagsOf_joined (n : Nat) : flagsOf ("-n" ++ n.repr) = "n" :: digitFlags n := by
  obtain ⟨d, ds, digits, -⟩ := exists_digits_cons n
  have chars : ("-n" ++ n.repr).toList = '-' :: 'n' :: d :: ds := by
    rw [String.toList_append, Nat.toList_repr, digits]
    rfl
  rw [flagsOf, chars, digitFlags, digits]
  rfl

/-- The flags of `-N`. -/
theorem flagsOf_short (n : Nat) : flagsOf ("-" ++ n.repr) = digitFlags n := by
  obtain ⟨d, ds, digits, notDash, -⟩ := exists_digits_cons n
  have chars : ("-" ++ n.repr).toList = '-' :: d :: ds := by
    rw [String.toList_append, Nat.toList_repr, digits]
    rfl
  have stripped : (('-' :: d :: ds).dropWhile (· == '-')) = d :: ds := by
    simp [notDash]
  have bundle : (('-' :: d :: ds).take 2 == ['-', '-']) = false := by
    simp [notDash]
  rw [flagsOf, chars, stripped, bundle, digitFlags, digits]
  cases ds with
  | nil => rfl
  | cons e ds => rfl

/-- The digits of a number, put together again. -/
theorem join_digitFlags (n : Nat) :
    String.join ((digitFlags n).takeWhile Text.isDigits) = n.repr := by
  have each : ∀ flag ∈ digitFlags n, Text.isDigits flag = true := by
    intro flag hf
    obtain ⟨c, hc, rfl⟩ := List.mem_map.mp hf
    have digit := Decimal.isDecimal_of_isDigit (isDigit_of_mem_digits hc)
    simp [Text.isDigits, Text.isDigit, digit]
  rw [List.takeWhile_eq_self_iff.mpr each]
  apply String.toList_injective
  rw [String.toList_join, Nat.toList_repr, digitFlags, List.flatMap_map]
  simp

/-- Digits are no `n`. -/
theorem n_not_mem_digitFlags (n : Nat) : "n" ∉ digitFlags n := by
  intro mem
  obtain ⟨c, hc, same⟩ := List.mem_map.mp mem
  have digit := isDigit_of_mem_digits hc
  have chars := congrArg String.toList same
  rw [String.toList_singleton] at chars
  obtain rfl : c = 'n' := by simpa using chars
  exact absurd digit (by decide)

/-! ## Reading the count -/

/-- A count that is found is taken, unless it is too long. -/
theorem lineCount_of_digits {digits : String} {args : List String}
    (found : countDigits command = (digits, args)) (read : digits = n.repr)
    (few : n.repr.length ≤ 4300) : lineCount command = .ok (n, args) := by
  have filled : digits.isEmpty = false := by
    have digital := isDigits_repr n
    rw [← read, Text.isDigits, Bool.and_eq_true] at digital
    simpa using digital.1
  rw [lineCount, found]
  dsimp only
  rw [filled, if_neg Bool.false_ne_true, read, Decimal.count_repr few]

/-- A count that is read is the one that was written, and the path is the operand that is left. -/
theorem lineCount_of_isRead (read : style.IsRead) (few : n.repr.length ≤ 4300)
    (notOption : isOption path = false)
    (args : command.args = (style.tokens n path).filter (! isOption ·))
    (options : command.options = flattenOptions ((style.tokens n path).filter isOption)) :
    lineCount command = .ok (n, [path]) := by
  have joined : isOption ("-n" ++ n.repr) = true := by simp [isOption]
  have short : isOption ("-" ++ n.repr) = true := by simp [isOption]
  have flag : isOption "-n" = true := rfl
  have digits := isOption_repr n
  obtain ⟨form, behind⟩ := style
  cases form with
  | joined =>
    have operands : command.args = [path] := by
      rw [args]
      cases behind <;> simp [CountStyle.tokens, CountForm.tokens, joined, notOption]
    have flags : command.options = "n" :: digitFlags n := by
      rw [options]
      cases behind <;> simp [CountStyle.tokens, CountForm.tokens, joined, notOption,
        flattenOptions, flagsOf_joined]
    refine lineCount_of_digits ?_ (join_digitFlags n) few
    simp [countDigits, operands, flags]
  | apart =>
    cases behind with
    | true => exact absurd rfl read
    | false =>
      have operands : command.args = [n.repr, path] := by
        rw [args]
        simp [CountStyle.tokens, CountForm.tokens, flag, digits, notOption]
      have flags : command.options = ["n"] := by
        rw [options]
        simp only [CountStyle.tokens, CountForm.tokens]
        simp [flag, digits, notOption, flattenOptions]
        rfl
      refine lineCount_of_digits ?_ rfl few
      simp [countDigits, operands, flags, isDigits_repr]
  | short =>
    have operands : command.args = [path] := by
      rw [args]
      cases behind <;> simp [CountStyle.tokens, CountForm.tokens, short, notOption]
    have flags : command.options = digitFlags n := by
      rw [options]
      cases behind <;> simp [CountStyle.tokens, CountForm.tokens, short, notOption,
        flattenOptions, flagsOf_short]
    refine lineCount_of_digits ?_ (join_digitFlags n) few
    simp [countDigits, operands, flags, n_not_mem_digitFlags]

/-- A flag apart from its count is taken out of the operands, before the path or between the two. -/
theorem parts_of_apart (notOption : isOption path = false)
    (apart : words.map (·.2.text) = [path, "-n", n.repr] ∨
      words.map (·.2.text) = ["-n", path, n.repr]) (first : Word) :
    (Command.ofWords first words).args = [path, n.repr] ∧
      (Command.ofWords first words).options = ["n"] := by
  have digits := isOption_repr n
  have flag : isOption "-n" = true := rfl
  have flags : flattenOptions ["-n"] = ["n"] := rfl
  rcases apart with operands | operands <;>
    simp [Command.ofWords, operands, notOption, digits, flag, flags]

/-- A count that stands apart from its flag and behind a path that is no number is not read. -/
theorem lineCount_of_apart_behind (noNumber : Text.isDigits path = false)
    (args : command.args = [path, n.repr]) (options : command.options = ["n"]) :
    lineCount command = .ok (defaultCount, [path, n.repr]) := by
  have found : countDigits command = ("", [path, n.repr]) := by
    simp [countDigits, args, options, noNumber, String.join]
  rw [lineCount, found]
  rfl

/-! ## Showing the lines -/

/-- What a handler shows that is given a count and a path to a file. -/
theorem someLines_of_lineCount {pick : Nat → List String → List String} {a : Tree.Attributes}
    {count : Nat} {args : List String} (counted : lineCount command = .ok (count, path :: args))
    (held : state.node? path = some (.file a content)) :
    someLines name pick clock command state =
      .ok (.only (.text ("\n".intercalate (pick count (lines content))))) := by
  have found : state.contentAt? (some path) = some content := by
    rw [State.contentAt?, Option.bind_some, held]
  rw [someLines, counted]
  simp only [bind, Except.bind, List.head?_cons, found]

/-- A handler that is given a count does not look at the tokens as they were written. -/
theorem someLines_congr {pick : Nat → List String → List String} {command' : Command}
    (args : command.args = command'.args) (options : command.options = command'.options) :
    someLines name pick clock command state = someLines name pick clock command' state := by
  rw [someLines, someLines, lineCount, lineCount, countDigits, countDigits, args, options]

/-- What a line is answered with, by what its words are. -/
theorem answer?_of_dispatch {first : Word} {text : String}
    (answered : dispatch builtins clock (.ofWords first words) state = .ok (.only (.text text))) :
    state.answer? clock (spelled first words) = some (.only (.text text)) := by
  rw [State.answer?, parse?_words, Option.map_some, execute, answered]
  rfl

/-- Lines whose words are handled alike are answered alike. -/
theorem answer?_congr {first : Word} {words' : List (Nat × Word)}
    (same : dispatch builtins clock (.ofWords first words) state =
      dispatch builtins clock (.ofWords first words') state) :
    state.answer? clock (spelled first words) = state.answer? clock (spelled first words') := by
  rw [State.answer?, State.answer?, parse?_words, parse?_words, Option.map_some, Option.map_some,
    execute, execute, same]
  cases dispatch builtins clock (.ofWords first words') state <;> rfl

/-- The first lines of a file, by the count. -/
theorem answer?_head {a : Tree.Attributes} {count : Nat} {args : List String} (clock : Clock)
    (held : state.node? path = some (.file a content))
    (counted : lineCount (.ofWords .head words) = .ok (count, path :: args)) :
    state.answer? clock (spelled .head words) =
      some (.only (.text ("\n".intercalate ((lines content).take count)))) := by
  have shown : head clock (.ofWords .head words) state =
      .ok (.only (.text ("\n".intercalate ((lines content).take count)))) :=
    someLines_of_lineCount counted held
  exact answer?_of_dispatch shown

/-- The last lines of a file, by the count. -/
theorem answer?_tail {a : Tree.Attributes} {count : Nat} {args : List String} (clock : Clock)
    (held : state.node? path = some (.file a content))
    (counted : lineCount (.ofWords .tail words) = .ok (count, path :: args)) :
    state.answer? clock (spelled .tail words) =
      some (.only (.text ("\n".intercalate ((lines content).rtake count)))) := by
  have shown : tail clock (.ofWords .tail words) state =
      .ok (.only (.text ("\n".intercalate ((lines content).rtake count)))) :=
    someLines_of_lineCount counted held
  exact answer?_of_dispatch shown

/-- `head` and `tail` answer alike to words with the same operands and flags. -/
theorem answer?_congr_of_parts {first : Word} (named : first ∈ [Word.head, Word.tail])
    {words' : List (Nat × Word)}
    (args : (Command.ofWords first words).args = (Command.ofWords first words').args)
    (options : (Command.ofWords first words).options = (Command.ofWords first words').options) :
    state.answer? clock (spelled first words) = state.answer? clock (spelled first words') := by
  rw [List.mem_pair] at named
  rcases named with rfl | rfl
  · have same : head clock (.ofWords .head words) state =
        head clock (.ofWords .head words') state := someLines_congr args options
    exact answer?_congr same
  · have same : tail clock (.ofWords .tail words) state =
        tail clock (.ofWords .tail words') state := someLines_congr args options
    exact answer?_congr same

/-- **`head` and `tail` show as many lines as they are told to**, from the front and from the back
of a file, or all of its lines if there are not as many; so `head` and `tail` with counts that make
up the number of lines show the whole file between them. The count may be written in each of the
three forms, before the path or behind it, but for one of the six ways: apart from its flag and
behind the path it is not read. Such a line is answered like the one with path and count exchanged;
unless the path is made of digits, that is the answer without a count. -/
theorem head_tail_counts (clock : Clock) {state : State} {path content : String}
    {a : Tree.Attributes} (held : state.node? path = some (.file a content))
    (notOption : isOption path = false) :
    let ls := lines content
    let shows := fun (name : Word) (words : List (Nat × Word)) (shown : List String) =>
      state.answer? clock (spelled name words) = some (.only (.text ("\n".intercalate shown)))
    (∀ n style words, Spells style n path words → style.IsRead →
      shows .head words (ls.take (min n ls.length)) ∧
        shows .tail words (ls.rtake (min n ls.length))) ∧
    (∀ n style words style' words', n ≤ ls.length → Spells style n path words →
      Spells style' (ls.length - n) path words' → style.IsRead → style'.IsRead →
      ∃ front back, shows .head words front ∧ shows .tail words' back ∧ front ++ back = ls) ∧
    ∀ n words, Spells ⟨.apart, true⟩ n path words →
      (Text.isDigits path = false →
        shows .head words (ls.take defaultCount) ∧ shows .tail words (ls.rtake defaultCount)) ∧
      ∀ name ∈ [Word.head, Word.tail], ∀ exchanged : List (Nat × Word),
        exchanged.map (·.2.text) = ["-n", path, n.repr] →
          state.answer? clock (spelled name words) =
            state.answer? clock (spelled name exchanged) := by
  intro ls shows
  have counted (first : Word) {n : Nat} {style : CountStyle} {words : List (Nat × Word)}
      (spells : Spells style n path words) (read : style.IsRead) :
      lineCount (.ofWords first words) = .ok (n, [path]) :=
    lineCount_of_isRead read spells.few notOption (by rw [← spells.tokens]; rfl)
      (by rw [← spells.tokens]; rfl)
  refine ⟨fun n style words spells read => ?counts, fun n style words style' words' within spells
    spells' read read' => ?whole, fun n words spells => ?unread⟩
  case counts =>
    have front : ls.take (min n ls.length) = ls.take n := List.take_eq_take_min.symm
    have back : ls.rtake (min n ls.length) = ls.rtake n := by
      rw [List.rtake, List.rtake]
      congr 1
      omega
    rw [front, back]
    exact ⟨answer?_head clock held (counted _ spells read),
      answer?_tail clock held (counted _ spells read)⟩
  case whole =>
    refine ⟨_, _, answer?_head clock held (counted _ spells read),
      answer?_tail clock held (counted _ spells' read'), ?_⟩
    rw [List.rtake, Nat.sub_sub_self within, List.take_append_drop]
  case unread =>
    have parts := parts_of_apart notOption (.inl spells.tokens)
    refine ⟨fun noNumber => ?_, fun name named exchanged operands => ?_⟩
    · have unread (first : Word) :=
        lineCount_of_apart_behind noNumber (parts first).1 (parts first).2
      exact ⟨answer?_head clock held (unread _), answer?_tail clock held (unread _)⟩
    · have parts' := parts_of_apart notOption (.inr operands) name
      exact answer?_congr_of_parts named ((parts name).1.trans parts'.1.symm)
        ((parts name).2.trans parts'.2.symm)

/-- Of a file of three lines, two are shown from the front and one from the back, with the count
before the path or behind it; and all of them if the count stands apart behind the path. -/
theorem head_tail_counts_three_lines :
    let state := { State.initial "user" with
      fs := (Tree.Directory.initial "user").changeAt ["home", "user"]
        (Entries.store "notes.txt" (.newFile "notes.txt" "user" "a\nb\nc\n")) }
    state.answer? default "head -n2 notes.txt" = some (.only (.text "a\nb")) ∧
      state.answer? default "tail  notes.txt -1" = some (.only (.text "c")) ∧
      state.answer? default "head notes.txt -n 2" = some (.only (.text "a\nb\nc")) := by
  intro state
  have held : state.node? "notes.txt" =
      some (.file ⟨"notes.txt", "user", .ofFile⟩ "a\nb\nc\n") := by
    have path : Tree.normalize "notes.txt" state.cwd = ["home", "user", "notes.txt"] := by
      decide +kernel
    rw [State.node?, Tree.resolve, path]
    rfl
  obtain ⟨counts, -, unread⟩ := head_tail_counts default held (by decide +kernel)
  have three : lines "a\nb\nc\n" = ["a", "b", "c"] := by decide +kernel
  rw [three] at counts unread
  let notes : Word := .bare "notes.txt" (by decide) (by decide +kernel) (by decide +kernel)
  let joined : Word := .bare "-n2" (by decide) (by decide +kernel) (by decide +kernel)
  let short : Word := .bare "-1" (by decide) (by decide +kernel) (by decide +kernel)
  let flag : Word := .bare "-n" (by decide) (by decide +kernel) (by decide +kernel)
  let two : Word := .bare "2" (by decide) (by decide +kernel) (by decide +kernel)
  have first : spelled .head [(0, joined), (0, notes)] = "head -n2 notes.txt" := by
    decide +kernel
  have second : spelled .tail [(1, notes), (0, short)] = "tail  notes.txt -1" := by
    decide +kernel
  have third : spelled .head [(0, notes), (0, flag), (0, two)] = "head notes.txt -n 2" := by
    decide +kernel
  obtain ⟨front, -⟩ := counts 2 ⟨.joined, false⟩ [(0, joined), (0, notes)] ⟨rfl, by decide⟩
    (by decide)
  obtain ⟨-, back⟩ := counts 1 ⟨.short, true⟩ [(1, notes), (0, short)] ⟨rfl, by decide⟩
    (by decide)
  obtain ⟨all, -⟩ := (unread 2 [(0, notes), (0, flag), (0, two)] ⟨rfl, by decide⟩).1
    (by decide +kernel)
  rw [first] at front
  rw [second] at back
  rw [third] at all
  exact ⟨front, back, all⟩

end Workbench.Shell
