import Workbench.Proofs.Text.Scan
import Workbench.Shell.Command

/-!
# Lines with known tokens

What the tokens of a line are when the line is put together from known pieces: runs of bare
characters, runs inside of quotes, and the quotes and spaces between them. A backslash counts only
for the quote right behind it, so a run hands on no more than whether it ends with one
(`escapesNext`).

A token can be written bare or between quotes (`Word`). A line of such words with spaces between
them has exactly the tokens that were written, however each of them is written, and a redirection
behind them is read as it was written (`parse?_spelled`). Two such lines have names of their own:
the one that writes a quoted text to a file, and the one that shows a file.
-/

namespace Workbench.Shell

/-- Whether a backslash stands right before what follows a text, if `escaped` tells it of the text
itself. -/
def escapesNext (escaped : Bool) (cs : List Char) : Bool :=
  (cs.getLast?.map (· == '\\')).getD escaped

-- the equations of the scanners are made here, once, and not while the proofs wait for them
attribute [local grind =] tokensFrom splitRedirect

section Runs

variable {escaped : Bool} {quote c : Char} {current cs rest : List Char}

theorem escapesNext_cons (escaped : Bool) (c : Char) (cs : List Char) :
    escapesNext escaped (c :: cs) = escapesNext (c == '\\') cs := by
  cases cs with
  | nil => rfl
  | cons d cs => rw [escapesNext, escapesNext, List.getLast?_cons_cons, List.getLast?_cons]; rfl

/-- What no character of a text is can be seen by going through the text. -/
theorem forall_mem_of_any_eq_false {p : Char → Bool} (h : cs.any p = false) :
    ∀ c ∈ cs, p c = false := by
  simpa using h

/-- Characters that are neither spaces nor quotes are collected. -/
theorem tokensFrom_bare (plain : ∀ c ∈ cs, c ≠ ' ' ∧ isQuote c = false) :
    tokensFrom escaped none current (cs ++ rest) =
      tokensFrom (escapesNext escaped cs) none (cs.reverse ++ current) rest := by
  induction cs generalizing escaped current with
  | nil => rfl
  | cons c cs ih =>
    obtain ⟨notSpace, notQuote⟩ := plain c List.mem_cons_self
    have space : ¬ (c == ' ' && (none : Option Char).isNone) = true := by simpa using notSpace
    rw [List.cons_append, tokensFrom, notQuote, Bool.false_and, if_neg Bool.false_ne_true,
      if_neg space, ih fun d hd => plain d (List.mem_cons_of_mem _ hd), escapesNext_cons,
      List.reverse_cons, List.append_assoc]
    rfl

/-- Inside of quotes everything but the closing quote is collected. -/
theorem tokensFrom_inside (absent : quote ∉ cs) :
    tokensFrom escaped (some quote) current (cs ++ rest) =
      tokensFrom (escapesNext escaped cs) (some quote) (cs.reverse ++ current) rest := by
  induction cs generalizing escaped current with
  | nil => rfl
  | cons c cs ih =>
    rw [List.mem_cons, not_or] at absent
    have space : ¬ (c == ' ' && (some quote).isNone) = true := by simp
    rw [List.cons_append, tokensFrom, if_neg (Ne.symm absent.1), if_neg space, ite_self,
      ih absent.2, escapesNext_cons, List.reverse_cons, List.append_assoc]
    rfl

/-- A quote opens a token. -/
theorem tokensFrom_open (h : isQuote quote = true) :
    tokensFrom false none current (quote :: rest) =
      tokensFrom (quote == '\\') (some quote) current rest := by
  rw [tokensFrom, h]
  rfl

/-- The same quote closes it. -/
theorem tokensFrom_close (h : isQuote quote = true) :
    tokensFrom false (some quote) current (quote :: rest) =
      current.reverse :: tokensFrom (quote == '\\') none [] rest := by
  rw [tokensFrom, h]
  simp

/-- A space ends what was begun. -/
theorem tokensFrom_space :
    tokensFrom escaped none current (' ' :: rest) =
      pending current ++ tokensFrom false none [] rest := by
  rw [tokensFrom]
  simp [isQuote]

end Runs

/-! ## Redirections -/

/-- How a redirection is written. -/
def Redirect.mark : Redirect → List Char
  | .append => ['>', '>']
  | .overwrite => ['>']

section Redirections

variable {line : String}

/-- A line is cut at the only mark that it holds. -/
theorem splitRedirect_mark {before target : List Char} (mode : Redirect) (plain : '>' ∉ before)
    (plain' : '>' ∉ target) :
    splitRedirect (String.ofList (before ++ ' ' :: (mode.mark ++ target))) =
      (String.ofList (before ++ [' ']), some (mode, String.ofList (Text.trim target))) := by
  have absent {word : List Char} (mark : '>' ∈ word) : ¬ word <:+: before :=
    fun inside => plain (inside.subset mark)
  rw [splitRedirect, String.toList_ofList]
  cases mode with
  | append =>
    rw [Redirect.mark, Text.cutAt?_append_cons (by decide) (by decide) (absent (by decide))]
  | overwrite =>
    -- one mark is not two
    have single : ¬ ['>', '>'] <:+: before ++ ' ' :: (['>'] ++ target) := fun inside => by
      have enough := inside.sublist.count_le '>'
      simp [List.count_eq_zero.mpr plain, List.count_eq_zero.mpr plain'] at enough
    rw [Redirect.mark, (Text.cutAt?_eq_none_iff (by decide)).mpr single,
      Text.cutAt?_append_cons (by decide) (by decide) (absent (by decide))]

/-- Without a mark there is no redirection. -/
theorem splitRedirect_plain (plain : '>' ∉ line.toList) :
    splitRedirect line = (line, none) := by
  have absent {word : List Char} (mark : '>' ∈ word) : ¬ word <:+: line.toList :=
    fun inside => plain (inside.subset mark)
  rw [splitRedirect, (Text.cutAt?_eq_none_iff (by decide)).mpr (absent (by decide)),
    (Text.cutAt?_eq_none_iff (by decide)).mpr (absent (by decide))]

end Redirections

/-! ## Words -/

/-- A text without blanks and quotes. -/
def IsUnquoted (text : String) : Prop :=
  ∀ c ∈ text.toList, Text.isBlank c = false ∧ isQuote c = false

instance (text : String) : Decidable (IsUnquoted text) :=
  List.decidableBAll _ _

inductive Word where
  /-- A token is written as it is, if it has characters and none with a meaning of its own. -/
  | bare (text : String) (nonempty : text ≠ "") (plain : IsUnquoted text)
      (noRedirection : '>' ∉ text.toList)
  /-- A token is written between quotes, if these quotes do not close before its end. -/
  | quoted (quote : Char) (isQuote : isQuote quote = true) (text : String)
      (noQuote : quote ∉ text.toList) (noRedirection : '>' ∉ text.toList)
      (unescaped : text.toList.getLast? ≠ some '\\')

namespace Word

/-- The token. -/
def text : Word → String
  | bare text .. => text
  | quoted _ _ text .. => text

/-- What is written for the token. -/
def written : Word → List Char
  | bare text .. => text.toList
  | quoted quote _ text .. => quote :: (text.toList ++ [quote])

end Word

/-- Words with spaces between them: in front of each word but the first stands one space, and as
many more as are given with the word. -/
def spelledChars (first : Word) (others : List (Nat × Word)) : List Char :=
  first.written ++ others.flatMap fun (more, word) => List.replicate (more + 1) ' ' ++ word.written

/-- A line of words. -/
def spelled (first : Word) (others : List (Nat × Word)) : String :=
  String.ofList (spelledChars first others)

/-- The command of a line of words. -/
def Command.ofWords (first : Word) (others : List (Nat × Word)) : Command :=
  let tokens := others.map (·.2.text)
  { name := first.text
    args := tokens.filter (! isOption ·)
    options := flattenOptions (tokens.filter isOption)
    redirect := none
    target := none
    tokens }

section Words

variable {first : Word} {others : List (Nat × Word)} {rest : List Char}
variable {line body name : String} {tokens : List String}
variable {redirection : Option (Redirect × String)}

/-- No word is blank. -/
theorem Word.exists_full (word : Word) : ∃ c ∈ word.written, Text.isBlank c = false := by
  cases word with
  | bare text nonempty plain noRedirection =>
    obtain ⟨c, cs, chars⟩ : ∃ c cs, text.toList = c :: cs :=
      List.exists_cons_of_ne_nil (by simpa using nonempty)
    have here : c ∈ text.toList := by simp [chars]
    exact ⟨c, here, (plain c here).1⟩
  | quoted quote isQuote text noQuote noRedirection unescaped =>
    have full : ∀ q, Shell.isQuote q = true → Text.isBlank q = false := by
      simp only [Shell.isQuote, Bool.or_eq_true, beq_iff_eq]
      rintro q (rfl | rfl) <;> decide
    exact ⟨quote, List.mem_cons_self, full quote isQuote⟩

/-- No word has a mark in it. -/
theorem Word.noRedirection (word : Word) : '>' ∉ word.written := by
  cases word with
  | bare text nonempty plain noRedirection => exact noRedirection
  | quoted quote isQuote text noQuote noRedirection unescaped =>
    have other : '>' ≠ quote := by
      rintro rfl
      exact absurd isQuote (by decide)
    simp [Word.written, noRedirection, other]

/-- A word at the end of a line, or in front of a space, is one token. -/
theorem tokensFrom_written (word : Word) (ends : ∀ c ∈ rest.head?, c = ' ') :
    tokensFrom false none [] (word.written ++ rest) =
      word.text.toList :: tokensFrom false none [] rest := by
  cases word with
  | bare text nonempty plain noRedirection =>
    have apart : ∀ c ∈ text.toList, c ≠ ' ' ∧ isQuote c = false := by
      refine fun c hc => ⟨?_, (plain c hc).2⟩
      rintro rfl
      exact absurd (plain ' ' hc).1 (by decide)
    rw [Word.written, tokensFrom_bare apart]
    cases rest with
    | nil => simp [tokensFrom, pending, nonempty, Word.text]
    | cons c rest =>
      obtain rfl := ends c rfl
      rw [tokensFrom_space, tokensFrom_space]
      simp [pending, nonempty, Word.text]
  | quoted quote isQuote text noQuote noRedirection unescaped =>
    have notBackslash : (quote == '\\') = false := by
      rw [beq_eq_false_iff_ne]
      rintro rfl
      exact absurd isQuote (by decide)
    have closed : escapesNext false text.toList = false := by
      rw [escapesNext]
      cases last : text.toList.getLast? with
      | none => rfl
      | some c => simpa [last] using unescaped
    rw [Word.written, List.cons_append, List.append_assoc, tokensFrom_open isQuote, notBackslash,
      tokensFrom_inside noQuote, closed, List.singleton_append, tokensFrom_close isQuote,
      notBackslash]
    simp [Word.text]

/-- Spaces in front are passed over. -/
theorem tokensFrom_spaces (count : Nat) (rest : List Char) :
    tokensFrom false none [] (List.replicate count ' ' ++ rest) =
      tokensFrom false none [] rest := by
  induction count with
  | zero => rfl
  | succ count ih =>
    rw [List.replicate_succ, List.cons_append, tokensFrom_space, ih]
    rfl

/-- The tokens of a line of words, with spaces behind it, are those that were written. -/
theorem tokensFrom_spelled (first : Word) (others : List (Nat × Word)) (behind : Nat) :
    tokensFrom false none [] (spelledChars first others ++ List.replicate behind ' ') =
      first.text.toList :: others.map (·.2.text.toList) := by
  have ends (count : Nat) : ∀ c ∈ (List.replicate count ' ').head?, c = ' ' := by
    cases count <;> simp [List.replicate_succ]
  induction others generalizing first with
  | nil =>
    have spaces := tokensFrom_spaces behind []
    rw [List.append_nil] at spaces
    rw [spelledChars, List.flatMap_nil, List.append_nil, tokensFrom_written first (ends behind),
      spaces]
    rfl
  | cons word others ih =>
    obtain ⟨more, word⟩ := word
    have next : spelledChars first ((more, word) :: others) ++ List.replicate behind ' ' =
        first.written ++ (List.replicate (more + 1) ' ' ++
          (spelledChars word others ++ List.replicate behind ' ')) := by
      simp [spelledChars]
    rw [next, tokensFrom_written first (by simp [List.replicate_succ]), tokensFrom_spaces, ih]
    rfl

/-- Words that are spelled are read again. -/
theorem tokenize_spelled (first : Word) (others : List (Nat × Word)) (behind : Nat) :
    tokenize (String.ofList (spelledChars first others ++ List.replicate behind ' ')) =
      first.text :: others.map (·.2.text) := by
  rw [tokenize, String.toList_ofList, tokensFrom_spelled]
  simp

/-- Nor have several words. -/
theorem noRedirection_spelledChars (first : Word) (others : List (Nat × Word)) :
    '>' ∉ spelledChars first others := by
  simp only [spelledChars, List.mem_append, List.mem_flatMap, not_or, not_exists, not_and]
  refine ⟨first.noRedirection, fun word _ => ⟨?_, word.2.noRedirection⟩⟩
  rw [List.mem_replicate]
  rintro ⟨-, same⟩
  exact absurd same (by decide)

/-- Nor are they blank. -/
theorem not_isBlankText_spelled (first : Word) (others : List (Nat × Word)) (rest : List Char) :
    ¬ Text.isBlankText (String.ofList (spelledChars first others ++ rest)) = true := by
  obtain ⟨c, here, full⟩ := first.exists_full
  rw [Text.isBlankText, String.toList_ofList, List.all_eq_true]
  intro blank
  rw [blank c (by simp [spelledChars, here])] at full
  cases full

/-- The command of a line is made of its tokens and its redirection. -/
theorem parse?_of_tokens (full : ¬ Text.isBlankText line = true)
    (cut : splitRedirect line = (body, redirection)) (read : tokenize body = name :: tokens) :
    Command.parse? line = some
      { name
        args := tokens.filter (! isOption ·)
        options := flattenOptions (tokens.filter isOption)
        redirect := redirection.map (·.1)
        target := redirection.map (·.2)
        tokens } := by
  rw [Command.parse?, if_neg full, cut]
  dsimp only
  rw [read]

/-- Words without a redirection are a command. -/
theorem parse?_words (first : Word) (others : List (Nat × Word)) :
    Command.parse? (spelled first others) = some (.ofWords first others) := by
  have read := tokenize_spelled first others 0
  have full := not_isBlankText_spelled first others []
  rw [List.replicate_zero, List.append_nil] at read
  rw [List.append_nil] at full
  exact parse?_of_tokens full
    (splitRedirect_plain (by simpa [spelled] using noRedirection_spelledChars first others)) read

/-- The command of a line of words in front of a redirection. -/
theorem parse?_redirected (first : Word) (others : List (Nat × Word)) (mode : Redirect)
    {target : String} (noRedirection : '>' ∉ target.toList)
    (trimmed : Text.trim target.toList = target.toList) :
    Command.parse? (spelled first others ++ " " ++ String.ofList mode.mark ++ " " ++ target) =
      some { Command.ofWords first others with redirect := some mode, target := some target } := by
  have line : spelled first others ++ " " ++ String.ofList mode.mark ++ " " ++ target =
      String.ofList (spelledChars first others ++ ' ' :: (mode.mark ++ ' ' :: target.toList)) := by
    apply String.toList_injective
    simp [spelled]
  have behind : '>' ∉ ' ' :: target.toList := by simpa using noRedirection
  have cut := splitRedirect_mark mode (noRedirection_spelledChars first others) behind
  rw [Text.trim_cons (by decide), trimmed, String.ofList_toList] at cut
  rw [line]
  exact parse?_of_tokens (not_isBlankText_spelled first others _) cut
    (tokenize_spelled first others 1)

end Words

/-- The target of a redirection: a text that does not redirect any further and has no blanks around
it. It may be empty. -/
structure Target where
  text : String
  noRedirection : '>' ∉ text.toList
  noLeading : ∀ c ∈ text.toList.head?, Text.isBlank c = false
  noTrailing : ∀ c ∈ text.toList.getLast?, Text.isBlank c = false

/-- What is written behind a line to redirect its output, or not to. -/
def redirecting : Option (Redirect × Target) → String
  | none => ""
  | some (mode, target) => " " ++ String.ofList mode.mark ++ " " ++ target.text

/-- **Parsing undoes quoting.** A line of words has the tokens that were written, whether they are
bare or in quotes of either kind, and however many spaces stand between them. Its command, with a
redirection behind the words or without one, has the first token for its name, the others for its
tokens, those of them that are no options for its operands, the flags of the options, and the
redirection with its target. -/
theorem parse?_spelled (first : Word) (others : List (Nat × Word)) :
    let tokens := others.map (·.2.text)
    tokenize (spelled first others) = first.text :: tokens ∧
    ∀ redirection : Option (Redirect × Target),
      Command.parse? (spelled first others ++ redirecting redirection) = some
        { name := first.text
          args := tokens.filter (! isOption ·)
          options := flattenOptions (tokens.filter isOption)
          redirect := redirection.map (·.1)
          target := redirection.map (·.2.text)
          tokens } := by
  intro tokens
  refine ⟨?_, fun redirection => ?_⟩
  · have read := tokenize_spelled first others 0
    rwa [List.replicate_zero, List.append_nil] at read
  · cases redirection with
    | none =>
      rw [redirecting, String.append_empty]
      exact parse?_words first others
    | some redirection =>
      obtain ⟨mode, target⟩ := redirection
      rw [redirecting, ← String.append_assoc, ← String.append_assoc, ← String.append_assoc]
      exact parse?_redirected first others mode target.noRedirection
        (Text.trim_eq_self target.noLeading target.noTrailing)

/-- A quoted and an empty argument, a bunch of flags, and a target with a space in it. -/
theorem parse?_spelled_append :
    let first : Word := .bare "echo" (by decide) (by decide) (by decide)
    let others : List (Nat × Word) :=
      [(1, .quoted '\'' (by decide) "a \"b" (by decide) (by decide) (by decide)),
        (0, .quoted '"' (by decide) "" (by decide) (by decide) (by decide)),
        (0, .bare "-la\\" (by decide) (by decide) (by decide))]
    let target : Target := ⟨"out file.txt", by decide, by rintro c ⟨⟩; rfl, by rintro c ⟨⟩; rfl⟩
    spelled first others ++ redirecting (some (.append, target)) =
        "echo  'a \"b' \"\" -la\\ >> out file.txt" ∧
      Command.parse? "echo  'a \"b' \"\" -la\\ >> out file.txt" =
        some ⟨"echo", ["a \"b", ""], ["l", "a", "\\"], some .append, some "out file.txt",
          ["a \"b", "", "-la\\"]⟩ := by
  intro first others target
  have line : spelled first others ++ redirecting (some (.append, target)) =
      "echo  'a \"b' \"\" -la\\ >> out file.txt" := by decide +kernel
  refine ⟨line, ?_⟩
  rw [← line, (parse?_spelled first others).2 (some (.append, target))]
  decide +kernel

/-! ## Writing and showing a file -/

/-- A text that can stand between double quotes as an operand whose output is redirected. -/
structure Quotable (text : String) : Prop where
  nonempty : text ≠ ""
  noQuote : '"' ∉ text.toList
  noRedirection : '>' ∉ text.toList
  notOption : text.toList.head? ≠ some '-'
  unescaped : text.toList.getLast? ≠ some '\\'

/-- A path that can stand bare as an operand or as the target of a redirection, and that is not
relative to the home directory. -/
structure BarePath (path : String) : Prop where
  nonempty : path ≠ ""
  noBlank : ∀ c ∈ path.toList, Text.isBlank c = false
  noQuote : ∀ c ∈ path.toList, isQuote c = false
  noRedirection : '>' ∉ path.toList
  notOption : path.toList.head? ≠ some '-'
  notHome : path.toList.head? ≠ some '~'

/-- The line that shows a quoted text and redirects it to a file. -/
def echoLine (text : String) (mode : Redirect) (target : String) : String :=
  "echo \"" ++ text ++ "\" " ++ String.ofList mode.mark ++ " " ++ target

example : echoLine "hi" .append "f.txt" = "echo \"hi\" >> f.txt" := by decide +kernel

/-- The line that shows a file. -/
def catLine (path : String) : String :=
  "cat " ++ path

variable {text path : String}

/-- The word of a text that can stand between double quotes. -/
def Quotable.word (quotable : Quotable text) : Word :=
  .quoted '"' rfl text quotable.noQuote quotable.noRedirection quotable.unescaped

/-- The word of a path that can stand bare. -/
def BarePath.word (bare : BarePath path) : Word :=
  .bare path bare.nonempty (fun c hc => ⟨bare.noBlank c hc, bare.noQuote c hc⟩) bare.noRedirection

/-- A line that echoes a quotable text into a file. -/
theorem parse?_echoLine (quotable : Quotable text) (bare : BarePath path) (mode : Redirect) :
    Command.parse? (echoLine text mode path) =
      some ⟨"echo", [text], [], some mode, some path, [text]⟩ := by
  let echo : Word := .bare "echo" (by decide) (by decide) (by decide)
  have line : echoLine text mode path =
      spelled echo [(0, quotable.word)] ++ " " ++ String.ofList mode.mark ++ " " ++ path := by
    apply String.toList_injective
    simp [echoLine, spelled, spelledChars, echo, Quotable.word, Word.written]
  have trimmed : Text.trim path.toList = path.toList :=
    Text.trim_eq_self (fun c hc => bare.noBlank c (List.mem_of_mem_head? hc))
      fun c hc => bare.noBlank c (List.mem_of_mem_getLast? hc)
  have notOption : isOption text = false := by simpa [isOption] using quotable.notOption
  rw [line, parse?_redirected echo _ mode bare.noRedirection trimmed]
  simp [Command.ofWords, echo, Quotable.word, Word.text, notOption, flattenOptions]

/-- A line that shows a file. -/
theorem parse?_catLine (bare : BarePath path) :
    Command.parse? (catLine path) = some ⟨"cat", [path], [], none, none, [path]⟩ := by
  let cat : Word := .bare "cat" (by decide) (by decide) (by decide)
  have line : catLine path = spelled cat [(0, bare.word)] := by
    apply String.toList_injective
    simp [catLine, spelled, spelledChars, cat, BarePath.word, Word.written]
  have notOption : isOption path = false := by simpa [isOption] using bare.notOption
  rw [line, parse?_words]
  simp [Command.ofWords, cat, BarePath.word, Word.text, notOption, flattenOptions]

end Workbench.Shell
