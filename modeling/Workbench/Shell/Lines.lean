import Workbench.Shell.Files

/-!
# Lines of text

Commands that read the lines of a file: `grep`, `head`, `tail`, `wc`, `sort` and `uniq`; and
`echo`, which shows its operands. A line feed at the end of a file does not start another line.
-/

namespace Workbench.Shell

/-- The lines of a file; none if it is empty. -/
def lines (content : String) : List String :=
  if content.isEmpty then [] else Text.pieces '\n' (shown content)

/-- The content of the file at a path; nothing if there is no path or no file. -/
def State.contentAt? (state : State) (path : Option String) : Option String :=
  match path.bind state.node? with
  | some (.file _ content) => some content
  | _ => none

/-- Shows its operands. -/
def echo : Handler :=
  readOnly fun command _ => .text (" ".intercalate command.args)

/-- The lines that a test picks out, with their numbers if those are asked for. -/
def pickedLines (numbered : Bool) (test : String → Bool) (content : String) : List String :=
  (lines content).zipIdx 1 |>.filterMap fun (line, number) =>
    if test line then some (if numbered then s!"{number}:{line}" else line) else none

/-- Shows the lines of a file in which a pattern occurs. -/
def grep : Handler := fun _ command state =>
  match command.args with
  | pattern :: path :: _ =>
    match state.contentAt? (some path) with
    | none => .ok (.only (.error s!"grep: {path}: No such file or directory"))
    | some content =>
      match Pattern.compile (command.hasOption "i") pattern.toList with
      | .error fault => .error (.pattern pattern fault)
      | .ok compiled =>
        let picked := pickedLines (command.hasOption "n") compiled.occursIn content
        .ok (.only (.text ("\n".intercalate picked)))
  | _ => .ok (.only (.error "grep: pattern and file required"))

/-- How many lines are shown if no number is given. -/
def defaultCount : Nat := 10

/-- The digits of the count among the flags and operands, and the operands that are left. The
digits follow the flag `n`, or are the operand after it, or are the first flags. -/
def countDigits (command : Command) : String × List String :=
  let digitRun (flags : List String) := String.join (flags.takeWhile Text.isDigits)
  if command.options.contains "n" then
    let digits := digitRun ((command.options.dropWhile (· != "n")).drop 1)
    match command.args with
    | first :: second :: rest =>
      if digits.isEmpty && Text.isDigits first then (first, second :: rest)
      else (digits, command.args)
    | _ => (digits, command.args)
  else (digitRun command.options, command.args)

/-- The count of lines that a command asks for, and its operands. -/
def lineCount (command : Command) : Except Breakdown (Nat × List String) :=
  let (digits, args) := countDigits command
  if digits.isEmpty then .ok (defaultCount, args)
  else
    match Decimal.count digits with
    | .ok n => .ok (n, args)
    | .error fault => .error (.count fault)

/-- A handler that shows some of the lines of a file, given the count. -/
def someLines (name : String) (pick : Nat → List String → List String) : Handler :=
  fun _ command state => do
    let (count, args) ← lineCount command
    match state.contentAt? args.head? with
    | none => .ok (.only (.error s!"{name}: cannot open file"))
    | some content => .ok (.only (.text ("\n".intercalate (pick count (lines content)))))

/-- Shows the first lines of a file. -/
def head : Handler :=
  someLines "head" fun count ls => ls.take count

/-- Shows the last lines of a file. -/
def tail : Handler :=
  someLines "tail" fun count ls => ls.drop (ls.length - count)

/-- A handler that shows something about the file at its first operand. -/
def aboutFile (name : String) (describe : Command → String → String) : Handler :=
  readOnly fun command state =>
    match state.contentAt? command.args.head? with
    | none => .error s!"{name}: cannot open file"
    | some content => .text (describe command content)

/-- Counts the lines, words and characters of a file. -/
def wc : Handler :=
  aboutFile "wc" fun command content =>
    let lineCount := (lines content).length
    let wordCount := (Text.words content.toList).length
    let charCount := content.length
    if command.hasOption "l" then toString lineCount
    else if command.hasOption "w" then toString wordCount
    else if command.hasOption "c" then toString charCount
    else
      let path := command.args.headD ""
      s!"{lineCount} {wordCount} {charCount} {path}"

/-- The lines of a file that are not empty. -/
def fullLines (content : String) : List String :=
  (lines content).filter (! ·.isEmpty)

/-- Shows the lines of a file in order. -/
def sort : Handler :=
  aboutFile "sort" fun command content =>
    let sorted := (fullLines content).mergeSort (· ≤ ·)
    "\n".intercalate (if command.hasOption "r" then sorted.reverse else sorted)

/-- Shows each line of a file once. -/
def uniq : Handler :=
  aboutFile "uniq" fun _ content => "\n".intercalate (fullLines content).eraseDups

end Workbench.Shell
