import Workbench.Text.Split
import Workbench.Text.Blank

/-!
# Command lines

A line is cut into tokens at spaces outside of quotes. A quote opens or closes a quoted run unless
a backslash stands right before it; inside, everything is literal, the other quote included. A
closing quote always ends its token, so a pair of quotes is an empty token.

The output of a line is redirected by `>` or `>>`, which is looked for before the line is cut into
tokens and so also inside quotes.
-/

namespace Workbench.Shell

/-- How output is written to a file. -/
inductive Redirect where
  | append
  | overwrite
  deriving Repr, DecidableEq

def isQuote (c : Char) : Bool :=
  c == '"' || c == '\''

/-- A collected token (last character first), unless it is empty. -/
def pending (current : List Char) : List (List Char) :=
  if current.isEmpty then [] else [current.reverse]

/-- The tokens of the rest of a line. `escaped` tells whether a backslash stands right before the
rest, `quote` is the quote that is open, and `current` collects a token, last character first. -/
def tokensFrom (escaped : Bool) (quote : Option Char) (current : List Char) :
    List Char → List (List Char)
  | [] => pending current
  | c :: cs =>
    let escapes := c == '\\'
    if isQuote c && !escaped then
      match quote with
      | none => tokensFrom escapes (some c) current cs
      | some q =>
        if c = q then current.reverse :: tokensFrom escapes none [] cs
        else tokensFrom escapes quote (c :: current) cs
    else if c == ' ' && quote.isNone then pending current ++ tokensFrom escapes none [] cs
    else tokensFrom escapes quote (c :: current) cs

def tokenize (line : String) : List String :=
  (tokensFrom false none [] line.toList).map String.ofList

/-- The part of a line before a redirection, and the redirection with its target. -/
def splitRedirect (line : String) : String × Option (Redirect × String) :=
  match Text.cutAt? ['>', '>'] line.toList with
  | some (before, target) =>
    (String.ofList before, some (.append, String.ofList (Text.trim target)))
  | none =>
    match Text.cutAt? ['>'] line.toList with
    | some (before, target) =>
      (String.ofList before, some (.overwrite, String.ofList (Text.trim target)))
    | none => (line, none)

def isOption (token : String) : Bool :=
  token.toList.head? == some '-'

/-- The flags of one option: each character of a bundle, or the whole of a long option. -/
def flagsOf (option : String) : List String :=
  let cs := option.toList
  let stripped := cs.dropWhile (· == '-')
  let isLong := cs.take 2 == ['-', '-']
  if stripped.length > 1 && !isLong then stripped.map String.singleton
  else [String.ofList stripped]

/-- The flags of options in order. -/
def flattenOptions (options : List String) : List String :=
  options.flatMap flagsOf

end Workbench.Shell
