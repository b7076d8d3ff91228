import Workbench.Shell.Line
import Workbench.Schema.Check

/-!
# Commands

A command is what one line asks for: a name, operands, flags, and where the output goes.
-/

namespace Workbench.Shell

open Schema (Check required optional)

/-- One command of a line. -/
structure Command where
  /-- The first token. -/
  name : String
  /-- The tokens after it that are no options. -/
  args : List String
  /-- The flags of the options. -/
  options : List String
  /-- How the output is redirected. -/
  redirect : Option Redirect
  /-- The file to which it is redirected. -/
  target : Option String
  /-- All tokens after the name. -/
  tokens : List String
  deriving Repr, DecidableEq

namespace Command

/-- Whether a flag was given. -/
def hasOption (c : Command) (flag : String) : Bool :=
  c.options.contains flag

/-- All tokens after the name, joined by single spaces. -/
def argumentString (c : Command) : String :=
  " ".intercalate c.tokens

/-- The command of a line; nothing if the line is blank or holds nothing but a redirection. -/
def parse? (line : String) : Option Command :=
  if Text.isBlankText line then none
  else
    let (body, redirect) := splitRedirect line
    match tokenize body with
    | [] => none
    | name :: rest =>
      some
        { name
          args := rest.filter (! isOption ·)
          options := flattenOptions (rest.filter isOption)
          redirect := redirect.map (·.1)
          target := redirect.map (·.2)
          tokens := rest }

/-- A redirection from its name. -/
def checkRedirect (input : Json) : Check (Option Redirect) :=
  match input with
  | .null => .ok none
  | .str "append" => .ok (some .append)
  | .str "overwrite" => .ok (some .overwrite)
  | _ => Check.fail (.notLiteral ["append", "overwrite"]) input

/-- A command from its parts; all but the name may be left out. -/
def check (input : Json) : Check Command :=
  let texts := Schema.list .value Schema.text
  Schema.record .value "ParsedCommand"
    (fun fields =>
      ((required "command" Schema.text fields).both
        ((optional "args" [] texts fields).both
          ((optional "options" [] texts fields).both
            ((optional "redirect" none checkRedirect fields).both
              ((optional "target_file" none Schema.text? fields).both
                (optional "tokens" [] texts fields)))))).map
        fun (name, args, options, redirect, target, tokens) =>
          { name, args, options, redirect, target, tokens })
    input

def redirectName : Redirect → String
  | .append => "append"
  | .overwrite => "overwrite"

def toJson (c : Command) : Json :=
  .obj [("command", .str c.name), ("args", .ofTexts c.args), ("options", .ofTexts c.options),
    ("redirect", .ofText? (c.redirect.map redirectName)), ("target_file", .ofText? c.target),
    ("tokens", .ofTexts c.tokens), ("argument_string", .str c.argumentString)]

end Command

end Workbench.Shell
