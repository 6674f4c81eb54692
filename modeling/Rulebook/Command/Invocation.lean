import Rulebook.Command.Arguments

/-!
What a command line asks for.

The general options may stand before the name of the command or after it; after
it they win.
-/

namespace Rulebook.Command

structure Settings where
  ruleset : Option String := none
  config : Option String := none
  json : Bool := false
  deriving DecidableEq, Repr

inductive Task where
  | check (rules : List String) (enablers : Option String)
  | repair (enablers : String) (obligations output : Option String)
  deriving DecidableEq, Repr

inductive Topic where
  | program
  | check
  | repair
  | help
  deriving DecidableEq, Repr

inductive Invocation where
  | run (settings : Settings) (task : Task)
  | version
  | help (topic : Topic)
  | misused
  deriving DecidableEq, Repr

namespace Invocation

def general : List Switch := [
  { name := "ruleset", letter := 'r', takesValue := true },
  { name := "config", letter := 'c', takesValue := true },
  { name := "json" },
  { name := "verbose", letter := 'v' },
  { name := "help", letter := 'h', immediate := true }]

def ofProgram : List Switch :=
  general ++ [{ name := "version", letter := 'V', immediate := true }]

def ofCheck : List Switch :=
  general ++ [
    { name := "rules", takesValue := true, repeatable := true },
    { name := "enablers", takesValue := true }]

def ofRepair : List Switch :=
  general ++ [
    { name := "hard", takesValue := true },
    { name := "output", letter := 'o', takesValue := true }]

def settings (before after : Given) : Settings where
  ruleset := (after.lookup "ruleset").or (before.lookup "ruleset")
  config := (after.lookup "config").or (before.lookup "config")
  json := (before ++ after).any (·.1 == "json")

def checkOf (before : Given) (args : List String) : Invocation :=
  match readOptions ofCheck [] args with
  | .finished given =>
      let rules := (given.filter (·.1 == "rules")).map (·.2)
      .run (settings before given) (.check rules (given.lookup "enablers"))
  | .immediate _ => .help .check
  | .word .. | .wrong => .misused

def repairOf (before : Given) (args : List String) : Invocation :=
  match readOptions ofRepair [] args with
  | .word given enablers rest literal =>
      if enablers.isEmpty then .misused
      else if literal then
        if rest.isEmpty then finish given enablers else .misused
      else match readOptions ofRepair given rest with
        | .finished given => finish given enablers
        | .immediate _ => .help .repair
        | .word .. | .wrong => .misused
  | .immediate _ => .help .repair
  | .finished _ | .wrong => .misused
where
  finish (given : Given) (enablers : String) : Invocation :=
    .run (settings before given)
      (.repair enablers (given.lookup "hard") (given.lookup "output"))

def helpOf : List String → Invocation
  | [] => .help .program
  | ["check"] => .help .check
  | ["repair"] => .help .repair
  | ["help"] => .help .help
  | _ => .misused

def ofArguments (args : List String) : Invocation :=
  match readOptions ofProgram [] args with
  | .word before "check" rest false => checkOf before rest
  | .word before "repair" rest false => repairOf before rest
  | .word _ "help" rest false => helpOf rest
  | .immediate "version" => .version
  | .immediate _ => .help .program
  | .word .. | .finished _ | .wrong => .misused

end Invocation

end Rulebook.Command
