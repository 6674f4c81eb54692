/-!
Reading the arguments of a command line.

An option is written with two dashes and its name, or with one dash and its
letter; letters can be run together.  A value is the next argument, or stands
behind an equals sign, or directly behind the letter.  No value is empty, and a
value that is an argument of its own does not begin with a dash, unless it is a
single one.  After `--` no argument is an option.
-/

namespace Rulebook.Command

structure Switch where
  name : String
  letter : Option Char := none
  takesValue : Bool := false
  repeatable : Bool := false
  immediate : Bool := false
  deriving DecidableEq, Repr

abbrev Given := List (String × String)

inductive Stop where
  | finished (given : Given)
  /-- An argument that is no option, and those after it; `literal` if `--` has been read. -/
  | word (given : Given) (word : String) (rest : List String) (literal : Bool)
  | immediate (name : String)
  | wrong
  deriving Repr

inductive Letters where
  | read (given : Given)
  | wantsValue (given : Given) (name : String)
  | immediate (name : String)
  | wrong

namespace Switch

def give? (s : Switch) (given : Given) (value : String) : Option Given :=
  if given.any (·.1 == s.name) && !s.repeatable then none
  else if s.takesValue && value.isEmpty then none
  else some (given ++ [(s.name, value)])

def named? (switches : List Switch) (name : String) : Option Switch :=
  switches.find? (·.name == name)

def lettered? (switches : List Switch) (letter : Char) : Option Switch :=
  switches.find? (·.letter == some letter)

end Switch

def letters (switches : List Switch) (given : Given) : List Char → Letters
  | [] => .read given
  | c :: rest =>
      match Switch.lettered? switches c with
      | none => .wrong
      | some s =>
          if s.immediate then .immediate s.name
          else if s.takesValue then
            match rest with
            | [] => .wantsValue given s.name
            | '=' :: value => finish s value
            | value => finish s value
          else match s.give? given "" with
            | none => .wrong
            | some given => letters switches given rest
where
  finish (s : Switch) (value : List Char) : Letters :=
    match s.give? given (String.ofList value) with
    | none => .wrong
    | some given => .read given

/-- A value that is an argument of its own is not taken for an option. -/
def isValue (arg : String) : Bool := arg == "-" || !arg.startsWith "-"

def readOptions (switches : List Switch) (given : Given) : List String → Stop
  | [] => .finished given
  | "--" :: [] => .finished given
  | "--" :: word :: rest => .word given word rest true
  | arg :: rest =>
      match arg.toList with
      | '-' :: '-' :: cs =>
          let (name, value) := cs.span (· != '=')
          match Switch.named? switches (String.ofList name), value with
          | none, _ => .wrong
          | some s, '=' :: value =>
              if s.takesValue then
                match s.give? given (String.ofList value) with
                | none => .wrong
                | some given => readOptions switches given rest
              else .wrong
          | some s, _ =>
              if s.immediate then .immediate s.name
              else if s.takesValue then takeValue s given rest
              else match s.give? given "" with
                | none => .wrong
                | some given => readOptions switches given rest
      | '-' :: c :: cs =>
          match letters switches given (c :: cs) with
          | .read given => readOptions switches given rest
          | .wantsValue given name =>
              match Switch.named? switches name with
              | none => .wrong
              | some s => takeValue s given rest
          | .immediate name => .immediate name
          | .wrong => .wrong
      | _ => .word given arg rest false
where
  takeValue (s : Switch) (given : Given) : List String → Stop
    | [] => .wrong
    | value :: rest =>
        if isValue value then
          match s.give? given value with
          | none => .wrong
          | some given => readOptions switches given rest
        else .wrong

end Rulebook.Command
