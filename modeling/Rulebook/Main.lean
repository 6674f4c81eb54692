import Rulebook.Command.Run

/-!
The program: reads the files that the command line names, prints what comes of
them and writes the file that was asked for.
-/

namespace Rulebook.Command

def readText (path : String) : IO (Option String) := do
  try
    let text ← IO.FS.readFile path
    return some text
  catch _ => return none

def fail (reason : String) : IO UInt32 := do
  IO.eprintln ("Error: " ++ reason)
  return 1

def execute (settings : Settings) (task : Task) : IO UInt32 := do
  let texts ← (inputs settings task).mapM fun path => do
    return (path, ← readText path)
  let outcome := run (fun path => (texts.lookup path).join) settings task
  IO.print outcome.output
  match outcome.ending with
  | .done => return 0
  | .failed reason => fail reason
  | .writes path text =>
      try
        IO.FS.writeFile path text
        return 0
      catch _ => fail (writeFailure path)

end Rulebook.Command

open Rulebook.Command in
def main (args : List String) : IO UInt32 := do
  match Invocation.ofArguments args with
  | .run settings task => execute settings task
  | .version => IO.print versionText; return 0
  | .help topic => IO.print topic.text; return 0
  | .misused =>
      IO.eprintln Topic.program.usage
      return 2
