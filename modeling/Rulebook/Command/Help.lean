import Rulebook.Command.Invocation

/-!
The texts that describe the program and its commands.
-/

namespace Rulebook.Command

def programName : String := "backbay-rulecheck"

def programVersion : String := "0.1.0"

def versionText : String := programName ++ " " ++ programVersion ++ "\n"

def ofLines (lines : List String) : String := String.join (lines.map (· ++ "\n"))

def Topic.about : Topic → String
  | .program => "Check and repair ruleset requirement vectors"
  | .check => "Sanity check requirement vectors"
  | .repair => "Repair enablers that miss hard requirements"
  | .help => "Print this message or the help of the given subcommand(s)"

def Topic.usage : Topic → String
  | .program => "Usage: " ++ programName ++ " [OPTIONS] <COMMAND>"
  | .check => "Usage: " ++ programName ++ " check [OPTIONS]"
  | .repair => "Usage: " ++ programName ++ " repair [OPTIONS] <ENABLERS>"
  | .help => "Usage: " ++ programName ++ " help [COMMAND]..."

def Topic.details : Topic → List String
  | .program => [
      "Commands:",
      "  check   Sanity check requirement vectors",
      "  repair  Repair enablers that miss hard requirements",
      "  help    Print this message or the help of the given subcommand(s)",
      "",
      "Options:",
      "  -r, --ruleset <RULESET>  Ruleset directory (defaults to the embedded base ruleset)",
      "  -c, --config <CONFIG>    Engine configuration file",
      "      --json               Print the report as JSON",
      "  -v, --verbose            Verbose output",
      "  -h, --help               Print help",
      "  -V, --version            Print version"]
  | .check => [
      "Options:",
      "  -r, --ruleset <RULESET>    Ruleset directory (defaults to the embedded base ruleset)",
      "      --rules <RULES>        Rule list files",
      "  -c, --config <CONFIG>      Engine configuration file",
      "      --enablers <ENABLERS>  Action enabler file",
      "      --json                 Print the report as JSON",
      "  -v, --verbose              Verbose output",
      "  -h, --help                 Print help"]
  | .repair => [
      "Arguments:",
      "  <ENABLERS>  Action enabler file",
      "",
      "Options:",
      "      --hard <HARD>        Hard requirements file (defaults to the built-in table)",
      "  -r, --ruleset <RULESET>  Ruleset directory (defaults to the embedded base ruleset)",
      "  -c, --config <CONFIG>    Engine configuration file",
      "  -o, --output <OUTPUT>    Write the repaired enablers here",
      "      --json               Print the report as JSON",
      "  -v, --verbose            Verbose output",
      "  -h, --help               Print help"]
  | .help => [
      "Arguments:",
      "  [COMMAND]...  Print help for the subcommand(s)"]

def Topic.text (topic : Topic) : String :=
  ofLines ([topic.about, "", topic.usage, ""] ++ topic.details)

end Rulebook.Command
