import TaskFlow.Cli.Args

/-!
# Usage errors

- `UsageError.message`: the text of a usage error; help and version are texts that the arguments ask for;
- `UsageError.exitCode`: what the command ends with.
-/

namespace TaskFlow

/-- The name and the version of the command. -/
def versionText : String := "flowdag 0.1.0"

def helpText : String :=
  "Compile task/flow configuration into a dispatch table.\n\n" ++
  "Usage: flowdag [OPTIONS] --flow <PATH>\n\n" ++
  "Options:\n" ++
  "      --nodes <PATH>       Path to the nodes document [default: nodes.toml]\n" ++
  "      --flow <PATH>        Path to a flow document; may be given several times\n" ++
  "      --output <PATH>      Write the dispatch table here\n" ++
  "      --log-level <LEVEL>  error, warn, info, debug or trace\n" ++
  "      --dry-run            Print a summary and write no table\n" ++
  "  -h, --help               Print help\n" ++
  "  -V, --version            Print version"

/-- The text of usage errors. -/
def UsageError.message : UsageError → String
  | displayHelp => helpText
  | displayVersion => versionText
  | unknownArgument => "unexpected argument"
  | tooManyValues => "unexpected value for an option without values"
  | argumentConflict => "an option is given more than once"
  | invalidValue => "missing or invalid value of an option"
  | missingRequiredArgument => "the option --flow <PATH> is required"

/-- Whether the text is what the arguments ask for. -/
def UsageError.isRequest : UsageError → Bool
  | displayHelp | displayVersion => true
  | _ => false

/-- What a usage error ends the command with. -/
def UsageError.exitCode (e : UsageError) : UInt32 := if e.isRequest then 0 else 2

end TaskFlow
