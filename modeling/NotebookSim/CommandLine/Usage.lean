import NotebookSim.CommandLine.Arguments
/-!
What is told to a user whose arguments are no command, or who asks for help.
-/
namespace NotebookSim.CommandLine

def versionLine : String := "sagesim 0.1.0\n"

def usageText : String :=
  "Simulates notebook instances, lifecycle configurations, models and tags.\n\n" ++
  "Usage: sagesim [OPTIONS] <COMMAND>\n\n" ++
  "Commands:\n" ++
  "  run <SCRIPT> [--account ID] [--region NAME] [--fail-fast] [--metrics]\n" ++
  "  config validate\n" ++
  "  config show [--section NAME]\n" ++
  "  instance-types\n" ++
  "  help\n\n" ++
  "Options:\n" ++
  "  -c, --config PATH    configuration file [default: " ++ defaultConfigPath ++ "]\n" ++
  "  --log-level LEVEL    overrides the configured log level\n" ++
  "  --output FORMAT      text or json [default: text]\n" ++
  "  -h, --help           shows this text\n" ++
  "  -V, --version        shows the version\n"

def explanation : UsageError → String
  | .missingArgument => "a required argument is missing"
  | .unknownArgument => "an argument is not known"
  | .unknownCommand => "the command is not known"
  | .invalidValue => "an option or argument has no value, or one that it cannot take"
  | .unneededValue => "a switch is given a value"
  | .repeated => "an option is given twice"
  | .noArguments => "no command is given"
  | .noCommand => "no command is given"
  | .help => ""
  | .version => ""

/-- The text for the user, to be written to the output when it was asked for. -/
def told : UsageError → String
  | .help => usageText
  | .version => versionLine
  | .noArguments => usageText
  | e => "error: " ++ explanation e ++ "\n\n" ++ usageText

end NotebookSim.CommandLine
