/-!
# Help texts of the command line

The texts that explain the program and its actions, in full or as a summary.
-/

namespace DurableCalc

inductive Action
  | run
  | status
  | reset
  deriving DecidableEq, Repr

namespace Action

def all : List Action := [.run, .status, .reset]

def word : Action → String
  | .run => "run"
  | .status => "status"
  | .reset => "reset"

def name : Action → String
  | .run => "Run"
  | .status => "Status"
  | .reset => "Reset"

def summary : Action → String
  | .run => "Run an interactive session, resuming saved state if present (default)"
  | .status => "Print the saved snapshot as JSON"
  | .reset => "Discard the saved snapshot"

end Action

namespace Usage

def programName : String := "stateful-calc"

def version : String := programName ++ " 0.1.0\n"

def ofLines (lines : List String) : String :=
  String.join (lines.map fun line => line ++ "\n")

def helpSummary : String := "Print this message or the help of the given subcommand(s)"

/-- The lines before the options, which both texts of the program share. -/
def opening : List String :=
  ["Crash-resumable command interpreter",
    "",
    "Usage: " ++ programName ++ " [OPTIONS] [COMMAND]",
    "",
    "Commands:",
    "  run     " ++ Action.run.summary,
    "  status  " ++ Action.status.summary,
    "  reset   " ++ Action.reset.summary,
    "  help    " ++ helpSummary,
    "",
    "Options:"]

def full : String :=
  ofLines (opening ++
    ["      --config <CONFIG>",
      "          Path to an optional TOML configuration file",
      "",
      "      --state <STATE>",
      "          Override the state file location",
      "",
      "      --log-format <LOG_FORMAT>",
      "          Log output format (text or json)",
      "",
      "          Possible values:",
      "          - text: Human-readable lines. Default",
      "          - json: One JSON object per event",
      "          ",
      "          [default: text]",
      "",
      "  -h, --help",
      "          Print help (see a summary with \x27-h\x27)",
      "",
      "  -V, --version",
      "          Print version"])

def brief : String :=
  ofLines (opening ++
    ["      --config <CONFIG>          Path to an optional TOML configuration file",
      "      --state <STATE>            Override the state file location",
      "      --log-format <LOG_FORMAT>  Log output format (text or json) [default: text] " ++
        "[possible values: text, json]",
      "  -h, --help                     Print help (see more with \x27--help\x27)",
      "  -V, --version                  Print version"])

def ofAction (a : Action) : String :=
  ofLines
    [a.summary,
      "",
      "Usage: " ++ programName ++ " " ++ a.word,
      "",
      "Options:",
      "  -h, --help  Print help"]

def ofHelp : String :=
  ofLines
    [helpSummary,
      "",
      "Usage: " ++ programName ++ " help [COMMAND]...",
      "",
      "Arguments:",
      "  [COMMAND]...  Print help for the subcommand(s)"]

end Usage

end DurableCalc
