import Supervisor.CommandLine.Basic

/-!
# Help texts
-/

namespace Supervisor.CommandLine

/-- One option with its summary, its full description and the lines about its values. -/
structure Entry where
  heading : String
  summary : String
  full : List String
  values : List String

def entries : List Entry := [
  { heading := "    --manifest <PATH>"
    summary := "Path to the manifest (TOML)"
    full := ["Path to the manifest (TOML)"]
    values := ["[default: scroll.toml]"] },
  { heading := "    --status-file <PATH>"
    summary := "Path to the JSON status file"
    full := ["Path to the JSON status file.", "Default: `scroll-lock.json` next to the manifest."]
    values := [] },
  { heading := "    --ignore-version"
    summary := "Accept a status file written for another manifest name/version"
    full := ["Accept a status file written for another manifest name/version"]
    values := [] },
  { heading := "    --no-persist"
    summary := "Keep statuses in memory only; nothing is written to disk"
    full := ["Keep statuses in memory only; nothing is written to disk"]
    values := [] },
  { heading := "    --once"
    summary := "Exit once every queued command has finished instead of supervising until Ctrl-C"
    full := ["Exit once every queued command has finished instead of supervising until Ctrl-C"]
    values := [] },
  { heading := "    --log-level <LEVEL>"
    summary := "Logging level (error, warn, info, debug, trace)"
    full := ["Logging level (error, warn, info, debug, trace).",
      "If omitted, `SCROLLD_LOG` or a default level will be used."]
    values := ["[possible values: error, warn, info, debug, trace]"] },
  { heading := "    --dry-run"
    summary := "Parse + validate, print the commands, but don't execute anything"
    full := ["Parse + validate, print the commands, but don't execute anything"]
    values := [] },
  { heading := "-h, --help"
    summary := "Print help (see more with '--help')"
    full := ["Print help (see a summary with '-h')"]
    values := [] },
  { heading := "-V, --version"
    summary := "Print version"
    full := ["Print version"]
    values := [] }]

def about : String := "Boot and supervise interdependent commands from a manifest.\n\n" ++
  "Usage: scrolld [OPTIONS] [COMMAND]...\n\n"

def commandsHelp : String := "Commands to enqueue at boot. Defaults to the manifest's `init`"

/-- A heading with its paragraphs below it. -/
def Entry.paragraphs (e : Entry) : String :=
  "  " ++ e.heading ++ "\n          " ++ "\n          \n          ".intercalate (e.full ++ e.values) ++ "\n"

/-- The width of the column of headings: that of the widest, and two blanks. -/
def columnWidth : Nat := (entries.map (·.heading.length)).foldl max 0 + 2

/-- A heading with its summary beside it, in two columns. -/
def Entry.row (e : Entry) : String :=
  "  " ++ e.heading ++ String.ofList (List.replicate (columnWidth - e.heading.length) ' ') ++
    " ".intercalate (e.summary :: e.values) ++ "\n"

def fullHelp : String :=
  about ++ "Arguments:\n  [COMMAND]...\n          " ++ commandsHelp ++ "\n\nOptions:\n" ++
    "\n".intercalate (entries.map Entry.paragraphs)

def summaryHelp : String :=
  about ++ "Arguments:\n  [COMMAND]...  " ++ commandsHelp ++ "\n\nOptions:\n" ++
    "".intercalate (entries.map Entry.row)

def versionText : String := "scrolld 0.1.0\n"

/-- What a refusal prints on standard output; complaints go elsewhere. -/
def Refusal.output : Refusal → String
  | .help true => fullHelp
  | .help false => summaryHelp
  | .version => versionText
  | .invalidValue | .conflict | .tooManyValues | .unknownArgument => ""

/-- The exit code that goes with it. -/
def Refusal.exitCode : Refusal → Nat
  | .help _ | .version => 0
  | .invalidValue | .conflict | .tooManyValues | .unknownArgument => 2

end Supervisor.CommandLine
