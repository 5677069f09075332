import Supervisor.Manifest.Basic

/-!
# Summaries of manifests

What a manifest would have a supervisor do, line by line: its header, then every command in order of
names, with its policy, its needs and its procedures.
-/

namespace Supervisor

/-- What is said about waiting for a procedure. -/
def Wait.listed : Wait → String
  | unsaid => ""
  | said true => " wait=true"
  | said false => " wait=false"
  | delayed seconds => " wait=" ++ Text.natural seconds ++ "s"

/-- A procedure on one line. -/
def Procedure.listed (p : Procedure) : String :=
  "[" ++ p.id ++ "] " ++ p.mode.text ++ " " ++ p.data.listed ++ p.wait.listed ++
    if p.ignoreFailure then " ignore_failure" else ""

/-- The lines of a command. -/
def Command.listed (c : Command) : List String :=
  ["  - " ++ c.name, "      run: " ++ c.policy.title] ++
    (if c.needs = [] then [] else ["      needs: " ++ Text.quotedList c.needs]) ++
    c.procedures.map fun p => "      " ++ p.listed

namespace Manifest

/-- The lines of the header. -/
def header (m : Manifest) : List String :=
  ["  name = " ++ m.name, "  version = " ++ m.version.getD "(none)"] ++
    m.init.toList.map ("  init = " ++ ·)

/-- The lines of a manifest. -/
def summaryLines (m : Manifest) : List String :=
  ["scrolld dry-run"] ++ m.header ++
    ["", "commands (" ++ Text.natural m.commands.toList.length ++ "):"] ++
    m.commands.toList.flatMap fun e => e.2.listed

def summary (m : Manifest) : String := String.join (m.summaryLines.map (· ++ "\n"))

end Manifest

end Supervisor
