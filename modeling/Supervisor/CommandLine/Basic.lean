import Supervisor.Logging.Level

/-!
# The command line

What the arguments of the program ask for. Arguments are taken from left to right; the value of an
option is judged when the next argument that is not its value has been recognised, or at the end.
-/

namespace Supervisor.CommandLine

structure Arguments where
  manifest : String := "scroll.toml"
  statusFile : Option String := none
  ignoreVersion : Bool := false
  /-- Keep statuses in memory only. -/
  noPersist : Bool := false
  /-- End when every queued command has finished. -/
  once : Bool := false
  dryRun : Bool := false
  logLevel : Option Logging.Level := none
  commands : List String := []
  deriving DecidableEq, Repr, Inhabited

/-- Why the arguments ask for no work. -/
inductive Refusal where
  /-- The full help, or its summary. -/
  | help (full : Bool)
  | version
  | invalidValue
  /-- An option is given twice. -/
  | conflict
  /-- A switch is given a value. -/
  | tooManyValues
  | unknownArgument
  deriving DecidableEq, Repr

/-- An option without a value. -/
inductive Switch where
  | ignoreVersion
  | noPersist
  | once
  | dryRun
  | help (full : Bool)
  | version
  deriving DecidableEq, Repr

/-- An option with a value. -/
inductive Setting where
  | manifest
  | statusFile
  | logLevel
  deriving DecidableEq, Repr

inductive OptionName where
  | switch (s : Switch)
  | setting (s : Setting)
  deriving DecidableEq, Repr

/-- The option that goes by a name of more than one letter. -/
def longName? (name : String) : Option OptionName :=
  match name with
  | "manifest" => some (.setting .manifest)
  | "status-file" => some (.setting .statusFile)
  | "ignore-version" => some (.switch .ignoreVersion)
  | "no-persist" => some (.switch .noPersist)
  | "once" => some (.switch .once)
  | "log-level" => some (.setting .logLevel)
  | "dry-run" => some (.switch .dryRun)
  | "help" => some (.switch (.help true))
  | "version" => some (.switch .version)
  | _ => none

/-- The option that goes by a letter. -/
def letter? : Char → Option Switch
  | 'h' => some (.help false)
  | 'V' => some .version
  | _ => none

/-- What the arguments so far have said. -/
structure Progress where
  arguments : Arguments := {}
  given : List OptionName := []
  /-- The last option, if it takes a value, and its value if that has come. -/
  pending : Option (Setting × Option String) := none
  /-- Only command names follow. -/
  trailing : Bool := false

namespace Progress

/-- Take note of an option, which may be given only once. -/
def note (p : Progress) (name : OptionName) : Except Refusal Progress :=
  if name ∈ p.given then .error .conflict else .ok { p with given := name :: p.given }

/-- Give a setting its value. -/
def assign (p : Progress) (setting : Setting) (value : String) : Except Refusal Progress := do
  let p ← p.note (.setting setting)
  match setting with
  | .manifest => return { p with arguments.manifest := value }
  | .statusFile => return { p with arguments.statusFile := some value }
  | .logLevel =>
    match Logging.Level.ofWord? value with
    | some level => return { p with arguments.logLevel := some level }
    | none => throw .invalidValue

/-- Judge the value of the last option. -/
def settle (p : Progress) : Except Refusal Progress :=
  match p.pending with
  | none => .ok p
  | some (_, none) => .error .invalidValue
  | some (setting, some value) => { p with pending := none }.assign setting value

/-- Turn a switch on. -/
def turnOn (p : Progress) (switch : Switch) : Except Refusal Progress := do
  let p ← p.settle
  match switch with
  | .help full => throw (.help full)
  | .version => throw .version
  | _ =>
    let p ← p.note (.switch switch)
    match switch with
    | .ignoreVersion => return { p with arguments.ignoreVersion := true }
    | .noPersist => return { p with arguments.noPersist := true }
    | .once => return { p with arguments.once := true }
    | .dryRun => return { p with arguments.dryRun := true }
    | .help _ | .version => return p

/-- An argument that begins with two dashes, as its name and what follows an equals sign. -/
def long (p : Progress) (name : String) (attached : Option String) : Except Refusal Progress :=
  match longName? name, attached with
  | none, _ => .error .unknownArgument
  | some (.switch _), some _ => .error .tooManyValues
  | some (.switch switch), none => p.turnOn switch
  | some (.setting setting), some value => do (← p.settle).assign setting value
  | some (.setting setting), none => do
    let p ← p.settle
    return { p with pending := some (setting, none) }

/-- The letters after a single dash, one switch each. -/
def letters (p : Progress) : List Char → Except Refusal Progress
  | [] => .ok p
  | c :: rest =>
    match letter? c with
    | none => .error .unknownArgument
    | some switch => do (← p.turnOn switch).letters rest

/-- The name of a command. -/
def name (p : Progress) (arg : String) : Except Refusal Progress := do
  let p ← p.settle
  return { p with arguments.commands := p.arguments.commands ++ [arg] }

/-- The name and the attached value of what follows two dashes. -/
def splitAttached (cs : List Char) : String × Option String :=
  let rest := cs.dropWhile (· ≠ '=')
  (String.ofList (cs.takeWhile (· ≠ '=')),
    if rest = [] then none else some (String.ofList (rest.drop 1)))

/-- Take one argument. -/
def take (p : Progress) (arg : String) : Except Refusal Progress :=
  if p.trailing then p.name arg
  else match arg.toList with
    | ['-', '-'] => .ok { p with trailing := true }
    | '-' :: '-' :: cs => p.long (splitAttached cs).1 (splitAttached cs).2
    | '-' :: c :: cs => p.letters (c :: cs)
    | _ =>
      match p.pending with
      | some (setting, none) => .ok { p with pending := some (setting, some arg) }
      | _ => p.name arg

end Progress

/-- What the arguments ask for. -/
def read (args : List String) : Except Refusal Arguments := do
  let p ← args.foldlM Progress.take {}
  return (← p.settle).arguments

end Supervisor.CommandLine
