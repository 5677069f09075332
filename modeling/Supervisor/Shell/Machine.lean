import Supervisor.Shell.Expansion
import Supervisor.Shell.Reader
import Supervisor.Shell.Streams
import Supervisor.Shell.Tools

/-!
# Programs at work

A program as a machine: a stack of what is still to be done, the parameters and streams it works
with, and the input it has been given and not read yet. A machine takes one step at a time, stops
where it has to wait for input or for a time, and has ended when its stack is empty.
-/

namespace Supervisor.Shell

/-- What a nested script has for itself. -/
structure Scope where
  bindings : NameMap String := .empty
  /-- The name of the script and its arguments. -/
  parameters : List String := ["sh"]
  directory : Place
  streams : Streams := {}

/-- What words are expanded for. -/
inductive Goal where
  | invoke (i : Invocation)
  | redirected (body : Command) (redirections : List Redirection)
  | each (name : String) (items : List Word) (body : Command)
  | choice (subject : Word) (arms : List (List Word × Command))

namespace Goal

/-- The words of redirections. -/
def paths (rs : List Redirection) : List Word :=
  rs.filterMap fun
    | .readFrom w | .writeTo _ _ w => some w
    | .join .. => none

/-- The words in the order in which they are expanded. -/
def words : Goal → List Word
  | invoke i => i.words ++ i.assignments.map (·.2) ++ paths i.redirections
  | redirected _ rs => paths rs
  | each _ items _ => items
  | choice subject _ => [subject]

/-- The scripts whose output the words need. -/
def scripts (g : Goal) : List String := g.words.flatMap Word.scripts

end Goal

/-- Something still to be done. -/
inductive Frame where
  | run (c : Command)
  /-- A command to be run in a scope of its own. -/
  | enclose (c : Command) (scope : Scope)
  /-- To be run only after a success, or only after a failure. -/
  | guarded (success : Bool) (c : Command)
  | negate
  | branch (success failure : Command)
  /-- A loop's condition has been run; the status of its last round is kept. -/
  | test (success : Bool) (condition body : Command) (last : Nat)
  /-- A loop's body has been run. -/
  | again (success : Bool) (condition body : Command)
  | each (name : String) (items : List String) (body : Command)
  | expand (goal : Goal) (scripts outputs : List String)
  /-- A script has been run for its output. -/
  | collect (goal : Goal) (scripts outputs : List String) (scope : Scope)
  /-- The first part of a pipeline has been run. -/
  | feed (second : Command) (scope : Scope)
  /-- A nested script has been run; the input it has read may be that of its surroundings. -/
  | leave (scope : Scope) (sharesInput : Bool)
  /-- Redirected streams, and parameters assigned for one command, go back to what they were. -/
  | restore (streams : Streams) (input : Bool) (bindings : List (String × Option String))
  | copy (limit : Limit)
  | readLine (escapes : Bool) (names : List String)
  | sleep (due : Nat)

namespace Frame

/-- A nested script ends here. -/
def isBoundary : Frame → Bool
  | collect .. | feed .. | leave .. => true
  | _ => false

/-- A loop goes on here. -/
def isLoop : Frame → Bool
  | again .. | each .. => true
  | _ => false

end Frame

structure Machine where
  /-- The number the program knows itself by. -/
  id : Nat
  scope : Scope
  frames : List Frame
  /-- The exit status of the last command. -/
  status : Nat := 0
  given : List Char := []
  buffers : List (List Char) := []
  /-- Commands in the background. They are run when the script waits for them. -/
  jobs : List (Command × Scope) := []
  killed : Bool := false

namespace Machine

/-! ## Small changes -/

def push (m : Machine) (frames : List Frame) : Machine := { m with frames := frames ++ m.frames }

def withStatus (m : Machine) (status : Nat) : Machine := { m with status }

def assign (m : Machine) (name value : String) : Machine :=
  { m with scope := { m.scope with bindings := m.scope.bindings.insert name value } }

def withStreams (m : Machine) (streams : Streams) : Machine :=
  { m with scope := { m.scope with streams } }

def withInput (m : Machine) (input : Source) : Machine :=
  m.withStreams { m.scope.streams with input }

/-- Write to a stream. -/
def emit (m : Machine) (disk : Disk) (text : List Char) : Machine × Disk :=
  match m.scope.streams.output with
  | .nowhere => (m, disk)
  | .file place => (m, disk.append place (String.ofList text))
  | .buffer i => ({ m with buffers := m.buffers.modify i (· ++ text) }, disk)

/-- Put back what was redirected, and what was assigned for one command. -/
def putBack (m : Machine) (streams : Streams) (input : Bool)
    (bindings : List (String × Option String)) : Machine :=
  { m with
    scope := { m.scope with
      streams := { streams with input := if input then streams.input else m.scope.streams.input }
      bindings := bindings.foldl (fun vs e => e.2.elim (vs.erase e.1) (vs.insert e.1))
        m.scope.bindings } }

/-- Drop what is still to be done up to a frame. -/
def unwindFrom (stop : Frame → Bool) : List Frame → Machine → Machine
  | [], m => { m with frames := [] }
  | f :: rest, m =>
    if stop f then { m with frames := f :: rest }
    else match f with
      | .restore streams input bindings =>
        unwindFrom stop rest (m.putBack streams input bindings)
      | _ => unwindFrom stop rest m

def unwind (stop : Frame → Bool) (m : Machine) : Machine := m.unwindFrom stop m.frames

/-- End the innermost script. -/
def exit (m : Machine) (status : Nat) : Machine := { m.unwind Frame.isBoundary with status }

/-- The value of a parameter without a default. -/
def plainValue (m : Machine) (name : String) : String :=
  match name with
  | "?" => Text.natural m.status
  | "$" => Text.natural m.id
  | "#" => Text.natural (m.scope.parameters.length - 1)
  | "@" | "*" => " ".intercalate m.scope.parameters.tail
  | _ =>
    match Arithmetic.ofDigits? 10 name.toList with
    | some n => m.scope.parameters.getD n ""
    | none => (m.scope.bindings.get? name).getD ""

/-- The value of a parameter; after `:-` stands what is taken for nothing. -/
def value (m : Machine) (name : String) : String :=
  match name.toList.dropWhile isNameChar with
  | ':' :: '-' :: default =>
    match m.plainValue (String.ofList (name.toList.takeWhile isNameChar)) with
    | "" => String.ofList default
    | s => s
  | _ => m.plainValue name

/-! ## Beginning commands -/

/-- Have what is run next write to a new buffer. -/
def buffered (m : Machine) : Machine :=
  { m with buffers := m.buffers ++ [[]] }.withStreams
    { m.scope.streams with output := .buffer m.buffers.length }

/-- Begin a command. -/
def enter (m : Machine) (c : Command) : Machine :=
  let expand := fun (goal : Goal) => m.push [.expand goal goal.scripts []]
  match c with
  | .nothing => m.withStatus 0
  | .invoke i => expand (.invoke i)
  | .sequence a b => m.push [.run a, .run b]
  | .guarded a success b => m.push [.run a, .guarded success b]
  | .negation a => m.push [.run a, .negate]
  | .pipeline a b => (m.push [.run a, .feed b m.scope]).buffered
  | .branch c a b => m.push [.run c, .branch a b]
  | .loop success c body => m.push [.run c, .test success c body 0]
  | .each name items body => expand (.each name items body)
  | .choice subject arms => expand (.choice subject arms)
  | .subshell body => m.push [.run body, .leave m.scope true]
  | .background body =>
    let scope := { m.scope with streams := { m.scope.streams with input := .text [] } }
    { m with jobs := m.jobs ++ [(body, scope)] }.withStatus 0
  | .redirected body rs => expand (.redirected body rs)

/-- Run a script in a scope of its own. -/
def nested (m : Machine) (script : String) (parameters : List String) : Machine :=
  match Command.ofText? script with
  | none => m.withStatus 2
  | some c =>
    let m' := m.push [.run c, .leave m.scope true]
    { m' with scope := { m'.scope with parameters } }

/-- The path that a word gives to a redirection. -/
def path? (m : Machine) (w : Word) (outputs : List String) : Option (String × List String) :=
  (Expanded.ofWord? m.value w outputs).map fun r => (Expanded.whole r.1, r.2)

/-- Apply redirections from left to right, until one fails. Files made before that stay. -/
def redirect (m : Machine) (disk : Disk) (streams : Streams) :
    List Redirection → List String → Option Streams × Disk
  | [], _ => (some streams, disk)
  | .join channel target :: rs, outputs =>
    m.redirect disk (streams.withSink channel (streams.sink target)) rs outputs
  | .readFrom w :: rs, outputs =>
    match m.path? w outputs with
    | none => (none, disk)
    | some (path, outputs) =>
      match streams.readFrom disk m.scope.directory path with
      | .ok streams => m.redirect disk streams rs outputs
      | .error _ => (none, disk)
  | .writeTo channel append w :: rs, outputs =>
    match m.path? w outputs with
    | none => (none, disk)
    | some (path, outputs) =>
      match streams.writeTo disk m.scope.directory channel append path with
      | .ok (streams, disk) => m.redirect disk streams rs outputs
      | .error _ => (none, disk)

/-- The frame that undoes redirections, and assignments to parameters. -/
def restoring (m : Machine) (streams : Streams) (assigned : List String) : Frame :=
  .restore m.scope.streams (streams.input ≠ m.scope.streams.input)
    (assigned.map fun name => (name, m.scope.bindings.get? name))

/-! ## Built-in commands -/

/-- A number of seconds with a unit, in milliseconds. -/
def duration? (s : String) : Option Nat :=
  let digits := s.toList.takeWhile fun c => c.isDigit || c == '.'
  let factor? := match s.toList.dropWhile fun c => c.isDigit || c == '.' with
    | [] | ['s'] => some 1000
    | ['m'] => some 60000
    | ['h'] => some 3600000
    | ['d'] => some 86400000
    | _ => none
  let whole := digits.takeWhile (· ≠ '.')
  let fraction := (digits.dropWhile (· ≠ '.')).drop 1
  if digits = [] ∨ fraction.contains '.' then none
  else do
    let n ← Arithmetic.ofDigits? 10 ('0' :: whole)
    let f ← Arithmetic.ofDigits? 10 ('0' :: fraction)
    let factor ← factor?
    return n * factor + (f * factor + Nat.pow 10 fraction.length - 1) / Nat.pow 10 fraction.length

/-- The exit status that an argument asks for. -/
def exitStatus? (arg : String) : Option Nat :=
  (Arithmetic.ofDigits? 10 arg.toList).bind fun n => if n < Nat.pow 2 31 then some (n % 256) else none

/-- The limit that the options of `head` set, and its files. -/
def headArguments : List String → Option (Limit × List String)
  | "-c" :: n :: files => (Arithmetic.ofDigits? 10 n.toList).map fun n => (.bytes n, files)
  | "-n" :: n :: files => (Arithmetic.ofDigits? 10 n.toList).map fun n => (.lines n, files)
  | arg :: files =>
    match arg.toList with
    | '-' :: 'c' :: n => (Arithmetic.ofDigits? 10 n).map fun n => (.bytes n, files)
    | '-' :: 'n' :: n | '-' :: n => (Arithmetic.ofDigits? 10 n).map fun n => (.lines n, files)
    | _ => some (.lines 10, arg :: files)
  | [] => some (.lines 10, [])

/-- Print the start of each file. -/
def printFiles (m : Machine) (disk : Disk) (limit : Limit) (files : List String) : Machine × Disk :=
  let effect := Effect.forEach disk files fun disk path =>
    match disk.readText m.scope.directory path with
    | .ok s => { disk, output := (limit.take s.toList).1 }
    | .error _ => { disk, status := 1 }
  (m.withStatus effect.status).emit effect.disk effect.output

/-- Send a signal to a process, which has to be the program itself. -/
def signal (m : Machine) (args : List String) : Machine :=
  let (options, targets) := match args with
    | "-s" :: name :: targets => ([name], targets)
    | option :: targets => if option.startsWith "-" then ([option], targets) else ([], args)
    | [] => ([], [])
  if targets ≠ [Text.natural m.id] then m.withStatus 1
  else if options = ["-0"] then m.withStatus 0
  else { m with frames := [], killed := true }

/-- Give the fields of a line to parameters; the last one takes the rest. -/
def assignFields (m : Machine) : List String → List Char → Machine
  | [], _ => m
  | [name], line => m.assign name (String.ofList (Arithmetic.withoutSpace line))
  | name :: names, line =>
    let line := line.dropWhile Arithmetic.isSpace
    (m.assign name (String.ofList (line.takeWhile (!Arithmetic.isSpace ·)))).assignFields names
      (line.dropWhile (!Arithmetic.isSpace ·))

/-- Go to a directory. -/
def changeDirectory (m : Machine) (disk : Disk) (path : String) : Machine :=
  match (disk.locate m.scope.directory path).toOption with
  | some place =>
    if disk.at? place = some .directory then
      { m with scope := { m.scope with directory := place } }.withStatus 0
    else m.withStatus 2
  | none => m.withStatus 2

/-- Leave the innermost loop, or its round. -/
def leaveLoop (m : Machine) (goOn : Bool) : Machine :=
  let m := (m.unwind fun f => f.isLoop || f.isBoundary).withStatus 0
  match m.frames with
  | f :: rest => if f.isLoop && !goOn then { m with frames := rest } else m
  | [] => m

/-- Commands that change the script itself; a fault in one of them ends the script. -/
def specialNames : List String :=
  [":", ".", "break", "continue", "eval", "exec", "exit", "export", "readonly", "return", "set",
    "shift", "trap", "unset"]

/-- Programs that go by a name of their own outside of scripts. -/
def programs : List String :=
  ["true", "false", "echo", "printf", "test", "[", "seq", "touch", "mkdir", "rm", "cp", "mv", "cat",
    "head", "sleep", "kill", "sh", "pwd"]

/-- Where programs are. -/
def programDirectories : List String := ["/bin/", "/usr/bin/"]

/-- The program that a name or a path leads to. -/
def program? (name : String) : Option String :=
  if name.toList.contains '/' then
    programs.find? fun p => programDirectories.any fun d => d ++ p = name
  else programs.find? (· = name)

/-- Carry out a command by its name. -/
def carryOut (now : Nat) (m : Machine) (disk : Disk) (name : String) (args : List String) :
    Machine × Disk :=
  match name with
  | "exit" | "return" =>
    match args with
    | [] => (m.exit m.status, disk)
    | arg :: _ => (m.exit ((exitStatus? arg).getD 2), disk)
  | "read" =>
    let names := args.filter (!·.startsWith "-")
    if names = [] then (m.withStatus 2, disk)
    else (m.push [.readLine (!args.contains "-r") names], disk)
  | "break" => (m.leaveLoop false, disk)
  | "continue" => (m.leaveLoop true, disk)
  | "cd" => (m.changeDirectory disk (args.headD "."), disk)
  | "pwd" => (m.withStatus 0).emit disk ('/' :: m.scope.directory.key.toList ++ ['\n'])
  | "export" | "readonly" =>
    (args.foldl (fun m arg =>
      match Command.assignment? [.text arg false] with
      | some (name, [.text value _]) => m.assign name value
      | some (name, _) => m.assign name ""
      | none => m) (m.withStatus 0), disk)
  | "unset" =>
    let bindings := args.foldl NameMap.erase m.scope.bindings
    ({ m with scope := { m.scope with bindings } }.withStatus 0, disk)
  | "shift" =>
    let parameters := m.scope.parameters.take 1 ++ m.scope.parameters.drop 2
    ({ m with scope := { m.scope with parameters } }.withStatus 0, disk)
  | "set" =>
    let parameters := match args with
      | "--" :: values => m.scope.parameters.take 1 ++ values
      | _ => m.scope.parameters
    ({ m with scope := { m.scope with parameters } }.withStatus 0, disk)
  | "trap" => (m.withStatus 0, disk)
  | "wait" =>
    let frames := m.jobs.map fun (c, scope) => Frame.enclose c scope
    (({ m with jobs := [] }.push frames).withStatus 0, disk)
  | "." =>
    match (disk.readText m.scope.directory (args.headD "")).toOption.bind Command.ofText? with
    | some c => (m.push [.run c], disk)
    | none => (m.exit 2, disk)
  | "eval" =>
    match Command.ofText? (" ".intercalate args) with
    | some c => (m.push [.run c], disk)
    | none => (m.exit 2, disk)
  | "sh" =>
    match args with
    | "-c" :: script :: parameters => (m.nested script (if parameters = [] then ["sh"] else parameters), disk)
    | path :: _ =>
      match disk.readText m.scope.directory path with
      | .ok script => (m.nested script args, disk)
      | .error _ => (m.withStatus 2, disk)
    | [] => (m.withStatus 0, disk)
  | "kill" => (m.signal args, disk)
  | "sleep" =>
    match args.mapM duration? with
    | some (d :: ds) => (m.push [.sleep (ds.foldl (· + ·) (now + d))], disk)
    | _ => (m.withStatus 1, disk)
  | "cat" =>
    let files := args.filter (· ≠ "-")
    if files = [] then (m.push [.copy .all], disk) else m.printFiles disk .all files
  | "head" =>
    match headArguments args with
    | some (limit, []) => (m.push [.copy limit], disk)
    | some (limit, files) => m.printFiles disk limit files
    | none => (m.withStatus 1, disk)
  | _ =>
    match Tool.run? disk m.scope.directory name args with
    | some effect => (m.withStatus effect.status).emit effect.disk effect.output
    | none => (m.withStatus 127, disk)

/-- Carry out a command by a name or a path. -/
def call (now : Nat) (m : Machine) (disk : Disk) (name : String) (args : List String) :
    Machine × Disk :=
  if name.toList.contains '/' then
    match program? name with
    | some p => m.carryOut now disk ((Disk.parts p).getLastD p) args
    | none => (m.withStatus (if disk.pathExists m.scope.directory name then 126 else 127), disk)
  else m.carryOut now disk name args

/-- Give the values of assignments to their parameters. -/
def assignAll (m : Machine) : List (String × Word) → List String → Option (Machine × List String)
  | [], outputs => some (m, outputs)
  | (name, w) :: rest, outputs => do
    let (expanded, outputs) ← Expanded.ofWord? m.value w outputs
    (m.assign name (Expanded.whole expanded)).assignAll rest outputs

/-- Begin an invocation whose nested scripts have been run. -/
def invoke (now : Nat) (m : Machine) (disk : Disk) (i : Invocation) (outputs : List String) :
    Machine × Disk :=
  match fieldsOf? m.value i.words outputs with
  | none => (m.exit 2, disk)
  | some (fields, outputs) =>
    match m.assignAll i.assignments outputs with
    | none => (m.exit 2, disk)
    | some (assigned, outputs) =>
      let special := fields.head?.any specialNames.contains
      match assigned.redirect disk m.scope.streams i.redirections outputs with
      | (none, disk) => (if special then m.exit 2 else m.withStatus 2, disk)
      | (some streams, disk) =>
        let undo := m.restoring streams (if special then [] else i.assignments.map (·.1))
        match fields with
        | [] => (assigned.withStatus (if i.words = [] ∧ outputs = [] then m.status else 0), disk)
        | "exec" :: [] => ((assigned.withStreams streams).withStatus 0, disk)
        | "exec" :: name :: args =>
          ((m.unwind Frame.isBoundary).withStreams streams).call now disk name args
        | name :: args =>
          let ready := if i.redirections = [] ∧ i.assignments = [] then assigned
            else (assigned.push [undo]).withStreams streams
          ready.call now disk name args

/-- Go on with a goal whose nested scripts have been run. -/
def reach (now : Nat) (m : Machine) (disk : Disk) (goal : Goal) (outputs : List String) :
    Machine × Disk :=
  match goal with
  | .invoke i => m.invoke now disk i outputs
  | .redirected body rs =>
    match m.redirect disk m.scope.streams rs outputs with
    | (none, disk) => (m.withStatus 2, disk)
    | (some streams, disk) =>
      ((m.push [.run body, m.restoring streams []]).withStreams streams, disk)
  | .each name items body =>
    match fieldsOf? m.value items outputs with
    | some (fields, _) => ((m.push [.each name fields body]).withStatus 0, disk)
    | none => (m.exit 2, disk)
  | .choice subject arms =>
    match Expanded.ofWord? m.value subject outputs with
    | none => (m.exit 2, disk)
    | some (expanded, _) =>
      let cs := (Expanded.whole expanded).toList
      let fits := fun (w : Word) =>
        ((Expanded.ofWord? m.value w []).map fun r => matchesPattern (patternOf r.1) cs).getD false
      match arms.find? fun arm => arm.1.any fits with
      | some arm => (m.push [.run arm.2], disk)
      | none => (m.withStatus 0, disk)

/-! ## Steps -/

/-- Take the last buffer away, without the ends of lines at its end. -/
def takeBuffer (m : Machine) : Machine × List Char :=
  ({ m with buffers := m.buffers.dropLast }, m.buffers.getLastD [])

/-- Go back to an outer scope with the input that is left. -/
def goBack (m : Machine) (scope : Scope) : Machine :=
  { m with scope := { scope with streams := { scope.streams with input := m.scope.streams.input } } }

/-- Copy what there is of the input. -/
def copy (m : Machine) (disk : Disk) (limit : Limit) : Machine × Disk :=
  match m.scope.streams.input with
  | .given =>
    let (taken, left, limit) := limit.take m.given
    let m := { m with given := left }
    (if limit.isSpent then m.withStatus 0 else m.push [.copy limit]).emit disk taken
  | .text rest =>
    let (taken, left, _) := limit.take rest
    ((m.withInput (.text left)).withStatus 0).emit disk taken

/-- Read a line. At the end of a text there may be none, and what is left is taken for one. -/
def readLine (m : Machine) (escapes : Bool) (names : List String) : Machine :=
  match m.scope.streams.input with
  | .given =>
    match splitLine escapes m.given with
    | some (line, rest) => ({ m with given := rest }.assignFields names line).withStatus 0
    | none => m.push [.readLine escapes names]
  | .text rest =>
    match splitLine escapes rest with
    | some (line, rest) => ((m.withInput (.text rest)).assignFields names line).withStatus 0
    | none => ((m.withInput (.text [])).assignFields names rest).withStatus 1

/-- Do what is on top of the stack. -/
def step (now : Nat) (m : Machine) (disk : Disk) : Machine × Disk :=
  match m.frames with
  | [] => (m, disk)
  | frame :: rest =>
    let m := { m with frames := rest }
    match frame with
    | .run c => (m.enter c, disk)
    | .enclose c scope => ({ m with scope }.push [.run c, .leave m.scope false], disk)
    | .guarded success c => (if (m.status == 0) == success then m.push [.run c] else m, disk)
    | .negate => (m.withStatus (if m.status = 0 then 1 else 0), disk)
    | .branch success failure => (m.push [.run (if m.status = 0 then success else failure)], disk)
    | .test success condition body last =>
      (if (m.status == 0) == success then m.push [.run body, .again success condition body]
        else m.withStatus last, disk)
    | .again success condition body =>
      (m.push [.run condition, .test success condition body m.status], disk)
    | .each _ [] _ => (m, disk)
    | .each name (item :: items) body =>
      ((m.assign name item).push [.run body, .each name items body], disk)
    | .expand goal [] outputs => m.reach now disk goal outputs
    | .expand goal (script :: scripts) outputs =>
      match Command.ofText? script with
      | some c => ((m.push [.run c, .collect goal scripts outputs m.scope]).buffered, disk)
      | none => (m.exit 2, disk)
    | .collect goal scripts outputs scope =>
      let (m, text) := m.takeBuffer
      let output := (text.reverse.dropWhile (· = '\n')).reverse
      ((m.goBack scope).push [.expand goal scripts (outputs ++ [String.ofList output])], disk)
    | .feed second scope =>
      let (m, text) := m.takeBuffer
      let outer := (m.goBack scope).scope
      let m := { m with scope := outer }.push [.run second, .leave outer false]
      (m.withInput (.text text), disk)
    | .leave scope true => (m.goBack scope, disk)
    | .leave scope false => ({ m with scope }, disk)
    | .restore streams input bindings => (m.putBack streams input bindings, disk)
    | .copy limit => m.copy disk limit
    | .readLine escapes names => (m.readLine escapes names, disk)
    | .sleep _ => (m.withStatus 0, disk)

/-- The program has ended. -/
def isOver (m : Machine) : Bool := m.frames.isEmpty

/-- The exit code of a program that has ended; one that was killed has none of its own. -/
def exitCode (m : Machine) : Int := if m.killed then -1 else m.status

/-- The program cannot go on before it is given more input. -/
def isStarved (m : Machine) : Bool :=
  match m.scope.streams.input, m.frames with
  | .given, .copy limit :: _ => m.given.isEmpty && !limit.isSpent
  | .given, .readLine escapes _ :: _ => (splitLine escapes m.given).isNone
  | _, _ => false

/-- When the program can go on by itself; at once, as a rule. -/
def due? (m : Machine) : Option Nat :=
  match m.frames with
  | [] => none
  | .sleep due :: _ => some due
  | _ => if m.isStarved then none else some 0

/-- Take steps while the program can go on, but not more than given. -/
def run : Nat → Nat → Machine → Disk → Machine × Disk
  | 0, _, m, disk => (m, disk)
  | fuel + 1, now, m, disk =>
    if m.due?.any (· ≤ now) then
      let (m, disk) := m.step now disk
      run fuel now m disk
    else (m, disk)

/-- Start a program with its arguments, if there is one of the name. -/
def start? (id : Nat) (directory : Place) : List String → Option Machine
  | [] => none
  | name :: args =>
    if (name :: args).any (·.toList.contains '\x00') then none
    else (program? name).map fun p =>
      let i : Invocation := { words := (p :: args).map fun s => [.text s true] }
      { id, scope := { directory }, frames := [.expand (.invoke i) [] []] }

end Machine

end Supervisor.Shell
