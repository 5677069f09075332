import Supervisor.Disk
import Supervisor.Shell.Script

/-!
# Streams

What a running program reads from and writes to. Input is taken in parts: a part is limited by a
number of bytes or of lines, and a line may have escapes in it.
-/

namespace Supervisor.Shell

inductive Source where
  /-- What others give to the process. It never ends. -/
  | given
  | text (rest : List Char)
  deriving DecidableEq, Repr

inductive Sink where
  | nowhere
  | file (place : Place)
  /-- The buffer of this number. -/
  | buffer (index : Nat)
  deriving DecidableEq, Repr

structure Streams where
  input : Source := .given
  output : Sink := .nowhere
  errors : Sink := .nowhere
  deriving DecidableEq, Repr

namespace Streams

def sink (s : Streams) : Channel → Sink
  | .output => s.output
  | .errors => s.errors

def withSink (s : Streams) (channel : Channel) (sink : Sink) : Streams :=
  match channel with
  | .output => { s with output := sink }
  | .errors => { s with errors := sink }

/-- The file that is always empty. -/
def nullFile : String := "/dev/null"

/-- Read from a file. -/
def readFrom (s : Streams) (disk : Disk) (directory : Place) (path : String) :
    Except DiskFault Streams :=
  if path = nullFile then .ok { s with input := .text [] }
  else (disk.contents directory path).map fun
    | .text t => { s with input := .text t.toList }
    | .binary => { s with input := .text [] }

/-- Write to a file from its start or on at its end. -/
def writeTo (s : Streams) (disk : Disk) (directory : Place) (channel : Channel) (append : Bool)
    (path : String) : Except DiskFault (Streams × Disk) := do
  if path = nullFile then return (s.withSink channel .nowhere, disk)
  let place ← disk.locateFile directory path
  let disk := if append && (disk.at? place).isSome then disk else disk.put place (.file (.text ""))
  return (s.withSink channel (.file place), disk)

end Streams

/-- How much of an input is wanted. -/
inductive Limit where
  | all
  | bytes (n : Nat)
  | lines (n : Nat)
  deriving DecidableEq, Repr

namespace Limit

/-- Nothing more is wanted. -/
def isSpent (l : Limit) : Bool := l == .bytes 0 || l == .lines 0

/-- What is wanted of an input, what is left of it, and what is still wanted. -/
def take : Limit → List Char → List Char × List Char × Limit
  | l, [] => ([], [], l)
  | l, c :: rest =>
    if l.isSpent then ([], c :: rest, l)
    else match l with
      | .all => (c :: rest, [], .all)
      | .bytes n =>
        if n < c.utf8Size then ([], c :: rest, .bytes 0)
        else
          let (taken, left, l) := take (.bytes (n - c.utf8Size)) rest
          (c :: taken, left, l)
      | .lines n =>
        let (taken, left, l) := take (.lines (if c = '\n' then n - 1 else n)) rest
        (c :: taken, left, l)

end Limit

/-- A line and what follows it, if the line has ended. With escapes a backslash takes the next
character as it is, and the end of a line after it does not end the line. -/
def splitLine (escapes : Bool) : List Char → Option (List Char × List Char)
  | [] => none
  | '\\' :: c :: rest =>
    if escapes then
      (splitLine escapes rest).map fun r => (if c = '\n' then r.1 else c :: r.1, r.2)
    else if c = '\n' then some (['\\'], rest)
    else (splitLine escapes (c :: rest)).map fun r => ('\\' :: r.1, r.2)
  | c :: rest =>
    if c = '\n' then some ([], rest) else (splitLine escapes rest).map fun r => (c :: r.1, r.2)

end Supervisor.Shell
