import Supervisor.Fault
import Supervisor.NameMap

/-!
# Disks

A tree of files and directories, each kept under the names that lead to it from the root. A path is
followed part by part: every part but the last has to be a directory, so a missing directory and a
file in the place of one are different faults.
-/

namespace Supervisor

/-- What a file holds: text, or bytes that are none. -/
inductive Contents where
  | text (s : String)
  | binary
  deriving DecidableEq, Repr

inductive DiskEntry where
  | file (contents : Contents)
  | directory
  deriving DecidableEq, Repr

/-- The names that lead from the root to a place. -/
abbrev Place := List String

/-- The place as one name: its parts with slashes between them. -/
def Place.key (place : Place) : String := "/".intercalate place

/-- Entries by the keys of their places; the root itself is not among them. -/
structure Disk where
  entries : NameMap DiskEntry
  deriving DecidableEq, Repr

namespace Disk

def empty : Disk := ⟨.empty⟩

instance : Inhabited Disk := ⟨empty⟩

/-- What is at a place. -/
def at? (d : Disk) (place : Place) : Option DiskEntry :=
  if place = [] then some .directory else d.entries.get? place.key

def put (d : Disk) (place : Place) (entry : DiskEntry) : Disk := ⟨d.entries.insert place.key entry⟩

def remove (d : Disk) (place : Place) : Disk := ⟨d.entries.erase place.key⟩

/-- The place is a directory. -/
def requireDirectory (d : Disk) (place : Place) : Except DiskFault Unit :=
  match d.at? place with
  | some .directory => .ok ()
  | some (.file _) => .error .notADirectory
  | none => .error .notFound

/-- Follow the parts of a path. -/
def follow (d : Disk) (place : Place) : List String → Except DiskFault Place
  | [] => .ok place
  | part :: rest => do
    d.requireDirectory place
    if part = "" ∨ part = "." then d.follow place rest
    else if part = ".." then d.follow place.dropLast rest
    else d.follow (place ++ [part]) rest

/-- The parts of a path between slashes. -/
def parts (path : String) : List String := (path.toList.splitOn '/').map String.ofList

/-- The place a path names, seen from a directory. -/
def locate (d : Disk) (directory : Place) (path : String) : Except DiskFault Place :=
  if path = "" then .error .notFound
  else d.follow (if path.toList.head? = some '/' then [] else directory) (parts path)

/-- Something is where the path leads. -/
def pathExists (d : Disk) (directory : Place) (path : String) : Bool :=
  match d.locate directory path with
  | .ok place => (d.at? place).isSome
  | .error _ => false

def contents (d : Disk) (directory : Place) (path : String) : Except DiskFault Contents := do
  match d.at? (← d.locate directory path) with
  | some (.file c) => return c
  | some .directory => throw .isADirectory
  | none => throw .notFound

/-- Read a file that has to be text. -/
def readText (d : Disk) (directory : Place) (path : String) : Except DiskFault String := do
  match ← d.contents directory path with
  | .text s => return s
  | .binary => throw .invalidData

/-- The place of a file to write: its directory is there, and the place is none itself. -/
def locateFile (d : Disk) (directory : Place) (path : String) : Except DiskFault Place := do
  let place ← d.locate directory path
  d.requireDirectory place.dropLast
  match d.at? place with
  | some .directory => throw .isADirectory
  | _ => return place

/-- Write a whole file, in place of what it held. -/
def writeText (d : Disk) (directory : Place) (path text : String) : Except DiskFault Disk := do
  return d.put (← d.locateFile directory path) (.file (.text text))

/-- Make the directories on the way that are not there. -/
def makeDirectories (d : Disk) (place : Place) : List String → Except DiskFault Disk
  | [] => .ok d
  | part :: rest =>
    if part = "" ∨ part = "." then d.makeDirectories place rest
    else if part = ".." then d.makeDirectories place.dropLast rest
    else
      let next := place ++ [part]
      match d.at? next with
      | some .directory => d.makeDirectories next rest
      | some (.file _) => .error (if rest = [] then .alreadyExists else .notADirectory)
      | none => (d.put next .directory).makeDirectories next rest

/-- The parts of a path that lead to its directory. -/
def directoryParts (path : String) : List String :=
  ((parts path).reverse.dropWhile (· = "")).reverse.dropLast

/-- Make the directory that a path's file belongs in. -/
def makeParent (d : Disk) (directory : Place) (path : String) : Except DiskFault Disk :=
  d.makeDirectories (if path.toList.head? = some '/' then [] else directory) (directoryParts path)

/-- Put a file at a path, with the directories it needs. -/
def install (d : Disk) (directory : Place) (path : String) (contents : Contents) : Disk :=
  let made := (d.makeParent directory path).toOption.getD d
  match made.locate directory path with
  | .ok place => made.put place (.file contents)
  | .error _ => made

/-- Write on at the end of a file, as long as it is there. -/
def append (d : Disk) (place : Place) (text : String) : Disk :=
  match d.at? place with
  | some (.file (.text s)) => d.put place (.file (.text (s ++ text)))
  | _ => d

/-- Remove a place and everything below it. -/
def removeBelow (d : Disk) (place : Place) : Disk :=
  let lead := (place.key ++ "/").toList
  d.entries.toList.foldl (fun d e =>
    if e.1 = place.key ∨ lead.isPrefixOf e.1.toList then ⟨d.entries.erase e.1⟩ else d) d

/-- The files below a directory by their paths from it. -/
def filesBelow (d : Disk) (directory : Place) : List (String × Contents) :=
  let lead := directory.key ++ "/"
  d.entries.toList.filterMap fun e =>
    match e.2 with
    | .file c =>
      if directory = [] then some (e.1, c)
      else if lead.toList.isPrefixOf e.1.toList then
        some (String.ofList (e.1.toList.drop lead.length), c)
      else none
    | .directory => none

end Disk

/-- A place on a disk from which paths are followed. -/
def workPlace : Place := ["tmp", "work"]

/-- A disk with nothing but an empty place to work in. -/
def Disk.fresh : Disk :=
  ((Disk.empty.makeDirectories [] workPlace).toOption).getD Disk.empty

end Supervisor
