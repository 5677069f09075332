import Supervisor.Disk
import Supervisor.Shell.Arithmetic
import Supervisor.Text.Spelling

/-!
# Tools

Small programs that do their work at once: they look at the disk, change it and print, and wait for
nothing.
-/

namespace Supervisor.Shell

/-- What a tool has done. -/
structure Effect where
  disk : Disk
  output : List Char := []
  status : Nat := 0

namespace Effect

/-- A success, or the failure of a disk operation. -/
def ofResult (disk : Disk) : Except DiskFault Disk → Effect
  | .ok disk => { disk }
  | .error _ => { disk, status := 1 }

/-- Do something with each argument; one failure makes the whole fail, but the rest is still done. -/
def forEach (disk : Disk) (args : List String) (f : Disk → String → Effect) : Effect :=
  args.foldl (fun e arg =>
    let e' := f e.disk arg
    { e' with output := e.output ++ e'.output, status := max e.status e'.status }) { disk }

end Effect

namespace Tool

/-! ## Printing -/

/-- What a character after a backslash stands for. -/
def escape? : Char → Option Char
  | 'n' => some '\n'
  | 't' => some '\t'
  | 'r' => some '\r'
  | 'a' => some '\x07'
  | 'b' => some '\x08'
  | 'f' => some '\x0c'
  | 'v' => some '\x0b'
  | '\\' => some '\\'
  | _ => none

/-- A text with its escapes resolved; `\c` ends it. -/
def unescaped : List Char → List Char
  | '\\' :: 'c' :: _ => []
  | '\\' :: c :: rest =>
    match escape? c with
    | some d => d :: unescaped rest
    | none => '\\' :: c :: unescaped rest
  | c :: rest => c :: unescaped rest
  | [] => []

/-- The arguments with blanks between them and the end of a line after them. -/
def echo : List String → List Char
  | "-n" :: args => unescaped (" ".intercalate args).toList
  | args => unescaped ((" ".intercalate args).toList ++ ['\n'])

/-- One pass over a format: what it prints, and the arguments it has not used. -/
def formatOnce : List Char → List String → List Char × List String
  | '%' :: '%' :: rest, args => ('%' :: (formatOnce rest args).1, (formatOnce rest args).2)
  | '%' :: 's' :: rest, args =>
    ((args.headD "").toList ++ (formatOnce rest args.tail).1, (formatOnce rest args.tail).2)
  | '%' :: 'd' :: rest, args =>
    let n := (Arithmetic.valueOf? (args.headD "")).getD 0
    ((Text.integer n).toList ++ (formatOnce rest args.tail).1, (formatOnce rest args.tail).2)
  | '\\' :: c :: rest, args =>
    ((escape? c).elim ['\\', c] (fun d => [d]) ++ (formatOnce rest args).1, (formatOnce rest args).2)
  | c :: rest, args => (c :: (formatOnce rest args).1, (formatOnce rest args).2)
  | [], args => ([], args)

/-- A format, again and again while it uses arguments. -/
def format : Nat → List Char → List String → List Char
  | 0, _, _ => []
  | fuel + 1, cs, args =>
    let (printed, rest) := formatOnce cs args
    if rest = [] ∨ rest.length = args.length then printed else printed ++ format fuel cs rest

def printf : List String → List Char
  | [] => []
  | f :: args => format (args.length + 1) f.toList args

/-- The numbers from one to another, a line each. -/
def seq (first last : Int) : List Char :=
  (List.range (last - first + 1).toNat).flatMap fun (i : Nat) => (Text.integer (first + i)).toList ++ ['\n']

/-! ## Conditions -/

/-- A test of one operand. No stream is a terminal. -/
def testOne? (disk : Disk) (directory : Place) (operator operand : String) : Option Bool :=
  let found := (disk.locate directory operand).toOption.bind disk.at?
  match operator with
  | "-n" => some (operand ≠ "")
  | "-z" => some (operand = "")
  | "-e" => some found.isSome
  | "-f" | "-r" | "-w" => some (found.any (· ≠ .directory))
  | "-d" => some (found = some .directory)
  | "-s" => some (found.any fun e => e ≠ .directory && e ≠ .file (.text ""))
  | "-t" => some false
  | _ => none

/-- A test of two operands. -/
def testTwo? (a operator b : String) : Option Bool :=
  let compare := fun (p : Int → Int → Bool) => do
    return p (← Arithmetic.decimal? a) (← Arithmetic.decimal? b)
  match operator with
  | "=" => some (a = b)
  | "!=" => some (a ≠ b)
  | "-eq" => compare (· = ·)
  | "-ne" => compare (· ≠ ·)
  | "-lt" => compare (· < ·)
  | "-le" => compare (· ≤ ·)
  | "-gt" => compare (fun x y => y < x)
  | "-ge" => compare (fun x y => y ≤ x)
  | _ => none

/-- A condition, if it is well formed. -/
def test? (disk : Disk) (directory : Place) : List String → Option Bool
  | [] => some false
  | "!" :: arg :: args => (test? disk directory (arg :: args)).map (!·)
  | [s] => some (s ≠ "")
  | [operator, operand] => testOne? disk directory operator operand
  | [a, operator, b] => testTwo? a operator b
  | _ => none

/-- The exit status of a condition. -/
def testStatus : Option Bool → Nat
  | some true => 0
  | some false => 1
  | none => 2

/-! ## Files -/

/-- Options, and the other arguments. -/
def splitOptions (args : List String) : List Char × List String :=
  let options := args.takeWhile fun a => a.startsWith "-" && a ≠ "-"
  (options.flatMap (·.toList.drop 1), args.drop options.length)

def touch (disk : Disk) (directory : Place) (path : String) : Effect :=
  if disk.pathExists directory path then { disk }
  else .ofResult disk (disk.writeText directory path "")

/-- Make a directory; with its parents it may be there already. -/
def mkdir (parents : Bool) (disk : Disk) (directory : Place) (path : String) : Effect :=
  let start := if path.toList.head? = some '/' then [] else directory
  if parents then .ofResult disk (disk.makeDirectories start (Disk.parts path))
  else match disk.locate directory path with
    | .ok place =>
      if (disk.at? place).isSome ∨ disk.requireDirectory place.dropLast matches .error _ then
        { disk, status := 1 }
      else { disk := disk.put place .directory }
    | .error _ => { disk, status := 1 }

/-- Remove a file, or a directory with all that is in it. -/
def rm (recursive force : Bool) (disk : Disk) (directory : Place) (path : String) : Effect :=
  match (disk.locate directory path).toOption.bind fun place => (disk.at? place).map (place, ·) with
  | none => { disk, status := if force then 0 else 1 }
  | some (place, .file _) => { disk := disk.remove place }
  | some (place, .directory) =>
    if recursive then { disk := disk.removeBelow place } else { disk, status := 1 }

/-- Where a file goes: into a directory, or to a path. -/
def destination (disk : Disk) (directory : Place) (source target : String) : String :=
  match (disk.locate directory target).toOption.bind disk.at? with
  | some .directory => target ++ "/" ++ (Disk.parts source).getLastD ""
  | _ => target

def cp (disk : Disk) (directory : Place) (source target : String) : Effect :=
  .ofResult disk do
    let contents ← disk.contents directory source
    let place ← disk.locateFile directory (destination disk directory source target)
    return disk.put place (.file contents)

def mv (disk : Disk) (directory : Place) (source target : String) : Effect :=
  .ofResult disk do
    let contents ← disk.contents directory source
    let place ← disk.locateFile directory (destination disk directory source target)
    return (disk.remove (← disk.locate directory source)).put place (.file contents)

/-! ## By name -/

/-- What a tool of a name does with arguments, if there is one. -/
def run? (disk : Disk) (directory : Place) (name : String) (args : List String) : Option Effect :=
  let (options, rest) := splitOptions args
  match name with
  | "true" | ":" => some { disk }
  | "false" => some { disk, status := 1 }
  | "echo" => some { disk, output := echo args }
  | "printf" => some { disk, output := printf args, status := if args = [] then 2 else 0 }
  | "test" => some { disk, status := testStatus (test? disk directory args) }
  | "[" =>
    some { disk, status := if args.getLast? = some "]" then
      testStatus (test? disk directory args.dropLast) else 2 }
  | "seq" =>
    match args.map Arithmetic.decimal? with
    | [some last] => some { disk, output := seq 1 last }
    | [some first, some last] => some { disk, output := seq first last }
    | _ => some { disk, status := 1 }
  | "touch" => some (.forEach disk rest fun disk path => touch disk directory path)
  | "mkdir" => some (.forEach disk rest fun disk path => mkdir (options.contains 'p') disk directory path)
  | "rm" =>
    some (.forEach disk rest fun disk path =>
      rm (options.contains 'r' || options.contains 'R') (options.contains 'f') disk directory path)
  | "cp" =>
    match rest with
    | [source, target] => some (cp disk directory source target)
    | _ => some { disk, status := 1 }
  | "mv" =>
    match rest with
    | [source, target] => some (mv disk directory source target)
    | _ => some { disk, status := 1 }
  | _ => none

end Tool

end Supervisor.Shell
