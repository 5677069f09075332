import Supervisor.CommandLine.Help
import Supervisor.Daemon

/-!
# The program

What its surroundings see of the program: an exit code, what it prints, what it complains of, and
what has become of the disk.
-/

namespace Supervisor

structure Exit where
  code : Nat
  printed : String
  complaint : Option String := none
  disk : Disk

namespace Program

/-- What is said of the fault that ends the program. -/
def complaint (fault : Fault) : String := "scrolld error: " ++ fault.message

/-- The end of a daemon as the end of the program. -/
def exitOf (e : Ended) : Exit :=
  match e.result with
  | .ok () => { code := 0, printed := e.printed, disk := e.disk }
  | .error fault =>
    { code := 1, printed := e.printed, complaint := some (complaint fault), disk := e.disk }

/-- The end of the program where the command line asks for no work. -/
def exitOfRefusal (disk : Disk) (r : CommandLine.Refusal) : Exit :=
  { code := r.exitCode, printed := r.output, disk }

/-- Run the program with arguments in a directory. -/
def run (disk : Disk) (directory : Place) (argv : List String) (interrupt : Option Interrupt) : Exit :=
  match CommandLine.read argv with
  | .error r => exitOfRefusal disk r
  | .ok args => exitOf (Daemon.run disk directory args interrupt)

end Program

end Supervisor
