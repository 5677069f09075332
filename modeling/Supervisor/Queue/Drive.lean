import Supervisor.Queue.Basic

/-!
# Driving a queue

Scanning again and again, where every launch ends at once in a way known beforehand.
-/

namespace Supervisor.Queue

/-- One scan and the writes that the ends of its launches call for. -/
structure Round where
  pass : Pass
  completed : List StatusWrite
  deriving DecidableEq, Repr

/-- The end of a command of which it is known whether it fails. -/
def outcome (fails : String → Bool) (name : String) : Outcome :=
  if fails name then .failed else .succeeded

/-- Note the ends of launches, in order. -/
def completeAll (fails : String → Bool) : Queue → List Launch → Queue × List StatusWrite
  | q, [] => (q, [])
  | q, l :: rest =>
    let (q, write) := q.complete l.name (outcome fails l.name)
    let (q, writes) := completeAll fails q rest
    (q, write.toList ++ writes)

/-- Scan until there is nothing to do, but not more often than given. -/
def drive (m : Manifest) (fails : String → Bool) : Nat → Queue → Queue × List Round
  | 0, q => (q, [])
  | rounds + 1, q =>
    let (q, pass) := q.scan m
    if pass.isIdle then (q, [])
    else
      let (q, completed) := completeAll fails q pass.launches
      let (q, later) := drive m fails rounds q
      (q, ⟨pass, completed⟩ :: later)

end Supervisor.Queue
