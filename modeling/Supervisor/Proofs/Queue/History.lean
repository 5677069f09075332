import Supervisor.Queue.Basic

/-!
# Histories of a queue

What is done to a queue, one act after another, and the record that is kept of it. A history lists
its acts with the latest first, so what lies before an act is the rest of the list. Each act carries
the answer it was given; the writes of the answers, carried out in order, make the record. Only the
end of a command that runs can be noted; nothing else is assumed of those who act.
-/

namespace Supervisor

/-- The record once writes have been carried out, in order. -/
def Record.keep (r : Record) (writes : List StatusWrite) : Record :=
  writes.foldl (fun r w => r.setStatus w.name w.status) r

namespace Queue

/-- Something done to a queue, with the answer. -/
inductive Act where
  | accepted (name : String) (write : Option StatusWrite)
  | refused (name : String) (fault : Fault)
  | scanned (pass : Pass)
  | ended (name : String) (outcome : Outcome) (write : Option StatusWrite)
  | evicted (names : List String)

namespace Act

def writes : Act → List StatusWrite
  | accepted _ write => write.toList
  | scanned pass => pass.writes
  | ended _ _ write => write.toList
  | refused .. | evicted _ => []

/-- The commands that the act sets running. -/
def launches : Act → List Launch
  | scanned pass => pass.launches
  | _ => []

/-- The commands whose entries the act may change. -/
def touched : Act → List String
  | accepted name _ => [name]
  | refused .. => []
  | scanned pass => pass.discovered ++ pass.launches.map Launch.name
  | ended name .. => [name]
  | evicted names => names

end Act

/-- One act that a queue admits, and the queue it leaves. -/
inductive Step (m : Manifest) (q : Queue) : Act → Queue → Prop
  | accept (name : String) (persist : Bool) {q' : Queue} {write : Option StatusWrite}
      (h : q.enqueue m name persist = .ok (q', write)) : Step m q (.accepted name write) q'
  | refuse (name : String) (persist : Bool) {fault : Fault}
      (h : q.enqueue m name persist = .error fault) : Step m q (.refused name fault) q
  | scan : Step m q (.scanned (q.scan m).2) (q.scan m).1
  | complete (name : String) (outcome : Outcome) (h : q.statusOf name = some .running) :
      Step m q (.ended name outcome (q.complete name outcome).2) (q.complete name outcome).1
  | evict : Step m q (.evicted q.evict.2) q.evict.1

/-- Acts one after another, the latest first. -/
inductive Steps (m : Manifest) (q₀ : Queue) : List Act → Queue → Prop
  | none : Steps m q₀ [] q₀
  | more {past : List Act} {act : Act} {q q' : Queue} (earlier : Steps m q₀ past q)
      (step : Step m q act q') : Steps m q₀ (act :: past) q'

/-- The queue with which a supervisor begins that finds a record. -/
def restored (m : Manifest) (record : Record) : Queue := (restore .empty m record).1

/-- The record after a history, the latest act first. -/
def recordAfter (first : Record) : List Act → Record
  | [] => first
  | act :: past => (recordAfter first past).keep act.writes

/-- Lives of supervisors over one manifest, the latest first, each with its history. The next one
begins with the record the last one left, wherever that one was cut off. -/
inductive Lives (m : Manifest) (first : Record) : List (List Act) → Queue → Prop
  | begin {acts : List Act} {q : Queue} (h : Steps m (restored m first) acts q) :
      Lives m first [acts] q
  | resume {lives : List (List Act)} {acts : List Act} {q q' : Queue} (earlier : Lives m first lives q)
      (h : Steps m (restored m (recordAfter first lives.flatten)) acts q') :
      Lives m first (acts :: lives) q'

/-! ## Runs as histories -/

/-- What lies before a point of a history is a history. -/
theorem Steps.before {m : Manifest} {q₀ q : Queue} {later earlier : List Act}
    (h : Steps m q₀ (later ++ earlier) q) : ∃ q', Steps m q₀ earlier q' := by
  induction later generalizing q with
  | nil => exact ⟨q, h⟩
  | cons act later ih =>
    cases h with
    | more past _ => exact ih past

/-- What every act keeps is kept by every history. -/
theorem Steps.keeps {m : Manifest} {P : Queue → Prop} {q₀ q : Queue} {acts : List Act}
    (kept : ∀ {q q' : Queue} {act : Act}, Step m q act q' → P q → P q')
    (h : Steps m q₀ acts q) (start : P q₀) : P q := by
  induction h with
  | none => exact start
  | more _ step ih => exact kept step ih

theorem recordAfter_append (first : Record) (acts past : List Act) :
    recordAfter first (acts ++ past) = recordAfter (recordAfter first past) acts := by
  induction acts with
  | nil => rfl
  | cons act acts ih => rw [List.cons_append, recordAfter, ih, recordAfter]

end Queue

/-! ## Statuses of a record under writes -/

namespace Record

theorem keep_append (r : Record) (writes more : List StatusWrite) :
    r.keep (writes ++ more) = (r.keep writes).keep more := List.foldl_append ..

end Record

end Supervisor
