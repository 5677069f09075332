import Supervisor.Proofs.Manifest.Validated
import Supervisor.Proofs.Queue.Soundness

/-!
# Asking for what is known

Of a known command a request is refused only while it is queued, or once it has ended for good. And
when a scan comes upon a need that is missing, then over a well-formed manifest what it asks for is
granted, however far the scan has come.
-/

namespace Supervisor.Queue

variable {m : Manifest} {q : Queue} {name need : String} {persist : Bool}

theorem enqueue_queued {command : Command} {e : Entry} (known : m.get? name = some command)
    (found : q.get? name = some e) (queued : e.status.isTerminal = false) :
    q.enqueue m name persist = .error (.alreadyQueued name) := by
  cases status : e.status with
  | waiting | running => simp [enqueue, Manifest.lookup, known, found, status, bind, Except.bind]
  | done | error =>
    rw [status] at queued
    cases queued

/-- The fault of a request that is refused to a known command. -/
theorem enqueue_known {command : Command} (known : m.get? name = some command) {fault : Fault}
    (refused : q.enqueue m name persist = .error fault) :
    fault = .alreadyQueued name ∨ fault = .alreadyCompletedOnce name := by
  rcases enqueue_eq_error refused with unknown | ⟨command', e, there, found, queued | ⟨done, once⟩⟩
  · rw [known] at unknown
    cases unknown
  · rw [enqueue_queued known found queued] at refused
    cases refused
    exact .inl rfl
  · rw [enqueue_once_done there once found done] at refused
    cases refused
    exact .inr rfl

/-- A scan of the queue has come to a need of a command that it visits. -/
inductive Looks (m : Manifest) (q : Queue) : Scan → Bool → String → Prop
  | visiting (before : List String) {after : List String} (seen : List String) {rest : List String}
      {name need : String} {e : Entry} {s : Scan} (names : q.keys = before ++ name :: after)
      (visited : before.foldl (Scan.visit m) ⟨q, {}, true⟩ = s)
      (tracked : s.queue.get? name = some e) (active : e.isActive = true)
      (needs : e.command.needs = seen ++ need :: rest) :
      Looks m q (seen.foldl (Scan.need m e.persist) { s with ready := true }) e.persist need

/-- The entries of a scan in its course are sound. -/
theorem Sound.scanKeeps (m : Manifest) (q : Queue) : ScanKeeps m q fun s _ => Sound m s where
  discover sound _ asked := sound.step (.accept _ _ asked)
  launch := by
    intro s _ name e sound _ tracked _ _ other e' found
    rw [NameMap.get?_insert] at found
    split at found
    · rename_i same
      subst same
      cases found
      have old := sound other e tracked
      exact ⟨old.known, old.kept, fun _ done => by cases done⟩
    · exact sound other e' found

theorem Looks.granted {s : Scan} (looks : Looks m q s persist need) (wf : m.WellFormed)
    (sound : Sound m q) (missing : s.queue.get? need = none) :
    ∃ answer, s.queue.enqueue m need persist = .ok answer := by
  have keeps := Sound.scanKeeps m q
  cases looks with
  | @visiting before _ seen _ name need e s names visited tracked active needs =>
    have here : Sound m s.queue := by
      subst visited
      refine keeps.visits before ⟨q, {}, true⟩ (fun other mem => ?_) sound
      exact (NameMap.mem_keys_iff q).1 (names ▸ List.mem_append_left _ mem)
    have required : m.Requires name need :=
      ⟨e.command, (here name e tracked).known, needs ▸ List.mem_append_right _ List.mem_cons_self⟩
    obtain ⟨command, known⟩ := wf.known required
    exact ⟨_, enqueue_missing known missing _⟩

end Supervisor.Queue
