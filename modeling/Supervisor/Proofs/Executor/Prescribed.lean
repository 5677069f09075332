import Supervisor.Executor

/-!
# What a list has to do

A list stops at the first procedure that hands over, or that it waits for in vain. What is to be seen
of it is what each procedure up to there calls for, in order, and nothing for those behind it; how it
ends is for the procedure where it stops to say. The answers of others decide about the place, and only
those that the list waits for.
-/

namespace Supervisor

/-- What others answer in the course of a list: to the dispatch of each procedure, by its place, and
to the request for another command. -/
structure Answers where
  dispatch : Nat → Except Fault Int
  request : Except Fault Unit

/-- A list that has waited for the procedure does not go on with this answer. -/
def Procedure.fails (p : Procedure) : Except Fault Int → Bool
  | .error _ => true
  | .ok exitCode => exitCode ≠ 0 && !p.ignoreFailure

/-- How a list ends that has waited for the procedure in vain. -/
def Procedure.failure (p : Procedure) : Except Fault Int → Except Fault Unit
  | .error fault => .error fault
  | .ok exitCode => .error (.procedureFailed p.mode exitCode)

/-- How a list ends that hands over at the procedure: a command that has completed once and for all
counts as done. -/
def Procedure.relay (p : Procedure) (answer : Except Fault Unit) : Except Fault Unit :=
  match p.data with
  | .command _ =>
    match answer with
    | .error (.alreadyCompletedOnce _) => .ok ()
    | answer => answer
  | _ => .error (.manifest (.noTarget p.id))

namespace Executor

/-- What is seen of a list; a number is the place of a procedure. -/
inductive Deed where
  /-- A procedure that the list waits for is dispatched. -/
  | begun (i : Nat)
  | ended (i : Nat)
  /-- A task of its own is spawned for the procedure. -/
  | aside (i : Nat)
  | asked (i : Nat) (target : String)
  deriving DecidableEq

/-! ## What a list has to do -/

section Prescribed

variable (procedures : List Procedure) (answers : Answers)

/-- The list does not go on behind the procedure. -/
def stops (answers : Answers) (i : Nat) (p : Procedure) : Bool :=
  p.mode = .command || p.wait.isBlocking && p.fails (answers.dispatch i)

/-- The first place where the list stops; its length if there is none. -/
def stop : Nat := procedures.zipIdx.findIdx fun e => stops answers e.2 e.1

/-- What is seen of one procedure. -/
def deeds (i : Nat) (p : Procedure) : List Deed :=
  if p.mode = .command then
    match p.data with
    | .command target => [.asked i target]
    | _ => []
  else if p.wait.isBlocking then [.begun i, .ended i]
  else [.aside i]

/-- What is seen of the procedures before a place. -/
def before (i : Nat) : List Deed := (procedures.zipIdx.take i).flatMap fun e => deeds e.2 e.1

/-- What is seen of the procedures up to where the list stops. -/
def prescribed : List Deed := before procedures (stop procedures answers + 1)

def outcome : Except Fault Unit :=
  match procedures[stop procedures answers]? with
  | none => .ok ()
  | some p =>
    if p.mode = .command then p.relay answers.request
    else p.failure (answers.dispatch (stop procedures answers))

/-- The list goes on behind every procedure before the place. -/
def Passed (i : Nat) : Prop :=
  ∀ j p, j < i → procedures[j]? = some p → stops answers j p = false

end Prescribed

variable {procedures : List Procedure} {answers : Answers} {i j : Nat} {p : Procedure}

theorem zipIdx_place (place : procedures[i]? = some p) : procedures.zipIdx[i]? = some (p, i) := by
  rw [List.getElem?_zipIdx, place, Option.map_some, Nat.zero_add]

theorem before_succ (place : procedures[i]? = some p) :
    before procedures (i + 1) = before procedures i ++ deeds i p := by
  rw [before, List.take_add_one, zipIdx_place place, List.flatMap_append]
  exact congrArg _ (List.append_nil _)

theorem before_mono (le : i ≤ j) : before procedures i <+: before procedures j := by
  obtain ⟨n, rfl⟩ := Nat.le.dest le
  rw [before, before, List.take_add, List.flatMap_append]
  exact List.prefix_append ..

theorem Passed.succ (passed : Passed procedures answers i) (place : procedures[i]? = some p)
    (goesOn : stops answers i p = false) : Passed procedures answers (i + 1) := by
  intro j q lt there
  rcases Nat.lt_succ_iff_lt_or_eq.1 lt with old | rfl
  · exact passed j q old there
  · rw [place] at there
    exact Option.some.inj there ▸ goesOn

theorem stop_le : stop procedures answers ≤ procedures.length := by
  have le : stop procedures answers ≤ procedures.zipIdx.length := List.findIdx_le_length
  rwa [List.length_zipIdx] at le

theorem passed_stop : Passed procedures answers (stop procedures answers) := by
  intro j p lt place
  obtain ⟨bound, rfl⟩ := List.getElem?_eq_some_iff.1 place
  have passed := List.not_of_lt_findIdx (p := fun e : Procedure × Nat => stops answers e.2 e.1) lt
  simpa only [List.getElem_zipIdx, Nat.zero_add] using passed

theorem stops_stop (place : procedures[stop procedures answers]? = some p) :
    stops answers (stop procedures answers) p = true := by
  obtain ⟨bound, rfl⟩ := List.getElem?_eq_some_iff.1 place
  have inside : stop procedures answers < procedures.zipIdx.length := by
    rwa [List.length_zipIdx]
  have here : stops answers procedures.zipIdx[stop procedures answers].2
      procedures.zipIdx[stop procedures answers].1 = true :=
    List.findIdx_getElem (p := fun e : Procedure × Nat => stops answers e.2 e.1) (w := inside)
  simpa only [List.getElem_zipIdx, Nat.zero_add] using here

theorem Passed.le_stop (passed : Passed procedures answers i) (bound : i ≤ procedures.length) :
    i ≤ stop procedures answers := by
  refine Nat.le_of_not_lt fun lt => ?_
  have place := List.getElem?_eq_getElem (Nat.lt_of_lt_of_le lt bound)
  have goesOn := passed _ _ lt place
  rw [stops_stop place] at goesOn
  cases goesOn

theorem Passed.stop_eq (passed : Passed procedures answers i) (place : procedures[i]? = some p)
    (here : stops answers i p = true) : stop procedures answers = i := by
  obtain ⟨bound, -⟩ := List.getElem?_eq_some_iff.1 place
  rcases Nat.lt_or_eq_of_le (passed.le_stop (Nat.le_of_lt bound)) with lt | same
  · rw [passed_stop i p lt place] at here
    cases here
  · exact same.symm

theorem Passed.stop_eq_length (passed : Passed procedures answers procedures.length) :
    stop procedures answers = procedures.length :=
  Nat.le_antisymm stop_le (passed.le_stop (Nat.le_refl _))

/-! ## Kinds of procedures -/

/-- The list waits for the procedure. -/
structure Awaited (p : Procedure) : Prop where
  mode : p.mode ≠ .command
  wait : p.wait.isBlocking = true

/-- The list sends the procedure aside. -/
structure Detached (p : Procedure) : Prop where
  mode : p.mode ≠ .command
  wait : p.wait.isBlocking = false

theorem stops_command (mode : p.mode = .command) : stops answers i p = true := by
  simp [stops, mode]

theorem stops_awaited (awaited : Awaited p) : stops answers i p = p.fails (answers.dispatch i) := by
  simp [stops, awaited.mode, awaited.wait]

theorem stops_detached (aside : Detached p) : stops answers i p = false := by
  simp [stops, aside.mode, aside.wait]

theorem deeds_awaited (awaited : Awaited p) : deeds i p = [.begun i, .ended i] := by
  simp [deeds, awaited.mode, awaited.wait]

theorem deeds_detached (aside : Detached p) : deeds i p = [.aside i] := by
  simp [deeds, aside.mode, aside.wait]

/-! ## Procedures sent aside -/

/-- The two answer alike wherever the list waits. -/
structure Alike (procedures : List Procedure) (answers other : Answers) : Prop where
  dispatch : ∀ i p, procedures[i]? = some p → Awaited p → answers.dispatch i = other.dispatch i
  request : answers.request = other.request

section Alike

variable {other : Answers} (alike : Alike procedures answers other)
include alike

theorem Alike.stops (place : procedures[i]? = some p) : stops answers i p = stops other i p := by
  by_cases mode : p.mode = .command
  · rw [stops_command mode, stops_command mode]
  · cases wait : p.wait.isBlocking with
    | false => rw [stops_detached ⟨mode, wait⟩, stops_detached ⟨mode, wait⟩]
    | true =>
      rw [stops_awaited ⟨mode, wait⟩, stops_awaited ⟨mode, wait⟩,
        alike.dispatch i p place ⟨mode, wait⟩]

theorem Alike.le : Executor.stop procedures answers ≤ Executor.stop procedures other := by
  refine Passed.le_stop (fun j p lt place => ?_) stop_le
  rw [← alike.stops place]
  exact passed_stop j p lt place

theorem Alike.symm : Alike procedures other answers where
  dispatch i p place awaited := (alike.dispatch i p place awaited).symm
  request := alike.request.symm

theorem Alike.stop : Executor.stop procedures answers = Executor.stop procedures other :=
  Nat.le_antisymm alike.le alike.symm.le

theorem Alike.outcome : outcome procedures answers = outcome procedures other := by
  rw [Executor.outcome, Executor.outcome, alike.stop]
  cases place : procedures[Executor.stop procedures other]? with
  | none => rfl
  | some p =>
    by_cases mode : p.mode = .command
    · simp only [mode, if_true, alike.request]
    · have wait : p.wait.isBlocking = true := by
        have here := stops_stop place
        simp only [Executor.stops, mode, decide_false, Bool.false_or, Bool.and_eq_true] at here
        exact here.1
      simp only [mode, if_false, alike.dispatch _ p place ⟨mode, wait⟩]

end Alike

end Executor

end Supervisor
