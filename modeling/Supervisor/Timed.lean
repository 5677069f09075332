/-!
# Systems in time

A system that takes steps without time passing and knows when it can next go on after waiting. Time
stands still while steps can be taken and then jumps to when something is due.
-/

namespace Supervisor

class Timed (S : Type) where
  now : S → Nat
  withNow : S → Nat → S
  /-- One step that needs no waiting. -/
  step? : S → Option S
  /-- When there is something to do again. -/
  nextDue : S → Option Nat

namespace Timed

variable {S : Type} [Timed S]

/-- A bound on the steps that are taken while time stands still. -/
def maxSteps : Nat := 100000

/-- Take steps until none can be taken, but not more than given. -/
def settleWithin : Nat → S → S
  | 0, s => s
  | fuel + 1, s =>
    match step? s with
    | some s => settleWithin fuel s
    | none => s

/-- Take steps until none can be taken. -/
def settle (s : S) : S := settleWithin maxSteps s

/-- Let time pass from a moment up to a limit, or until enough has happened once all is settled. -/
def advanceFrom (limit : Nat) (enough : S → Bool) (moment : Nat) (s : S) : S :=
  let s := settle (withNow s moment)
  if enough s then s
  else match nextDue s with
    | none => withNow s (max moment limit)
    | some due =>
      if moment < due ∧ due ≤ limit then advanceFrom limit enough due s
      else withNow s (max moment limit)
termination_by limit - moment

/-- Let time pass up to a limit, or until enough has happened. -/
def advance (s : S) (limit : Nat) (enough : S → Bool) : S := advanceFrom limit enough (now s) s

/-- Let some time pass. -/
def pass (s : S) (milliseconds : Nat) : S := advance s (now s + milliseconds) fun _ => false

end Timed

end Supervisor
