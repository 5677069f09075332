/-!
# Watchers

Subscribers that are told which commands are pending. Each keeps the last list it was told, and
whether it has looked at it since; lists in between are lost. A subscriber that has left, or that
came after the end, is told nothing any more.
-/

namespace Supervisor

/-- One subscriber, as both ends see it. -/
structure Watcher where
  /-- Is told of changes. -/
  registered : Bool
  /-- Somebody still listens. -/
  listening : Bool
  latest : List String
  unseen : Bool
  deriving DecidableEq, Repr, Inhabited

/-- Subscribers in order of arrival; a subscriber is known by its place. -/
structure Watchers where
  all : List Watcher := []
  closed : Bool := false
  deriving DecidableEq, Repr, Inhabited

namespace Watchers

/-- The place the next subscriber gets. -/
def nextId (w : Watchers) : Nat := w.all.length

def subscribe (w : Watchers) : Watchers :=
  { w with all := w.all ++ [⟨!w.closed, true, [], false⟩] }

/-- Change one subscriber. -/
def update (w : Watchers) (id : Nat) (change : Watcher → Watcher) : Watchers :=
  { w with all := w.all.modify id change }

def unsubscribe (w : Watchers) (id : Nat) : Watchers :=
  w.update id fun x => { x with registered := false }

/-- A subscriber stops listening, without leaving. -/
def hangUp (w : Watchers) (id : Nat) : Watchers :=
  w.update id fun x => { x with listening := false }

/-- Tell every subscriber. -/
def broadcast (w : Watchers) (names : List String) : Watchers :=
  { w with all := w.all.map fun x =>
      if x.registered then { x with latest := names, unseen := true } else x }

/-- Nobody is told anything any more. -/
def closeAll (w : Watchers) : Watchers :=
  { all := w.all.map fun x => { x with registered := false }, closed := true }

/-- How many subscribers are told of changes. -/
def size (w : Watchers) : Nat := w.all.countP (·.registered)

/-- The subscriber at a place, if somebody listens there. -/
def listener? (w : Watchers) (id : Nat) : Option Watcher := (w.all[id]?).filter (·.listening)

/-- What a subscriber finds on looking. -/
inductive Look where
  | nobody
  /-- A list it has not seen. -/
  | changed (names : List String)
  /-- Nothing more will come. -/
  | closed (names : List String)
  | unchanged (names : List String)
  deriving DecidableEq, Repr

/-- A subscriber looks; a list not seen yet comes before the end. -/
def poll (w : Watchers) (id : Nat) : Watchers × Look :=
  match w.listener? id with
  | none => (w, .nobody)
  | some x =>
    if x.unseen then (w.update id fun x => { x with unseen := false }, .changed x.latest)
    else if x.registered then (w, .unchanged x.latest)
    else (w, .closed x.latest)

end Watchers

end Supervisor
