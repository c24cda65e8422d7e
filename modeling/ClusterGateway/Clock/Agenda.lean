/-! # What happens next

An agenda holds a clock, events that are due at some time, and events that are ready now. Ready
events come before all others and in the order in which they became ready. When none is ready the
clock moves to the next time at which something is due, and all that is due then becomes ready in
the order in which it was put down.
-/

namespace ClusterGateway

universe u

/-- Events in time. -/
structure Agenda (α : Type u) where
  /-- The time, in milliseconds. -/
  now : Nat := 0
  /-- Events with the time at which they are due, earliest first. -/
  timers : List (Nat × α) := []
  /-- Events that are ready, in order. -/
  ready : List α := []
deriving Repr, Inhabited

namespace Agenda

variable {α : Type u}

/-- Puts an event behind those that are due no later. -/
def placeTimer (due : Nat) (event : α) : List (Nat × α) → List (Nat × α)
  | [] => [(due, event)]
  | (d, e) :: rest =>
    if d ≤ due then (d, e) :: placeTimer due event rest else (due, event) :: (d, e) :: rest

/-- Lets an event be due at a time; it is due now if that time is over. -/
def at_ (a : Agenda α) (due : Nat) (event : α) : Agenda α :=
  { a with timers := placeTimer (max due a.now) event a.timers }

def after (a : Agenda α) (delay : Nat) (event : α) : Agenda α := a.at_ (a.now + delay) event

/-- Makes an event ready. -/
def wake (a : Agenda α) (event : α) : Agenda α := { a with ready := a.ready ++ [event] }

/-- Makes events ready, one after another. -/
def wakeAll (a : Agenda α) (events : List α) : Agenda α := { a with ready := a.ready ++ events }

/-- Takes the events off the timers that satisfy a test. -/
def cancel (a : Agenda α) (drop : α → Bool) : Agenda α :=
  { a with timers := a.timers.filter (fun t => !drop t.2) }

/-- Takes the first ready event. -/
def pop? (a : Agenda α) : Option (α × Agenda α) :=
  match a.ready with
  | event :: rest => some (event, { a with ready := rest })
  | [] => none

def nextDue? (a : Agenda α) : Option Nat := a.timers.head?.map (·.1)

/-- Moves the clock to a time and makes ready what is due by then. -/
def moveTo (a : Agenda α) (time : Nat) : Agenda α :=
  { now := max a.now time
    timers := a.timers.dropWhile (fun t => t.1 ≤ time)
    ready := a.ready ++ (a.timers.takeWhile (fun t => t.1 ≤ time)).map (·.2) }

/-- Moves the clock to the next time up to `limit` at which something is due, if nothing is ready
and there is such a time. -/
def advance? (a : Agenda α) (limit : Nat) : Option (Agenda α) :=
  match a.ready, a.nextDue? with
  | [], some due => if due ≤ limit then some (a.moveTo due) else none
  | _, _ => none

end Agenda

end ClusterGateway
