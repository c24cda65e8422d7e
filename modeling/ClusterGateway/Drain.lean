import ClusterGateway.Clock.Agenda
import ClusterGateway.Dict

/-! # Draining

A node that stops waits for the requests that are under way. It looks at their number every hundred
milliseconds: once there is none it is done, and once it finds some after the time it grants it
gives up. With no time granted it gives up at its first look.
-/

namespace ClusterGateway

/-- What a look at the requests under way leads to. -/
inductive DrainStep where
  | drained
  /-- Something is under way and the time is over. -/
  | gaveUp
  /-- Something is under way, so there will be another look. -/
  | lookAgain
deriving DecidableEq, Repr

namespace Drain

/-- The time between two looks, in milliseconds. -/
def pause : Nat := 100

/-- Nanoseconds in a millisecond. -/
def nanos : Nat := 1000000

/-- What a look leads to, by the number of requests, the time since the wait began and the time that
is granted, both in nanoseconds. -/
def verdict (inFlight elapsed granted : Nat) : DrainStep :=
  if inFlight = 0 then .drained
  else if granted < elapsed then .gaveUp
  else .lookAgain

/-- What a look leads to on a clock of whole milliseconds, on which the first look comes in the same
millisecond as the beginning of the wait, but not at the same instant. -/
def look (inFlight elapsed granted : Nat) : DrainStep :=
  verdict inFlight (max 1 (elapsed * nanos)) (granted * nanos)

/-- What a look at the requests under way comes to, case by case: a drain that is granted no time
gives up at its first look unless nothing is under way. -/
theorem look_eq (inFlight elapsed granted : Nat) :
    look inFlight elapsed granted =
      if inFlight = 0 then .drained
      else if granted < elapsed ∨ granted = 0 then .gaveUp
      else .lookAgain := by
  have late : granted * nanos < max 1 (elapsed * nanos) ↔ granted < elapsed ∨ granted = 0 := by
    simp only [nanos]
    omega
  simp only [look, verdict, late]

end Drain

/-- Requests under way with those who wait for their end, on a clock of its own. -/
structure DrainCounter where
  /-- How many milliseconds a drain may take. -/
  granted : Nat
  /-- The requests under way, by name. -/
  tracked : Dict Unit := ∅
  /-- Whether the node was asked to stop. -/
  requested : Bool := false
  /-- The clock; an event is a look of the drain with a number and start. -/
  agenda : Agenda (Nat × Nat) := {}
  nextDrain : Nat := 0
  results : List (Nat × Bool) := []
  names : Dict Nat := ∅
deriving Inhabited

namespace DrainCounter

/-- The number of requests under way. -/
def inFlight (c : DrainCounter) : Nat := c.tracked.size

/-- A request starts; one of the same name ends. -/
def track (c : DrainCounter) (name : String) : DrainCounter :=
  { c with tracked := c.tracked.insert name () }

/-- A request ends; answers whether there was one of that name. -/
def release (c : DrainCounter) (name : String) : Bool × DrainCounter :=
  (c.tracked.contains name, { c with tracked := c.tracked.erase name })

/-- Asks the node to stop. -/
def request (c : DrainCounter) : DrainCounter := { c with requested := true }

/-- A drain looks at the requests under way. -/
def look (c : DrainCounter) (drain start : Nat) : DrainCounter :=
  match Drain.look c.inFlight (c.agenda.now - start) c.granted with
  | .drained => { c with results := (drain, true) :: c.results }
  | .gaveUp => { c with results := (drain, false) :: c.results }
  | .lookAgain => { c with agenda := c.agenda.after Drain.pause (drain, start) }

def drain (c : DrainCounter) (name : String) : DrainCounter :=
  let number := c.nextDrain
  let c := { c with nextDrain := number + 1, names := c.names.insert name number }
  c.look number c.agenda.now

/-- The result of the drain with a name, once it has one. -/
def join (c : DrainCounter) (name : String) : Option Bool := do
  let number ← c.names.get? name
  (c.results.find? (·.1 = number)).map (·.2)

/-- Lets every look that is due up to a time happen. -/
def runTo (limit : Nat) : Nat → DrainCounter → DrainCounter
  | 0, c => c
  | fuel + 1, c =>
    match c.agenda.pop? with
    | some ((drain, start), agenda) => runTo limit fuel (look { c with agenda } drain start)
    | none =>
      match c.agenda.advance? limit with
      | some agenda => runTo limit fuel { c with agenda }
      | none => c

/-- Lets time pass. -/
def advance (c : DrainCounter) (time : Nat) : DrainCounter :=
  let limit := c.agenda.now + time
  let looks := c.agenda.timers.length * (time / Drain.pause + 2)
  let c := runTo limit (2 * looks + 2) c
  { c with agenda := c.agenda.moveTo limit }

end DrainCounter

end ClusterGateway
