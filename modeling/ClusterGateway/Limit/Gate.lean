/-! # The concurrency gate

A gate lets at most `volume` requests through at a time; volume zero lets all through. A request
that finds no room may wait in a queue. Giving a slot back wakes the request that has waited
longest, and if none waits the wake-up is stored, at most one of them, and used up by the next
request that looks. Changing the volume wakes all in order. A request that is woken looks again: it
goes through if there is room, and else waits again at the end of the queue.

Requests are known by numbers. The functions here are the steps between which other requests may
act; `attempt` is what a request does when it comes and each time it has been woken.
-/

namespace ClusterGateway

/-- How a request was woken. -/
inductive WakeCause where
  /-- A slot was given back, which wakes one. -/
  | slot
  /-- The volume was changed, which wakes all. -/
  | volume
deriving DecidableEq, Repr

/-- The state of a concurrency gate. -/
structure Gate where
  /-- How many requests may be inside; zero stands for any number. -/
  volume : Nat := 0
  /-- How many requests are inside. -/
  inUse : Nat := 0
  /-- The requests that wait, the one that has waited longest first. -/
  waiting : List Nat := []
  /-- The requests that have been woken and have not looked again yet. -/
  woken : List (Nat × WakeCause) := []
  stored : Bool := false
deriving DecidableEq, Repr, Inhabited

namespace Gate

/-- Whether a request may enter. -/
abbrev HasRoom (g : Gate) : Prop := g.volume = 0 ∨ g.inUse < g.volume

/-- Enters if there is room. -/
def take? (g : Gate) : Option Gate :=
  if g.HasRoom then some { g with inUse := g.inUse + 1 } else none

/-- A request comes, or looks again after it was woken: it enters, or it waits at the end. Either
way it uses up the stored wake-up. -/
def attempt (g : Gate) (ticket : Nat) : Bool × Gate :=
  let g := { g with woken := g.woken.filter (·.1 ≠ ticket), stored := false }
  if g.HasRoom then (true, { g with inUse := g.inUse + 1 })
  else (false, { g with waiting := g.waiting ++ [ticket] })

/-- Wakes the request that has waited longest, or stores the wake-up if none waits. -/
def wakeOne (g : Gate) : Option Nat × Gate :=
  match g.waiting with
  | ticket :: rest =>
    (some ticket, { g with waiting := rest, woken := g.woken ++ [(ticket, .slot)] })
  | [] => (none, { g with stored := true })

/-- Gives a slot back and wakes a request. -/
def release (g : Gate) : Option Nat × Gate := wakeOne { g with inUse := g.inUse - 1 }

/-- Changes the volume and wakes all that wait. -/
def setVolume (g : Gate) (volume : Int) : List Nat × Gate :=
  (g.waiting,
    { g with
      volume := volume.toNat
      waiting := []
      woken := g.woken ++ g.waiting.map (fun ticket => (ticket, .volume)) })

/-- A request gives up. If a slot was given back for it, the wake-up goes to the next one. -/
def abandon (g : Gate) (ticket : Nat) : Option Nat × Gate :=
  let left := { g with
    waiting := g.waiting.filter (· ≠ ticket)
    woken := g.woken.filter (·.1 ≠ ticket) }
  if (ticket, WakeCause.slot) ∈ g.woken then wakeOne left else (none, left)

end Gate

end ClusterGateway
