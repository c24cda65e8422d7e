import ClusterGateway.Fault
import ClusterGateway.Limit.Gate

/-! # Limiters

A limiter gives out permits for the requests to one path: either it bounds how many are served at a
time, or how many are let in per second. `timeout` is how long a request may wait for its permit.

Permits per second come from a bucket. It gives out a burst of them at first and then one at every
interval, and keeps a single number for that, the time up to which it has given out permits: a
permit moves that time on by an interval, and it is refused while that time is more than a whole
burst ahead of the clock. Times are in nanoseconds.
-/

namespace ClusterGateway

/-- Why a limiter refused a request. -/
inductive LimiterError where
  | noToken
  | unsupportedKind (name : String)
  | alreadyExists (path : String)
deriving DecidableEq, Repr

instance : Report LimiterError where
  kind
    | .noToken => .capacity
    | .unsupportedKind _ => .validation
    | .alreadyExists _ => .internal
  message
    | .noToken => "the token has been used up"
    | .unsupportedKind name => "limiter type '" ++ name ++ "' is not supported"
    | .alreadyExists path => "a limiter is already installed for '" ++ path ++ "'"

/-- The kinds of limiter. -/
inductive LimiterKind where
  /-- Bounds the requests that are served at a time. -/
  | concurrency
  /-- Bounds the requests let in per second. -/
  | qps
deriving DecidableEq, Repr, Inhabited

namespace LimiterKind

def name : LimiterKind → String
  | concurrency => "concurrency"
  | qps => "qps"

def ofName (name : String) : Except LimiterError LimiterKind :=
  if name = concurrency.name then .ok concurrency
  else if name = qps.name then .ok qps
  else .error (.unsupportedKind name)

/-- The names of all kinds in ascending order. -/
def names : List String := [concurrency.name, qps.name]

end LimiterKind

/-- A bucket that gives out permits at a steady pace. -/
structure Bucket where
  /-- The time between two permits. -/
  interval : Nat
  /-- How far ahead of the clock permits may be given out. -/
  tolerance : Nat
  /-- When the bucket was set up. Its own clock starts then. -/
  opened : Nat
  /-- The time up to which permits have been given out, by its own clock, once there was one. -/
  horizon : Option Nat := none
deriving DecidableEq, Repr, Inhabited

namespace Bucket

/-- A bucket from which no permit has been taken. -/
def full (speed burst now : Nat) : Bucket :=
  let interval := 1000000000 / speed
  { interval, tolerance := max interval 1 * burst, opened := now }

/-- The time from which on there is a permit. -/
def readyAt (b : Bucket) : Nat := b.opened + (b.horizon.getD 0 - b.tolerance)

/-- Takes a permit. The first one is counted from the time at which it is taken, so a bucket that
was not used for long has no more to give than one that was just set up. -/
def take? (b : Bucket) (now : Nat) : Option Bucket :=
  let time := now - b.opened
  let horizon := b.horizon.getD (time + b.interval)
  if time < horizon - b.tolerance then none
  else some { b with horizon := some (max horizon time + b.interval) }

example : ((full 1 1 0).take? 5000000000).bind (·.take? 5000000000) = none := by decide

end Bucket

/-- The requests let in per second. -/
structure Throttle where
  /-- The bucket; without one every request is let in. -/
  bucket : Option Bucket := none
  /-- The burst. -/
  volume : Nat := 0
  /-- The permits per second. -/
  speed : Nat := 0
deriving DecidableEq, Repr, Inhabited

namespace Throttle

/-- A count within 32 bits. -/
def clamp (n : Int) : Nat := min n.toNat (Nat.pow 2 32 - 1)

/-- A throttle with a full bucket at a time. Without a positive speed there is no bucket; without a
positive volume the burst is what one second gives. -/
def ofRate (volume speed : Int) (now : Nat) : Throttle :=
  let perSecond := clamp speed
  if perSecond = 0 then {}
  else
    let burst := if clamp volume = 0 then perSecond else clamp volume
    { bucket := some (Bucket.full perSecond burst now), volume := burst, speed := perSecond }

def take? (t : Throttle) (now : Nat) : Option Throttle :=
  match t.bucket with
  | none => some t
  | some bucket => (bucket.take? now).map fun bucket => { t with bucket := some bucket }

end Throttle

/-- What a limiter counts. -/
inductive LimiterState where
  | gate (gate : Gate)
  | throttle (throttle : Throttle)
deriving DecidableEq, Repr, Inhabited

/-- A limiter. -/
structure Limiter where
  state : LimiterState
  /-- How many milliseconds a request may wait for a permit. -/
  timeout : Nat := 0
deriving DecidableEq, Repr, Inhabited

namespace Limiter

/-- A new limiter of a kind, which lets every request in. -/
def ofKind : LimiterKind → Limiter
  | .concurrency => { state := .gate {} }
  | .qps => { state := .throttle {} }

def build (name : String) : Except LimiterError Limiter := (LimiterKind.ofName name).map ofKind

def kind (l : Limiter) : LimiterKind :=
  match l.state with
  | .gate _ => .concurrency
  | .throttle _ => .qps

/-- How much a limiter holds. -/
def volume (l : Limiter) : Int :=
  match l.state with
  | .gate g => g.volume
  | .throttle t => t.volume

/-- How fast a limiter refills; a gate does not, which is written as minus one. -/
def speed (l : Limiter) : Int :=
  match l.state with
  | .gate _ => -1
  | .throttle t => t.speed

/-- The requests inside a gate. -/
def inUse? (l : Limiter) : Option Nat :=
  match l.state with
  | .gate g => some g.inUse
  | .throttle _ => none

/-- Sets how long a request may wait. -/
def setTimeout (l : Limiter) (timeout : Nat) : Limiter := { l with timeout }

/-- Sets volume and speed at a time; answers with the requests that this wakes. -/
def setRate (l : Limiter) (volume speed : Int) (now : Nat) : List Nat × Limiter :=
  match l.state with
  | .gate g =>
    let (woken, g) := g.setVolume volume
    (woken, { l with state := .gate g })
  | .throttle _ => ([], { l with state := .throttle (Throttle.ofRate volume speed now) })

/-- Takes a permit without waiting. -/
def take? (l : Limiter) (now : Nat) : Option Limiter :=
  match l.state with
  | .gate g => g.take?.map fun g => { l with state := .gate g }
  | .throttle t => (t.take? now).map fun t => { l with state := .throttle t }

/-- A request that may wait comes or looks again; answers whether it got its permit. -/
def attempt (l : Limiter) (ticket now : Nat) : Bool × Limiter :=
  match l.state with
  | .gate g =>
    let (entered, g) := g.attempt ticket
    (entered, { l with state := .gate g })
  | .throttle t =>
    match t.take? now with
    | some t => (true, { l with state := .throttle t })
    | none => (false, l)

/-- Gives a permit back; answers with the request that this wakes. -/
def release (l : Limiter) : Option Nat × Limiter :=
  match l.state with
  | .gate g =>
    let (woken, g) := g.release
    (woken, { l with state := .gate g })
  | .throttle _ => (none, l)

/-- A waiting request gives up; answers with the request that this wakes. -/
def abandon (l : Limiter) (ticket : Nat) : Option Nat × Limiter :=
  match l.state with
  | .gate g =>
    let (woken, g) := g.abandon ticket
    (woken, { l with state := .gate g })
  | .throttle _ => (none, l)

/-- The time from which on a waiting request may get its permit without being woken. -/
def readyAt? (l : Limiter) : Option Nat :=
  match l.state with
  | .gate _ => none
  | .throttle t => t.bucket.map Bucket.readyAt

end Limiter

end ClusterGateway
