/-! # Checks of a host

Each host of a pool has a loop of its own that checks it again and again. The loop rests for an
interval, starts a probe, takes in the verdict and rests again. A probe that starts more than a few
milliseconds late moves the following ones; otherwise they keep their pace. A loop that is cancelled
ends as soon as it notices, also in the middle of a probe.
-/

namespace ClusterGateway

/-- What a check loop is doing. -/
inductive CheckPhase where
  | fresh
  | resting (due : Nat)
  /-- It waits for a verdict, and is due again at a time. -/
  | probing (next : Nat)
  | ended
deriving DecidableEq, Repr, Inhabited

/-- The loop that checks a host. -/
structure CheckLoop where
  host : String
  phase : CheckPhase := .fresh
  cancelled : Bool := false
deriving DecidableEq, Repr, Inhabited

namespace CheckLoop

/-- How late a probe may start without moving the following ones. -/
def slack : Nat := 5

/-- When a probe that was due at a time and starts now is followed by the next one. -/
def nextDue (due now interval : Nat) : Nat :=
  if due + slack < now then now + interval else due + interval

/-- Whether the loop is over. -/
def hasEnded (l : CheckLoop) : Bool := l.phase = .ended

/-- A cancelled loop ends, and one that has not begun does so. -/
def settle (l : CheckLoop) (now interval : Nat) : CheckLoop :=
  if l.cancelled then { l with phase := .ended }
  else if l.phase = .fresh then { l with phase := .resting (now + interval) }
  else l

def startProbe (l : CheckLoop) (now interval : Nat) : CheckLoop :=
  match l.phase with
  | .resting due => if due ≤ now then { l with phase := .probing (nextDue due now interval) } else l
  | _ => l

/-- Rests after a verdict. -/
def rest (l : CheckLoop) : CheckLoop :=
  match l.phase with
  | .probing next => { l with phase := .resting next }
  | _ => l

def cancel (l : CheckLoop) : CheckLoop := { l with cancelled := true }

/-- Ends the loop at once. -/
def stop (l : CheckLoop) : CheckLoop := { l with cancelled := true, phase := .ended }

end CheckLoop

end ClusterGateway
