import ClusterGateway.Clock.Agenda
import ClusterGateway.Control.Plane
import ClusterGateway.Route.Dispatch

/-! # A cluster on a virtual clock

A simulation runs a cluster whose only source of time is an agenda and whose hosts answer probes by
a script. After each step from outside, all that is ready happens, in the order in which it became
ready, and the clock stands still. It moves only while something is waited for. Token buckets stay
at time zero and never refill.
-/

namespace ClusterGateway

/-- What is to happen in a simulation. -/
inductive Alarm where
  /-- A woken request looks for a permit again. -/
  | look (machine ticket : Nat)
  /-- The time of a waiting request is over. -/
  | deadline (machine ticket : Nat)
  /-- A host of a pool is due to be probed. -/
  | check (machine serial loop : Nat)
  | verdict (machine serial loop : Nat)
deriving DecidableEq, Repr

/-- How hosts answer probes. -/
structure ProbeScript where
  /-- The hosts that do not answer. -/
  down : List String := []
  /-- How long a probe of a host takes; others take no time. -/
  delays : Dict Nat := ∅
  /-- How often each host was probed. -/
  calls : Dict Nat := ∅
deriving Inhabited

namespace ProbeScript

def count (s : ProbeScript) (host : String) : ProbeScript :=
  { s with calls := s.calls.insert host ((s.calls.get? host).getD 0 + 1) }

/-- How long a probe of a host takes. -/
def delay (s : ProbeScript) (host : String) : Nat := (s.delays.get? host).getD 0

def answers (s : ProbeScript) (host : String) : Bool := !s.down.contains host

end ProbeScript

/-- A request that has come to its end. -/
structure Finished where
  ticket : Nat
  machine : Nat
  /-- Its guard, or why it was refused. -/
  result : Except DispatchError Guard

/-- A cluster on a virtual clock. -/
structure Simulation where
  control : ControlPlane := {}
  /-- Whether the checks of hosts take place. -/
  probing : Bool := true
  /-- How many milliseconds a drain may take. -/
  drainTime : Nat := 30000
  /-- The clock and what is to come. -/
  agenda : Agenda Alarm := {}
  /-- How hosts answer probes. -/
  script : ProbeScript := {}
  nextTicket : Nat := 0
  /-- The requests that have come to their end. -/
  finished : List Finished := []
  /-- The requests in the background, by name. -/
  names : Dict Nat := ∅
  /-- The guards that are held, by name, each with its machine. -/
  held : Dict (Nat × Guard) := ∅
  /-- The pools that are referred to by name, each by its machine and number. -/
  kept : Dict (Nat × Nat) := ∅
  saved : Dict Bytes := ∅
deriving Inhabited

namespace Simulation

/-- The time of the token buckets. -/
def instant : Nat := 0

/-- The consensus of the cluster. -/
def consensus (s : Simulation) : Consensus := s.control.consensus

/-- Replaces the consensus of the cluster. -/
def putConsensus (s : Simulation) (consensus : Consensus) : Simulation :=
  { s with control := { s.control with consensus } }

def machine (s : Simulation) (n : Nat) : Machine := (s.consensus.machine? n).getD {}

/-- Replaces a machine. -/
def putMachine (s : Simulation) (n : Nat) (m : Machine) : Simulation :=
  s.putConsensus (s.consensus.putMachine n m)

/-- The routing table of a machine. -/
def table (s : Simulation) (n : Nat) : Table := (s.machine n).table

/-- Replaces the routing table of a machine. -/
def putTable (s : Simulation) (n : Nat) (t : Table) : Simulation :=
  s.putMachine n { s.machine n with table := t }

/-- What the surroundings contribute to a step: the checks of a removed host end at once, unless no
time at all is granted. -/
def context (s : Simulation) : StepContext :=
  { around := fun n => { instant, checksStop := (s.table n).hostWait ≠ 0 } }

/-! ### Alarms -/

/-- Requests at a machine are woken. -/
def wake (s : Simulation) (machine : Nat) (tickets : List Nat) : Simulation :=
  { s with agenda := s.agenda.wakeAll (tickets.map (.look machine)) }

/-- A request has come to its end. -/
def record (s : Simulation) (machine ticket : Nat) (result : Except DispatchError Guard) :
    Simulation :=
  { s with finished := ⟨ticket, machine, result⟩ :: s.finished }

/-- Takes in how a request stands after a step. -/
def takeIn (s : Simulation) (machine ticket : Nat) (turn : Turn) : Simulation :=
  let s := s.wake machine turn.woken
  match turn.admission with
  | .granted guard => s.record machine ticket (.ok guard)
  | .refused error => s.record machine ticket (.error error)
  | .waiting _ => s

/-- A waiting request does something, if it still waits. -/
def resume (s : Simulation) (machine ticket : Nat) (step : Table → Option (Turn × Table)) :
    Simulation :=
  match step (s.table machine) with
  | none => s
  | some (turn, t) => (s.putTable machine t).takeIn machine ticket turn

/-- A probe starts, if its loop still runs. -/
def startProbe (s : Simulation) (machine serial loop : Nat) : Simulation :=
  match (s.table machine).poolBySerial? serial with
  | none => s
  | some p =>
    match p.startProbe loop s.agenda.now with
    | none => s
    | some (host, p) =>
      let s := s.putTable machine ((s.table machine).putPool p)
      { s with
        script := s.script.count host
        agenda := s.agenda.after (s.script.delay host) (.verdict machine serial loop) }

/-- A probe ends, if its loop still runs. -/
def endProbe (s : Simulation) (machine serial loop : Nat) : Simulation :=
  match (s.table machine).poolBySerial? serial with
  | none => s
  | some p =>
    let answers := (p.checks[loop]?).any fun l => s.script.answers l.host
    match p.endProbe loop answers with
    | none => s
    | some (next, p) =>
      let s := s.putTable machine ((s.table machine).putPool p)
      { s with agenda := s.agenda.at_ next (.check machine serial loop) }

/-- Something happens. -/
def happen (s : Simulation) : Alarm → Simulation
  | .look machine ticket => s.resume machine ticket (·.look ticket instant)
  | .deadline machine ticket => s.resume machine ticket (·.expire ticket)
  | .check machine serial loop => s.startProbe machine serial loop
  | .verdict machine serial loop => s.endProbe machine serial loop

/-- Lets things happen that are due up to a time, while a condition holds. -/
def runWhile (more : Simulation → Bool) (limit : Nat) : Nat → Simulation → Simulation
  | 0, s => s
  | fuel + 1, s =>
    if more s then
      match s.agenda.pop? with
      | some (alarm, agenda) => runWhile more limit fuel (happen { s with agenda } alarm)
      | none =>
        match s.agenda.advance? limit with
        | some agenda => runWhile more limit fuel { s with agenda }
        | none => s
    else s

/-- A bound on how many things can happen up to a time: each event on the agenda stands for a
request or a loop, and these do no more than a few things in a millisecond. -/
def eventBound (s : Simulation) (limit : Nat) : Nat :=
  8 * (s.agenda.timers.length + s.agenda.ready.length + 1) * (limit - s.agenda.now + 8)

/-- Lets everything happen that is due up to a time. -/
def runTo (s : Simulation) (limit : Nat) : Simulation :=
  runWhile (fun _ => true) limit (s.eventBound limit) s

/-! ### Loops that check hosts -/

/-- Lets the loops of a pool begin and end. -/
def settlePool (s : Simulation) (machine : Nat) (p : Pool) : Simulation :=
  let (begun, p) := p.settleChecks s.agenda.now
  let s := s.putTable machine ((s.table machine).putPool p)
  if s.probing then
    { s with
      agenda := begun.foldl
        (fun a (loop, due) => a.at_ due (.check machine p.serial loop)) s.agenda }
  else s

/-- Whether a pool has loops that are about to begin or to end. -/
def isUnsettled (p : Pool) : Bool :=
  p.checks.any fun l => l.phase = .fresh || (l.cancelled && !l.hasEnded)

/-- Lets the loops of a machine begin and end, those of older pools first. -/
def settleMachine (s : Simulation) (machine : Nat) : Simulation :=
  let unsettled := (s.table machine).allPools.filter isUnsettled
  let pools := unsettled.mergeSort fun p q => p.serial ≤ q.serial
  pools.foldl (fun s p => s.settlePool machine p) s

/-- Lets all that is ready happen: proposals are committed, loops begin and end, and woken requests
look again. -/
def idle (s : Simulation) : Simulation :=
  let c := s.consensus
  let s := s.putConsensus (c.commitPending s.context c.pending.length)
  let s := (List.range s.consensus.machines.length).foldl settleMachine s
  s.runTo s.agenda.now

end Simulation

end ClusterGateway
