import ClusterGateway.Drain
import ClusterGateway.Node.Basic
import ClusterGateway.Simulation.Basic

/-! # Requests and nodes on a virtual clock

Requests come to a simulation under numbers; some wait for permits while others come and go, and
their guards are held under names. The node whose control plane is simulated can be started,
stopped, which waits for the requests under way, and replaced by a new one over the same storage.
-/

namespace ClusterGateway.Simulation

/-! ### Requests -/

/-- The result of a request, once it has come to its end. -/
def finished? (s : Simulation) (ticket : Nat) : Option Finished :=
  s.finished.find? (·.ticket = ticket)

/-- A request comes to a machine; answers with its number. -/
def arrive (s : Simulation) (machine : Nat) (step : Table → Nat → Turn × Table) :
    Nat × Simulation :=
  let ticket := s.nextTicket
  let (turn, t) := step (s.table machine) ticket
  let s := ({ s with nextTicket := ticket + 1 }.putTable machine t).takeIn machine ticket turn
  match turn.admission with
  | .waiting time => (ticket, { s with agenda := s.agenda.after time (.deadline machine ticket) })
  | _ => (ticket, s)

/-- Waits for the end of a request, while the clock moves on. -/
def await (s : Simulation) (ticket : Nat) : Simulation :=
  let limit := (s.agenda.timers.map (·.1)).foldl max s.agenda.now
  runWhile (fun s => (s.finished? ticket).isNone) limit (s.eventBound limit) s

/-- A guard is given back. -/
def close (s : Simulation) (machine : Nat) (guard : Guard) : Simulation :=
  let (woken, t) := (s.table machine).finish guard
  (s.putTable machine t).wake machine woken

/-- Gives back the guard under a name; answers whether there was one. -/
def release (s : Simulation) (name : String) : Bool × Simulation :=
  match s.held.get? name with
  | none => (false, s)
  | some (machine, guard) =>
    (true, ({ s with held := s.held.erase name } : Simulation).close machine guard)

/-- Holds a guard under a name; the one that was held there is given back. -/
def hold (s : Simulation) (name : String) (machine : Nat) (guard : Guard) : Simulation :=
  let old := s.held.get? name
  let s := { s with held := s.held.insert name (machine, guard) }
  match old with
  | none => s
  | some (machine, guard) => s.close machine guard

/-- A request comes to a machine and is waited for. Its guard is held under a name, or given back at
once if there is none. -/
def request (s : Simulation) (machine : Nat) (step : Table → Nat → Turn × Table)
    (name : Option String) : Except DispatchError Guard × Simulation :=
  let (ticket, s) := s.arrive machine step
  let s := s.await ticket
  match s.finished? ticket with
  | none => (.error .shuttingDown, s)
  | some f =>
    match f.result, name with
    | .error error, _ => (.error error, s)
    | .ok guard, some name => (.ok guard, s.hold name machine guard)
    | .ok guard, none => (.ok guard, s.close machine guard)

/-- A request comes to a machine in the background, under a name. -/
def spawn (s : Simulation) (machine : Nat) (step : Table → Nat → Turn × Table) (name : String) :
    Simulation :=
  let (ticket, s) := s.arrive machine step
  { s with names := s.names.insert name ticket }

/-- The result of the background request with a name, once it has come to its end; its guard is then
held under the name. -/
def join (s : Simulation) (name : String) : Option (Except DispatchError Guard) × Simulation :=
  match (s.names.get? name).bind s.finished? with
  | none => (none, s)
  | some f =>
    let s := { s with names := s.names.erase name }
    match f.result with
    | .error error => (some (.error error), s)
    | .ok guard => (some (.ok guard), s.hold name f.machine guard)

/-! ### Time -/

/-- Lets time pass. -/
def advance (s : Simulation) (time : Nat) : Simulation :=
  let limit := s.agenda.now + time
  let s := s.runTo limit
  { s with agenda := s.agenda.moveTo limit }

/-- Looks at the requests in flight at the primary until a drain comes to its end. -/
def drainFrom (start : Nat) : Nat → Simulation → Bool × Simulation
  | 0, s => (false, s)
  | fuel + 1, s =>
    match Drain.look (s.table 0).inFlight (s.agenda.now - start) s.drainTime with
    | .drained => (true, s)
    | .gaveUp => (false, s)
    | .lookAgain => drainFrom start fuel (s.advance Drain.pause)

/-- Waits for the requests in flight at the primary; answers whether they came to their end. -/
def drain (s : Simulation) : Bool × Simulation :=
  drainFrom s.agenda.now (s.drainTime / Drain.pause + 2) s

/-! ### Nodes -/

/-- The simulation of a node that has not started. Its hosts are never probed. -/
def ofNode (n : Node) : Simulation := { control := n.control, probing := false }

/-- The node that is simulated, with its configuration. -/
def node (s : Simulation) (config : Config) : Node := { config, control := s.control }

def start (s : Simulation) (config : Config) : Except NodeError Unit × Simulation :=
  let (result, n) := (s.node config).start s.context
  (result, { s with control := n.control })

/-- Stops the node: requests in flight may come to their end. -/
def stop (s : Simulation) (config : Config) : Except NodeError LogIndex × Simulation :=
  let s := { s with control := (s.node config).beginStop.control }
  let (_, s) := s.drain
  let (result, n) := (s.node config).finishStop s.context
  (result, { s with control := n.control })

/-- Puts a node that has not started in place of the old one, over the same storage. -/
def restart (s : Simulation) (config : Config) : Simulation :=
  { ofNode (Node.build config s.consensus.storage) with saved := s.saved }

end ClusterGateway.Simulation
