import ClusterGateway.Replication.Machine
import ClusterGateway.Replication.Storage

/-! # Consensus

Consensus puts proposals in an order, gives them indices one after another, and hands each to all
machines, the primary first. A proposal is put in line when it is made and committed when its turn
comes, also if its proposer has given up by then. After so many entries a snapshot is taken; it can
be restored to all machines later, from memory or from disk.
-/

namespace ClusterGateway

/-- Why consensus refused a request. -/
inductive ConsensusError where
  /-- The proposal was not committed in so many milliseconds; it may be later. -/
  | timeout (time : Nat)
  /-- A snapshot could not be written or read. -/
  | snapshot (error : SnapshotError)
deriving DecidableEq, Repr

/-- A span of milliseconds in the largest unit of which it holds one. -/
def spanText (time : Nat) : String :=
  if time = 0 then "0ns"
  else if time < 1000 then toString time ++ "ms"
  else
    let digits := (String.ofList (Nat.toDigits 10 (1000 + time % 1000))).toList.drop 1
    let fraction := (digits.reverse.dropWhile (· = '0')).reverse
    let places := if fraction.isEmpty then "" else "." ++ String.ofList fraction
    toString (time / 1000) ++ places ++ "s"

instance : Report ConsensusError where
  kind
    | .timeout _ => .consensusTimeout
    | .snapshot error => Report.kind error
  message
    | .timeout time => "proposal did not commit within " ++ spanText time
    | .snapshot error => Report.message error

/-- A proposal that was committed. -/
structure Commit where
  index : LogIndex
  /-- What came of it on the primary. -/
  outcome : Except ApplyError Unit

/-- A group of machines that follow one log. -/
structure Consensus where
  /-- The machine whose outcomes count. -/
  primary : Machine := {}
  followers : List Machine := []
  lastIndex : LogIndex := .zero
  lastSnapshotIndex : LogIndex := .zero
  snapshot : Option Bytes := none
  /-- After how many entries a snapshot is taken; never if zero. -/
  threshold : Nat := 1024
  storage : Storage := .memory
  /-- The name under which snapshots are kept. -/
  node : NodeName := {}
  /-- The proposals in line, with their numbers. -/
  pending : List (Nat × Bytes) := []
  nextProposal : Nat := 0
deriving Inhabited

/-- What the surroundings contribute to a step of consensus. -/
structure StepContext where
  /-- The surroundings of each machine; the primary is the first. -/
  around : Nat → Surroundings := fun _ => {}
  storageWorks : Bool := true
  date : Timestamp := .epoch

namespace Consensus

/-- All machines, the primary first. -/
def machines (c : Consensus) : List Machine := c.primary :: c.followers

def machine? (c : Consensus) (n : Nat) : Option Machine := c.machines[n]?

/-- Replaces a machine. -/
def putMachine (c : Consensus) (n : Nat) (m : Machine) : Consensus :=
  match n with
  | 0 => { c with primary := m }
  | n + 1 => { c with followers := c.followers.set n m }

/-! ### Snapshots -/

/-- Takes a snapshot of the primary, and writes it if there is storage. -/
def takeSnapshot (c : Consensus) (ctx : StepContext) :
    Except SnapshotError (LogIndex × Consensus) := do
  let bytes := c.primary.snapshot
  let storage ← match c.storage with
    | .memory => pure .memory
    | storage => do
      let wrapped ← PersistedSnapshot.wrap c.lastIndex ctx.date c.node bytes
      storage.write ctx.storageWorks wrapped
  return (c.lastIndex,
    { c with storage, lastSnapshotIndex := c.lastIndex, snapshot := some bytes })

/-- Takes a snapshot if enough entries were committed since the last one; one that fails is left for
the next commit. -/
def takeDueSnapshot (c : Consensus) (ctx : StepContext) : Consensus :=
  if c.threshold ≠ 0 ∧ c.threshold ≤ (c.lastIndex.distanceFrom c.lastSnapshotIndex).toNat then
    match c.takeSnapshot ctx with
    | .ok (_, c) => c
    | .error _ => c
  else c

/-- Restores a snapshot to machines, the first of which has the number `n`. -/
def restoreAll (ctx : StepContext) (bytes : Bytes) :
    Nat → List Machine → Except SnapshotError (List Machine)
  | _, [] => .ok []
  | n, m :: rest => do
    return (← m.restore (ctx.around n) bytes) :: (← restoreAll ctx bytes (n + 1) rest)

/-- Restores a snapshot to all machines. -/
def installSnapshot (c : Consensus) (ctx : StepContext) (bytes : Bytes) :
    Except SnapshotError Consensus := do
  let primary ← c.primary.restore (ctx.around 0) bytes
  let followers ← restoreAll ctx bytes 1 c.followers
  return { c with primary, followers }

/-- Restores the stored snapshot to all machines and goes on from its index; answers with that
index. -/
def recover (c : Consensus) (ctx : StepContext) :
    Except SnapshotError (Option LogIndex × Consensus) := do
  match ← c.storage.load with
  | none => return (none, c)
  | some stored =>
    let bytes := stored.stateBytes
    let c ← c.installSnapshot ctx bytes
    return (some stored.index,
      { c with
        lastIndex := stored.index
        lastSnapshotIndex := stored.index
        snapshot := some bytes })

/-! ### Proposals -/

/-- Puts a proposal in line; answers with its number. -/
def submit (c : Consensus) (bytes : Bytes) : Nat × Consensus :=
  (c.nextProposal,
    { c with
      pending := c.pending ++ [(c.nextProposal, bytes)]
      nextProposal := c.nextProposal + 1 })

/-- Applies an entry to machines, the first of which has the number `n`. -/
def applyAll (ctx : StepContext) (index : LogIndex) (bytes : Bytes) :
    Nat → List Machine → List Machine
  | _, [] => []
  | n, m :: rest => (m.apply (ctx.around n) index bytes).2 :: applyAll ctx index bytes (n + 1) rest

/-- Commits an entry. -/
def commit (c : Consensus) (ctx : StepContext) (bytes : Bytes) : Commit × Consensus :=
  let index := c.lastIndex.next
  let (outcome, primary) := c.primary.apply (ctx.around 0) index bytes
  let followers := applyAll ctx index bytes 1 c.followers
  ({ index, outcome }, ({ c with primary, followers, lastIndex := index }).takeDueSnapshot ctx)

/-- Commits the first proposal in line; answers with its number. -/
def commitNext (c : Consensus) (ctx : StepContext) : Option ((Nat × Commit) × Consensus) :=
  match c.pending with
  | [] => none
  | (number, bytes) :: rest =>
    let (done, c) := ({ c with pending := rest } : Consensus).commit ctx bytes
    some ((number, done), c)

/-- Commits proposals in line up to one with a number; answers with what came of it. -/
def commitUpTo (ctx : StepContext) (number : Nat) : Nat → Consensus → Option Commit × Consensus
  | 0, c => (none, c)
  | fuel + 1, c =>
    match c.commitNext ctx with
    | none => (none, c)
    | some ((n, done), c) => if n = number then (some done, c) else commitUpTo ctx number fuel c

/-- Commits all proposals in line. -/
def commitPending (ctx : StepContext) : Nat → Consensus → Consensus
  | 0, c => c
  | fuel + 1, c =>
    match c.commitNext ctx with
    | none => c
    | some (_, c) => commitPending ctx fuel c

/-- Proposes an entry and waits for its commit. A proposer without time gives up at once, while the
proposal stays in line. -/
def propose (c : Consensus) (ctx : StepContext) (bytes : Bytes) (time : Nat) :
    Except ConsensusError Commit × Consensus :=
  let (number, c) := c.submit bytes
  if time = 0 then (.error (.timeout time), c)
  else
    match commitUpTo ctx number c.pending.length c with
    | (some done, c) => (.ok done, c)
    | (none, c) => (.error (.timeout time), c)

end Consensus

end ClusterGateway
