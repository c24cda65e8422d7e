import ClusterGateway.Proofs.Replication.Replica
import ClusterGateway.Replication.Consensus

/-! # Interleaved commits

An entry reaches the machines one after another, and each takes its time. In between requests and
checks go on at all machines, proposals are put in line, and what needs the log waits. A commit that
nothing comes between is a commit in one step, and so is a recovery.
-/

namespace ClusterGateway

/-- A commit that has begun. -/
structure Underway where
  index : LogIndex
  bytes : Bytes
  /-- How many machines have applied the entry. -/
  reached : Nat := 0

/-- Consensus whose commits take time. -/
structure Cluster where
  consensus : Consensus
  underway : Option Underway := none
  /-- Snapshots that were read to be restored once no commit is under way. -/
  loaded : List PersistedSnapshot := []

/-- What can happen to a cluster. Machines are referred to by their numbers. -/
inductive ClusterEvent where
  /-- An entry is proposed. -/
  | submit (bytes : Bytes)
  /-- The commit of the first proposal in line begins. -/
  | begin
  /-- The next machine applies the entry. -/
  | deliver (around : Surroundings)
  /-- The commit ends, since all machines have applied the entry. -/
  | conclude (ctx : StepContext)
  /-- A snapshot is taken. -/
  | takeSnapshot (ctx : StepContext)
  /-- A snapshot is restored to all machines. -/
  | install (ctx : StepContext) (bytes : Bytes)
  /-- A recovery reads the stored snapshot. -/
  | load
  /-- A recovery goes on from the snapshot that it has read. -/
  | resume (ctx : StepContext)
  /-- A request or a check takes a step at a machine. -/
  | traffic (machine : Nat) (event : Traffic)

namespace Consensus

theorem machines_putMachine (c : Consensus) (n : Nat) (m : Machine) :
    (c.putMachine n m).machines = c.machines.set n m := by
  cases n <;> rfl

/-- Applying an entry to all machines applies it to each of them, in surroundings of its own. -/
theorem applyAll_eq (ctx : StepContext) (index : LogIndex) (bytes : Bytes) (n : Nat)
    (machines : List Machine) :
    applyAll ctx index bytes n machines =
      machines.mapIdx fun i m => (m.apply (ctx.around (n + i)) index bytes).2 := by
  induction machines generalizing n with
  | nil => rfl
  | cons m rest ih =>
      rw [applyAll, ih, List.mapIdx_cons]
      simp only [Nat.add_assoc, Nat.add_comm 1]
      rfl

/-- Restores a stored snapshot to all machines and goes on from its index. -/
def resume (c : Consensus) (ctx : StepContext) (stored : PersistedSnapshot) :
    Except SnapshotError Consensus :=
  (c.installSnapshot ctx stored.stateBytes).map fun c =>
    { c with
      lastIndex := stored.index
      lastSnapshotIndex := stored.index
      snapshot := some stored.stateBytes }

/-- A recovery that finds a stored snapshot goes on from it. -/
theorem recover_of_load {c : Consensus} {stored : PersistedSnapshot}
    (found : c.storage.load = .ok (some stored)) (ctx : StepContext) :
    c.recover ctx = (c.resume ctx stored).map (some stored.index, ·) := by
  rw [recover, found, resume]
  change (do let c ← c.installSnapshot ctx stored.stateBytes; return _) = _
  cases c.installSnapshot ctx stored.stateBytes <;> rfl

end Consensus

namespace Cluster

/-- Changes consensus, if no commit is under way and the change is possible. -/
def attempt {ε : Type} (c : Cluster) (change : Except ε Consensus) : Cluster :=
  match c.underway, change with
  | none, .ok consensus => { c with consensus }
  | _, _ => c

/-- Lets something happen; what is not possible changes nothing. -/
def step (c : Cluster) : ClusterEvent → Cluster
  | .submit bytes => { c with consensus := (c.consensus.submit bytes).2 }
  | .begin =>
    match c.underway, c.consensus.pending with
    | none, (_, bytes) :: pending =>
      { c with
        consensus := { c.consensus with pending }
        underway := some { index := c.consensus.lastIndex.next, bytes } }
    | _, _ => c
  | .deliver around =>
    match c.underway with
    | some u =>
      match c.consensus.machine? u.reached with
      | some m =>
        { c with
          consensus := c.consensus.putMachine u.reached (m.apply around u.index u.bytes).2
          underway := some { u with reached := u.reached + 1 } }
      | none => c
    | none => c
  | .conclude ctx =>
    match c.underway with
    | some u =>
      if c.consensus.machines.length ≤ u.reached then
        { c with
          consensus := ({ c.consensus with lastIndex := u.index } : Consensus).takeDueSnapshot ctx
          underway := none }
      else c
    | none => c
  | .takeSnapshot ctx => c.attempt ((c.consensus.takeSnapshot ctx).map (·.2))
  | .install ctx bytes => c.attempt (c.consensus.installSnapshot ctx bytes)
  | .load =>
    match c.consensus.storage.load with
    | .ok (some stored) => { c with loaded := c.loaded ++ [stored] }
    | _ => c
  | .resume ctx =>
    match c.underway, c.loaded with
    | none, stored :: loaded => { c.attempt (c.consensus.resume ctx stored) with loaded }
    | _, _ => c
  | .traffic machine event =>
    match c.consensus.machine? machine with
    | some m => { c with consensus := c.consensus.putMachine machine (m.serve event) }
    | none => c

/-- Lets things happen one after another. -/
def run (c : Cluster) (events : List ClusterEvent) : Cluster := events.foldl step c

theorem run_append (c : Cluster) (first second : List ClusterEvent) :
    c.run (first ++ second) = (c.run first).run second := List.foldl_append ..

/-! ### Nothing in between -/

/-- The events of a commit that reaches `count` machines with nothing in between. -/
def commitEvents (ctx : StepContext) (count : Nat) : List ClusterEvent :=
  .begin :: (List.range count).map (fun n => .deliver (ctx.around n)) ++ [.conclude ctx]

/-- Consensus with other machines. -/
def withMachines (c : Consensus) : List Machine → Consensus
  | [] => c
  | primary :: followers => { c with primary, followers }

/-- Consensus with other machines has those machines. -/
theorem machines_withMachines (c : Consensus) {machines : List Machine} (present : machines ≠ []) :
    (withMachines c machines).machines = machines := by
  cases machines with
  | nil => exact absurd rfl present
  | cons primary followers => rfl

/-- Putting a machine in its place among other machines replaces it there. -/
theorem putMachine_withMachines (c : Consensus) {machines : List Machine} (present : machines ≠ [])
    (n : Nat) (m : Machine) :
    (withMachines c machines).putMachine n m = withMachines c (machines.set n m) := by
  cases machines with
  | nil => exact absurd rfl present
  | cons primary followers => cases n <;> rfl

/-- The machines that an entry has not reached yet apply it in their order. -/
theorem run_deliver (c : Consensus) (ctx : StepContext) (index : LogIndex) (bytes : Bytes)
    (loaded : List PersistedSnapshot) (before rest : List Machine) (present : before ++ rest ≠ []) :
    run ⟨withMachines c (before ++ rest), some ⟨index, bytes, before.length⟩, loaded⟩
        ((List.range' before.length rest.length).map fun n => .deliver (ctx.around n)) =
      ⟨withMachines c (before ++ Consensus.applyAll ctx index bytes before.length rest),
        some ⟨index, bytes, before.length + rest.length⟩, loaded⟩ := by
  -- The machines that the entry has reached stand apart, as the number of the next one grows.
  induction rest generalizing before with
  | nil => rfl
  | cons m rest ih =>
      let applied := (m.apply (ctx.around before.length) index bytes).2
      have next : step ⟨withMachines c (before ++ m :: rest),
            some ⟨index, bytes, before.length⟩, loaded⟩
            (.deliver (ctx.around before.length)) =
          ⟨withMachines c ((before ++ [applied]) ++ rest),
            some ⟨index, bytes, (before ++ [applied]).length⟩, loaded⟩ := by
        have found : (withMachines c (before ++ m :: rest)).machine? before.length =
            some m := by
          rw [Consensus.machine?, machines_withMachines c present,
            List.getElem?_append_right (Nat.le_refl _), Nat.sub_self, List.getElem?_cons_zero]
        simp only [step, found, putMachine_withMachines c present,
          List.set_append_right _ _ (Nat.le_refl _), Nat.sub_self, List.set_cons_zero,
          List.append_assoc, List.singleton_append, List.length_append, List.length_singleton,
          applied]
      have later := ih (before ++ [applied]) (by simp)
      rw [List.length_append, List.length_singleton] at later next
      rw [List.length_cons, List.range'_succ, List.map_cons, run, List.foldl_cons, next, ← run,
        later, Consensus.applyAll, List.append_assoc, List.singleton_append, Nat.add_assoc,
        Nat.add_comm 1]

/-- A commit applies its entry to all machines, moves the last index on, and then takes a snapshot
if one is due. -/
theorem commit_snd (c : Consensus) (ctx : StepContext) (bytes : Bytes) :
    (c.commit ctx bytes).2 =
      ({ withMachines c (Consensus.applyAll ctx c.lastIndex.next bytes 0 c.machines) with
        lastIndex := c.lastIndex.next } : Consensus).takeDueSnapshot ctx := rfl

/-- The machines after an entry is applied to all of them are the machines that have applied it. -/
theorem machines_applyAll (c : Consensus) (ctx : StepContext) (index : LogIndex) (bytes : Bytes) :
    (withMachines c (Consensus.applyAll ctx index bytes 0 c.machines)).machines =
      c.machines.mapIdx fun i m => (m.apply (ctx.around i) index bytes).2 := by
  have all := Consensus.applyAll_eq ctx index bytes 0 c.machines
  simp only [Nat.zero_add] at all
  exact all

/-- A commit that nothing comes between is a commit in one step. -/
theorem run_commitEvents (c : Consensus) (ctx : StepContext) (loaded : List PersistedSnapshot)
    {number : Nat} {bytes : Bytes} {pending : List (Nat × Bytes)}
    (waiting : c.pending = (number, bytes) :: pending) :
    run ⟨c, none, loaded⟩ (commitEvents ctx c.machines.length) =
      ⟨(({ c with pending } : Consensus).commit ctx bytes).2, none, loaded⟩ := by
  let next : Consensus := { c with pending }
  have begun : step ⟨c, none, loaded⟩ .begin =
      ⟨withMachines next ([] ++ c.machines),
        some ⟨c.lastIndex.next, bytes, ([] : List Machine).length⟩, loaded⟩ := by
    simp only [step, waiting]
    rfl
  have reached := run_deliver next ctx c.lastIndex.next bytes loaded [] c.machines
    (List.cons_ne_nil _ _)
  rw [List.length_nil, Nat.zero_add, ← List.range_eq_range'] at reached
  rw [commitEvents, List.cons_append, run, List.foldl_cons, begun, ← run, run_append,
    List.length_nil, reached, commit_snd]
  have all : (withMachines next (Consensus.applyAll ctx c.lastIndex.next bytes 0
      c.machines)).machines.length ≤ c.machines.length := by
    refine Nat.le_of_eq ?_
    exact (congrArg List.length (machines_applyAll next ctx c.lastIndex.next bytes)).trans
      List.length_mapIdx
  simp only [run, List.foldl_cons, List.foldl_nil, step, List.nil_append, if_pos all]
  rfl

/-- A recovery that nothing comes between is a recovery in one step. -/
theorem run_recover (c : Consensus) (ctx : StepContext) {stored : PersistedSnapshot}
    (found : c.storage.load = .ok (some stored)) {index : Option LogIndex} {after : Consensus}
    (recovered : c.recover ctx = .ok (index, after)) :
    run ⟨c, none, []⟩ [.load, .resume ctx] = ⟨after, none, []⟩ := by
  rw [Consensus.recover_of_load found] at recovered
  cases resumed : c.resume ctx stored with
  | error error =>
      rw [resumed] at recovered
      exact absurd recovered (by simp [Except.map])
  | ok consensus =>
      rw [resumed] at recovered
      obtain ⟨-, rfl⟩ := Prod.mk.inj (Except.ok.inj recovered)
      simp only [run, List.foldl_cons, List.foldl_nil, step, found, List.nil_append, attempt,
        resumed]

end Cluster

end ClusterGateway
