import ClusterGateway.Proofs.Replication.Envelope
import ClusterGateway.Proofs.Replication.InPlace

/-! # A snapshot reaches all machines or none

A snapshot is restored to one machine after another, and each decodes it for itself. If one of them
cannot, the restoration ends there, and the machines before it keep what they have taken over; the
log learns of the snapshot last of all. The programs here do this in place. Nothing is left half
done, because decoding is all that can fail, and what fails for one machine has failed for the first.
-/

namespace ClusterGateway

open InPlace

namespace Machine

/-- A machine that has come to where it is through entries, snapshots, requests and checks. -/
def Reachable (m : Machine) : Prop :=
  ∃ settings hostWait events, m = (fresh settings hostWait).run events

/-- A machine is sound wherever its history has led it. -/
theorem Reachable.sound {m : Machine} (reachable : m.Reachable) : m.Sound := by
  obtain ⟨settings, hostWait, events, rfl⟩ := reachable
  exact (sound_fresh settings hostWait).run events

/-- Restores a snapshot in place: once it is decoded, the table goes first, then the number of rules
that is shown, and the divergence is forgotten last. -/
def restoreInPlace (around : Surroundings) (bytes : Bytes) : InPlace Machine SnapshotError Unit := do
  let s ← check (StateSnapshot.ofBytes bytes)
  let acl := (AccessList.ofRecords (canonicalRecords s.records)).toOption
  modify fun m => { m with table := m.table.restore s.routing acl around.instant }
  modify fun m => { m with table := countRules m.table }
  modify fun m => { m with diverged := false }

/-- Restoring a snapshot in place does what restoring it as a whole does: only the decoding may
fail, and it comes first. -/
theorem restoreInPlace_eq (around : Surroundings) (bytes : Bytes) (m : Machine) :
    (restoreInPlace around bytes).runOn m = kept m ((m.restore around bytes).map ((), ·)) := by
  rw [restoreInPlace, restore]
  cases StateSnapshot.ofBytes bytes <;> rfl

end Machine

namespace Consensus

/-- Restores a snapshot in place to machines that are given by their numbers. -/
def restoreEach (ctx : StepContext) (bytes : Bytes) :
    List Nat → InPlace Consensus SnapshotError Unit
  | [] => return
  | n :: rest => do
    part (fun c => (c.machine? n).getD default) (fun c m => c.putMachine n m) id
      (Machine.restoreInPlace (ctx.around n) bytes)
    restoreEach ctx bytes rest

/-- Restores a snapshot in place to all machines. -/
def installInPlace (ctx : StepContext) (bytes : Bytes) : InPlace Consensus SnapshotError Unit := do
  restoreEach ctx bytes (List.range (← get).machines.length)

/-- Restores a snapshot that was read from disk, and goes on from its index. -/
def resumeInPlace (ctx : StepContext) (stored : PersistedSnapshot) :
    InPlace Consensus SnapshotError Unit := do
  let bytes := stored.stateBytes
  installInPlace ctx bytes
  modify fun c => { c with lastIndex := stored.index }
  modify fun c => { c with lastSnapshotIndex := stored.index }
  modify fun c => { c with snapshot := some bytes }

/-- Restores the stored snapshot, if there is one; answers with its index. -/
def recoverInPlace (ctx : StepContext) : InPlace Consensus SnapshotError (Option LogIndex) := do
  match ← check (← get).storage.load with
  | none => return none
  | some stored =>
    resumeInPlace ctx stored
    return some stored.index

/-- The machines that the snapshot has not reached yet take it over in their order. -/
theorem runOn_restoreEach {bytes : Bytes} {s : StateSnapshot}
    (read : StateSnapshot.ofBytes bytes = .ok s) (ctx : StepContext) (c : Consensus)
    (before rest : List Machine) (present : before ++ rest ≠ []) :
    (restoreEach ctx bytes (List.range' before.length rest.length)).runOn
        (Cluster.withMachines c (before ++ rest)) =
      (.ok (), Cluster.withMachines c
        (before ++ rest.mapIdx fun i m => m.adopt (ctx.around (before.length + i)) s)) := by
  -- The machines that the snapshot has reached stand apart, as the number of the next one grows.
  induction rest generalizing before with
  | nil => rfl
  | cons m rest ih =>
      have found : (Cluster.withMachines c (before ++ m :: rest)).machine? before.length =
          some m := by
        rw [machine?, Cluster.machines_withMachines c present,
          List.getElem?_append_right (Nat.le_refl _), Nat.sub_self, List.getElem?_cons_zero]
      have restored : (Machine.restoreInPlace (ctx.around before.length) bytes).runOn m =
          (.ok (), m.adopt (ctx.around before.length) s) := by
        rw [Machine.restoreInPlace_eq, Machine.restore, read]
        rfl
      have later := ih (before ++ [m.adopt (ctx.around before.length) s]) (by simp)
      rw [List.length_append, List.length_singleton, List.append_assoc, List.singleton_append,
        List.append_assoc, List.singleton_append] at later
      rw [List.length_cons, List.range'_succ, restoreEach, runOn_bind, runOn_part, found,
        Option.getD_some, restored]
      simp only [Except.mapError, Cluster.putMachine_withMachines c present,
        List.set_append_right _ _ (Nat.le_refl _), Nat.sub_self, List.set_cons_zero, later,
        List.mapIdx_cons, Nat.add_assoc, Nat.add_comm 1, Nat.add_zero]

/-- Every machine of a group takes over a snapshot. -/
def adopt (c : Consensus) (ctx : StepContext) (s : StateSnapshot) : Consensus :=
  { c with
    primary := c.primary.adopt (ctx.around 0) s
    followers := c.followers.mapIdx fun i m => m.adopt (ctx.around (i + 1)) s }

/-- The machines of a group that takes over a snapshot have each taken it over. -/
theorem machines_adopt (c : Consensus) (ctx : StepContext) (s : StateSnapshot) :
    (c.adopt ctx s).machines = c.machines.mapIdx fun i m => m.adopt (ctx.around i) s := by
  rw [machines, machines, List.mapIdx_cons]
  rfl

/-- Putting the machines that have taken over a snapshot in place of the others makes the group that
has taken it over. -/
theorem withMachines_adopt (c : Consensus) (ctx : StepContext) (s : StateSnapshot) :
    Cluster.withMachines c (c.machines.mapIdx fun i m => m.adopt (ctx.around i) s) =
      c.adopt ctx s := by
  rw [← machines_adopt]
  rfl

/-- Installing a snapshot lets all machines take over the state that it spells, or fails for all of
them. -/
theorem installSnapshot_eq (ctx : StepContext) (bytes : Bytes) (c : Consensus) :
    c.installSnapshot ctx bytes = (StateSnapshot.ofBytes bytes).map (c.adopt ctx) := by
  rw [installSnapshot, Machine.restore]
  cases read : StateSnapshot.ofBytes bytes with
  | error error => rfl
  | ok s =>
      rw [restoreAll_of_read read]
      simp only [Nat.add_comm 1]
      rfl

/-- Consensus that has gone on from a stored snapshot. -/
def resumed (c : Consensus) (ctx : StepContext) (stored : PersistedSnapshot) (s : StateSnapshot) :
    Consensus :=
  { c.adopt ctx s with
    lastIndex := stored.index
    lastSnapshotIndex := stored.index
    snapshot := some stored.stateBytes }

/-- Going on from a stored snapshot lets all machines take over its state and sets the log to its
index, or changes nothing at all. -/
theorem resume_eq (ctx : StepContext) (stored : PersistedSnapshot) (c : Consensus) :
    c.resume ctx stored =
      (StateSnapshot.ofBytes stored.stateBytes).map (c.resumed ctx stored) := by
  rw [resume, installSnapshot_eq]
  cases StateSnapshot.ofBytes stored.stateBytes <;> rfl

/-- A recovery goes on from the stored snapshot, finds none, or cannot read what it finds. -/
theorem recover_cases (ctx : StepContext) (c : Consensus) :
    (∃ stored s, c.storage.load = .ok (some stored) ∧
        StateSnapshot.ofBytes stored.stateBytes = .ok s ∧
        c.recover ctx = .ok (some stored.index, c.resumed ctx stored s)) ∨
      (c.storage.load = .ok none ∧ c.recover ctx = .ok (none, c)) ∨
        ∃ error, c.recover ctx = .error error ∧ ∀ stored, c.storage.load = .ok (some stored) →
          (StateSnapshot.ofBytes stored.stateBytes).isOk = false := by
  cases found : c.storage.load with
  | error error => exact Or.inr (Or.inr ⟨error, by rw [recover, found]; rfl, by simp⟩)
  | ok loaded =>
      cases loaded with
      | none => exact Or.inr (Or.inl ⟨rfl, by rw [recover, found]; rfl⟩)
      | some stored =>
          rw [recover_of_load found, resume_eq]
          cases read : StateSnapshot.ofBytes stored.stateBytes with
          | ok s => exact Or.inl ⟨stored, s, rfl, read, rfl⟩
          | error error =>
              refine Or.inr (Or.inr ⟨error, rfl, fun other same => ?_⟩)
              cases same
              rw [read]
              rfl

/-- A restoration comes to what it is as a whole, since the first machine decides for all. -/
theorem installInPlace_eq (ctx : StepContext) (bytes : Bytes) (c : Consensus) :
    (installInPlace ctx bytes).runOn c = kept c ((c.installSnapshot ctx bytes).map ((), ·)) := by
  rw [installInPlace, runOn_bind, runOn_get, installSnapshot_eq]
  cases read : StateSnapshot.ofBytes bytes with
  | ok s =>
      have all := runOn_restoreEach read ctx c [] c.machines (List.cons_ne_nil _ _)
      simp only [List.length_nil, List.nil_append, Nat.zero_add, ← List.range_eq_range',
        withMachines_adopt] at all
      exact all
  | error error =>
      have refused (m : Machine) :
          (Machine.restoreInPlace (ctx.around 0) bytes).runOn m = (.error error, m) := by
        rw [Machine.restoreInPlace_eq, Machine.restore_of_error read]
        rfl
      change (restoreEach ctx bytes (List.range (c.followers.length + 1))).runOn c = _
      rw [List.range_succ_eq_map, restoreEach, runOn_bind, runOn_part, refused]
      rfl

/-- Going on from a snapshot in place does what going on from it as a whole does. -/
theorem resumeInPlace_eq (ctx : StepContext) (stored : PersistedSnapshot) (c : Consensus) :
    (resumeInPlace ctx stored).runOn c = kept c ((c.resume ctx stored).map ((), ·)) := by
  rw [resumeInPlace, resume]
  simp only [runOn_bind, installInPlace_eq]
  cases c.installSnapshot ctx stored.stateBytes <;> rfl

/-- A recovery in place does what a recovery as a whole does. -/
theorem recoverInPlace_eq (ctx : StepContext) (c : Consensus) :
    (recoverInPlace ctx).runOn c = kept c (c.recover ctx) := by
  rw [recoverInPlace]
  simp only [runOn_bind, runOn_get]
  cases found : c.storage.load with
  | error error =>
      rw [recover, found]
      rfl
  | ok loaded =>
      cases loaded with
      | none =>
          rw [recover, found]
          rfl
      | some stored =>
          rw [recover_of_load found]
          simp only [runOn_check_ok, runOn_bind, resumeInPlace_eq]
          cases c.resume ctx stored <;> rfl

end Consensus

/-- The ways in which a snapshot reaches the machines. -/
inductive Restoration where
  /-- A snapshot is handed over. -/
  | install (bytes : Bytes)
  /-- A recovery goes on from a snapshot that was read at some time before. -/
  | resume (stored : PersistedSnapshot)
  /-- The stored snapshot is read and restored. -/
  | recover

namespace Restoration

/-- Restores in place; tells whether there was a snapshot. -/
def perform (ctx : StepContext) : Restoration → InPlace Consensus SnapshotError Bool
  | install bytes => do
    Consensus.installInPlace ctx bytes
    return true
  | resume stored => do
    Consensus.resumeInPlace ctx stored
    return true
  | recover => return (← Consensus.recoverInPlace ctx).isSome

/-- The snapshot that is to be restored, if there is one that can be read from its envelope. -/
def source? (c : Consensus) : Restoration → Option Bytes
  | install bytes => some bytes
  | resume stored => some stored.stateBytes
  | recover =>
    match c.storage.load with
    | .ok (some stored) => some stored.stateBytes
    | _ => none

/-- What comes of restoring a snapshot to all machines. -/
inductive AllOrNone (source : Option Bytes) (c : Consensus) :
    Except SnapshotError Bool × Consensus → Prop where
  /-- An error has changed nothing, and there is no snapshot that could have been decoded. -/
  | refused (error : SnapshotError)
      (unread : ∀ bytes, source = some bytes → (StateSnapshot.ofBytes bytes).isOk = false) :
      AllOrNone source c (.error error, c)
  /-- Nothing was there to be restored. -/
  | absent (none : source = none) : AllOrNone source c (.ok false, c)
  /-- No machine is left that has diverged, and all of them have the state that is rebuilt from the
  snapshot. -/
  | restored {after : Consensus} {bytes : Bytes} {s : StateSnapshot} (given : source = some bytes)
      (read : StateSnapshot.ofBytes bytes = .ok s)
      (length : after.machines.length = c.machines.length)
      (agree : ∀ m ∈ after.machines,
        m.diverged = false ∧ m.state = (Configuration.restored s).state) :
      AllOrNone source c (.ok true, after)

variable {c : Consensus}

/-- If restoring does not succeed, machines and log are as they were. -/
theorem AllOrNone.unchanged {source : Option Bytes} {done : Except SnapshotError Bool × Consensus}
    (whole : AllOrNone source c done) (failed : done.1.isOk = false) : done.2 = c := by
  cases whole with
  | refused error unread => rfl
  | absent none => rfl
  | restored given read length agree => exact absurd failed (by simp [Except.isOk, Except.toBool])

/-- If a snapshot was restored, there were octets that spell a state, and every machine has taken
over that state. -/
theorem AllOrNone.exists_state {source : Option Bytes}
    {done : Except SnapshotError Bool × Consensus} (whole : AllOrNone source c done)
    (restored : done.1.toOption = some true) :
    ∃ bytes s, source = some bytes ∧ StateSnapshot.ofBytes bytes = .ok s ∧
      ∀ m ∈ done.2.machines, m.diverged = false ∧ m.state = (Configuration.restored s).state := by
  cases whole with
  | refused error unread => exact absurd restored (by simp [Except.toOption])
  | absent none => exact absurd restored (by simp [Except.toOption])
  | restored given read length agree => exact ⟨_, _, given, read, agree⟩

/-- Machines that have taken over one snapshot have one state. -/
theorem AllOrNone.of_adopted (reachable : ∀ m ∈ c.machines, m.Reachable) {ctx : StepContext}
    {bytes : Bytes} {s : StateSnapshot} (read : StateSnapshot.ofBytes bytes = .ok s)
    {after : Consensus}
    (adopted : after.machines = c.machines.mapIdx fun i m => m.adopt (ctx.around i) s) :
    AllOrNone (some bytes) c (.ok true, after) := by
  refine .restored rfl read (by rw [adopted, List.length_mapIdx]) fun m member => ?_
  rw [adopted] at member
  obtain ⟨i, within, rfl⟩ := List.mem_mapIdx.1 member
  have replica := ((reachable _ (List.getElem_mem within)).sound.adopt (ctx.around i)
    (StateSnapshot.fits_of_ofBytes read)).2
  exact ⟨congrArg Replica.diverged replica,
    congrArg (fun r : Replica => r.configuration.state) replica⟩

/-- Whatever is handed over or stands on disk reaches all machines or changes nothing. -/
theorem all_or_none (reachable : ∀ m ∈ c.machines, m.Reachable) (ctx : StepContext)
    (r : Restoration) : AllOrNone (r.source? c) c ((r.perform ctx).runOn c) := by
  cases r with
  | install bytes =>
      rw [perform, runOn_bind, Consensus.installInPlace_eq, Consensus.installSnapshot_eq]
      cases read : StateSnapshot.ofBytes bytes with
      | error error => exact .refused error fun _ same => by cases same; rw [read]; rfl
      | ok s => exact .of_adopted reachable read (c.machines_adopt ctx s)
  | resume stored =>
      rw [perform, runOn_bind, Consensus.resumeInPlace_eq, Consensus.resume_eq]
      cases read : StateSnapshot.ofBytes stored.stateBytes with
      | error error => exact .refused error fun _ same => by cases same; rw [read]; rfl
      | ok s => exact .of_adopted reachable read (c.machines_adopt ctx s)
  | recover =>
      rw [perform, runOn_bind, Consensus.recoverInPlace_eq, source?]
      obtain ⟨stored, s, found, read, recovered⟩ | ⟨found, recovered⟩ |
        ⟨error, recovered, unread⟩ := c.recover_cases ctx
      · rw [recovered, found]
        exact .of_adopted reachable read (c.machines_adopt ctx s)
      · rw [recovered, found]
        exact .absent rfl
      · rw [recovered]
        refine .refused error fun bytes same => ?_
        split at same
        · next stored found => exact Option.some.inj same ▸ unread stored found
        · exact absurd same (by simp)

/-- A machine with pools and one that has diverged, over a directory with a snapshot of another
state. -/
def mixedGroup : Consensus where
  primary := (Machine.fresh {} 0).run Machine.sampleRun
  followers := [(Machine.fresh { replicas := 3 } 5).run Machine.strayingRun]
  storage := .folder "data" (.file (PersistedSnapshot.mk ⟨7⟩ .epoch {}
    (StateSnapshot.document { records := ["10.0.0.0/8"] })).toBytes)

/-- No machine takes over what cannot be decoded, be it in an envelope or not; what is on disk
reaches both machines. -/
theorem all_or_none_mixedGroup :
    (∀ m ∈ mixedGroup.machines, m.Reachable) ∧
      mixedGroup.machines.map (·.diverged) = [false, true] ∧
      (((install [0xFF]).perform {}).runOn mixedGroup).2 = mixedGroup ∧
      (((resume ⟨⟨9⟩, .epoch, {}, .null⟩).perform {}).runOn mixedGroup).2 = mixedGroup ∧
      ((recover.perform {}).runOn mixedGroup).1.toOption = some true ∧
      ∃ s : StateSnapshot, s.records = ["10.0.0.0/8"] ∧
        ∀ m ∈ ((recover.perform {}).runOn mixedGroup).2.machines,
          m.diverged = false ∧ m.state = (Configuration.restored s).state := by
  have reachable : ∀ m ∈ mixedGroup.machines, m.Reachable := by
    simp only [mixedGroup, Consensus.machines, List.forall_mem_cons, List.not_mem_nil,
      false_imp_iff, implies_true, and_true]
    exact ⟨⟨{}, 0, Machine.sampleRun, rfl⟩, { replicas := 3 }, 5, Machine.strayingRun, rfl⟩
  have restored : ((recover.perform {}).runOn mixedGroup).1.toOption = some true := by
    decide +kernel
  have found : (recover.source? mixedGroup).map (fun bytes =>
      (StateSnapshot.ofBytes bytes).toOption.map (·.records)) = some (some ["10.0.0.0/8"]) := by
    decide +kernel
  refine ⟨reachable, by decide +kernel,
    (all_or_none reachable {} (install [0xFF])).unchanged (by decide +kernel),
    (all_or_none reachable {} (resume ⟨⟨9⟩, .epoch, {}, .null⟩)).unchanged (by decide +kernel),
    restored, ?_⟩
  obtain ⟨bytes, s, given, read, agree⟩ :=
    (all_or_none reachable {} recover).exists_state restored
  rw [given, Option.map_some, read] at found
  exact ⟨s, Option.some.inj (Option.some.inj found), agree⟩

end Restoration

end ClusterGateway
