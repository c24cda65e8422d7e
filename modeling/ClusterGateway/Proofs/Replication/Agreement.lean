import ClusterGateway.Proofs.Replication.Interleaving

/-! # Machines of one cluster agree

A commit that is under way divides the machines into those that have applied its entry and those
that have not; apart from that they all have one replica. How many replicas a ring has, which checks
run and how long a host may take to shut down is up to each machine.
-/

namespace ClusterGateway

/-- A chain of steps succeeds only through the success of each. -/
theorem exists_of_bind_ok {ε α β : Type} {first : Except ε α} {next : α → Except ε β} {b : β}
    (done : first >>= next = .ok b) : ∃ a, first = .ok a ∧ next a = .ok b := by
  cases first with
  | error error => exact absurd done (by simp [bind, Except.bind])
  | ok a => exact ⟨a, rfl, done⟩

/-- A chain of steps that starts with a failure does not succeed. -/
theorem throw_bind_ne_ok {ε α β : Type} (error : ε) (next : α → Except ε β) (b : β) :
    (throw error >>= next) ≠ .ok b := by
  intro done
  cases done

namespace Consensus

/-- Putting a machine in its place changes the machine with that number, if there is one, and no
other. -/
theorem machine?_putMachine (c : Consensus) (n : Nat) (m : Machine) (k : Nat) :
    (c.putMachine n m).machine? k =
      if n = k then (c.machine? k).map fun _ => m else c.machine? k := by
  rw [machine?, machines_putMachine, List.getElem?_set']
  split <;> rfl

/-- A snapshot that is taken changes nothing but what is known of snapshots. -/
theorem takeSnapshot_spec {c after : Consensus} {ctx : StepContext} {index : LogIndex}
    (taken : c.takeSnapshot ctx = .ok (index, after)) :
    index = c.lastIndex ∧ ∃ storage, after =
      { c with
        storage
        lastSnapshotIndex := c.lastIndex
        snapshot := some c.primary.snapshot } := by
  rw [takeSnapshot] at taken
  dsimp only at taken
  split at taken
  · obtain ⟨storage, _, taken⟩ := exists_of_bind_ok taken
    obtain ⟨rfl, rfl⟩ := Prod.mk.inj (Except.ok.inj taken)
    exact ⟨rfl, storage, rfl⟩
  · obtain ⟨wrapped, _, taken⟩ := exists_of_bind_ok taken
    obtain ⟨storage, _, taken⟩ := exists_of_bind_ok taken
    obtain ⟨rfl, rfl⟩ := Prod.mk.inj (Except.ok.inj taken)
    exact ⟨rfl, storage, rfl⟩

/-- Taking a snapshot when one is due changes nothing but what is known of snapshots, whether it
succeeds or not. -/
theorem takeDueSnapshot_spec (c : Consensus) (ctx : StepContext) :
    ∃ storage lastSnapshotIndex snapshot,
      c.takeDueSnapshot ctx = { c with storage, lastSnapshotIndex, snapshot } := by
  rw [takeDueSnapshot]
  split
  · cases taken : c.takeSnapshot ctx with
    | ok result =>
        obtain ⟨-, storage, after⟩ := takeSnapshot_spec taken
        exact ⟨storage, c.lastIndex, some c.primary.snapshot, after⟩
    | error error => exact ⟨c.storage, c.lastSnapshotIndex, c.snapshot, rfl⟩
  · exact ⟨c.storage, c.lastSnapshotIndex, c.snapshot, rfl⟩

/-- A commit gives an entry the next index, and hands it to every machine. -/
theorem commit_spec (c : Consensus) (ctx : StepContext) (bytes : Bytes) :
    (c.commit ctx bytes).1 =
        ⟨c.lastIndex.next, (c.primary.apply (ctx.around 0) c.lastIndex.next bytes).1⟩ ∧
      (c.commit ctx bytes).2.lastIndex = c.lastIndex.next ∧
      (c.commit ctx bytes).2.pending = c.pending ∧
      (c.commit ctx bytes).2.machines =
        c.machines.mapIdx fun i m => (m.apply (ctx.around i) c.lastIndex.next bytes).2 := by
  obtain ⟨storage, index, snapshot, due⟩ := takeDueSnapshot_spec
    { Cluster.withMachines c (applyAll ctx c.lastIndex.next bytes 0 c.machines) with
      lastIndex := c.lastIndex.next } ctx
  refine ⟨rfl, ?_⟩
  rw [Cluster.commit_snd, due]
  exact ⟨rfl, rfl, Cluster.machines_applyAll c ctx c.lastIndex.next bytes⟩

/-- A proposal with no other one in line is committed, given some time. -/
theorem propose_alone {c : Consensus} (alone : c.pending = []) (ctx : StepContext) (bytes : Bytes)
    {time : Nat} (patient : time ≠ 0) :
    c.propose ctx bytes time =
      (.ok (({ c with nextProposal := c.nextProposal + 1 } : Consensus).commit ctx bytes).1,
        (({ c with nextProposal := c.nextProposal + 1 } : Consensus).commit ctx bytes).2) := by
  rw [propose, submit, alone]
  simp only [patient, ↓reduceIte, List.nil_append, List.length_singleton, commitUpTo, commitNext]

/-- A snapshot that can be read is restored to every machine. -/
theorem restoreAll_of_read {bytes : Bytes} {s : StateSnapshot}
    (read : StateSnapshot.ofBytes bytes = .ok s) (ctx : StepContext) (n : Nat)
    (machines : List Machine) :
    restoreAll ctx bytes n machines =
      .ok (machines.mapIdx fun i m => m.adopt (ctx.around (n + i)) s) := by
  induction machines generalizing n with
  | nil => rfl
  | cons m rest ih =>
      rw [restoreAll, Machine.restore, read, ih, List.mapIdx_cons]
      simp only [Nat.add_assoc, Nat.add_comm 1]
      rfl

/-- A snapshot that is installed was read, and every machine has taken it over. -/
theorem installSnapshot_spec {c after : Consensus} {ctx : StepContext} {bytes : Bytes}
    (installed : c.installSnapshot ctx bytes = .ok after) :
    after.pending = c.pending ∧ ∃ s, StateSnapshot.ofBytes bytes = .ok s ∧
      after.machines = c.machines.mapIdx fun i m => m.adopt (ctx.around i) s := by
  rw [installSnapshot] at installed
  obtain ⟨primary, restored, installed⟩ := exists_of_bind_ok installed
  cases read : StateSnapshot.ofBytes bytes with
  | error error =>
      rw [Machine.restore_of_error read] at restored
      exact absurd restored (by simp)
  | ok s =>
      rw [restoreAll_of_read read] at installed
      rw [Machine.restore, read] at restored
      cases restored
      cases installed
      refine ⟨rfl, s, rfl, ?_⟩
      rw [machines, machines, List.mapIdx_cons]
      simp only [Nat.add_comm 1]

/-- Going on from a stored snapshot leaves the line of proposals as it is, and lets every machine
take over the one state that the stored octets spell. -/
theorem resume_spec {c after : Consensus} {ctx : StepContext} {stored : PersistedSnapshot}
    (resumed : c.resume ctx stored = .ok after) :
    after.pending = c.pending ∧ ∃ s, StateSnapshot.ofBytes stored.stateBytes = .ok s ∧
      after.machines = c.machines.mapIdx fun i m => m.adopt (ctx.around i) s := by
  rw [resume] at resumed
  cases installed : c.installSnapshot ctx stored.stateBytes with
  | error error =>
      rw [installed] at resumed
      exact absurd resumed (by simp [Except.map])
  | ok consensus =>
      rw [installed] at resumed
      cases resumed
      obtain ⟨pending, s, read, machines⟩ := installSnapshot_spec installed
      exact ⟨pending, s, read, machines⟩

end Consensus

namespace Cluster

/-- The replica that a machine has, where those that the commit under way has not reached have
`r`. -/
def due (c : Cluster) (r : Replica) (n : Nat) : Replica :=
  match c.underway with
  | some u => if n < u.reached then r.follow u.bytes else r
  | none => r

/-- While a commit is under way, the machines that it has reached are due to have followed its entry
and the others are not. -/
theorem due_underway {c : Cluster} {u : Underway} (begun : c.underway = some u) (r : Replica)
    (n : Nat) : c.due r n = if n < u.reached then r.follow u.bytes else r := by
  rw [due, begun]

theorem due_idle {c : Cluster} (idle : c.underway = none) (r : Replica) (n : Nat) :
    c.due r n = r := by
  rw [due, idle]

/-- All machines are sound and have the replica that is due. -/
def InStep (c : Cluster) (r : Replica) : Prop :=
  ∀ n m, c.consensus.machine? n = some m → m.Sound ∧ m.replica = c.due r n

variable {c : Cluster} {r : Replica}

/-- Handing the entry of a commit to the next machine keeps the machines in step, since that machine
is then due to have followed it. -/
theorem InStep.deliver (held : c.InStep r) (around : Surroundings) :
    (c.step (.deliver around)).InStep r := by
  cases begun : c.underway with
  | none =>
      simp only [step, begun]
      exact held
  | some u =>
      cases found : c.consensus.machine? u.reached with
      | none =>
          simp only [step, begun, found]
          exact held
      | some receiver =>
          simp only [step, begun, found]
          intro n m located
          rw [Consensus.machine?_putMachine] at located
          dsimp only [due]
          -- The receiver moves from those that are still to follow to those that have followed.
          split at located
          · next same =>
            subst same
            rw [found, Option.map_some, Option.some.injEq] at located
            subst located
            obtain ⟨sound, replica⟩ := held _ _ found
            obtain ⟨kept, followed⟩ := sound.apply around u.index u.bytes
            rw [due_underway begun, if_neg (Nat.lt_irrefl _)] at replica
            exact ⟨kept, by rw [if_pos (Nat.lt_succ_self _), followed, replica]⟩
          · next other =>
            obtain ⟨sound, replica⟩ := held n m located
            rw [due_underway begun] at replica
            refine ⟨sound, replica.trans ?_⟩
            have side : n < u.reached + 1 ↔ n < u.reached := by omega
            simp only [side]

/-- The end of a commit keeps the machines in step: they have all followed the entry by then. -/
theorem InStep.conclude (held : c.InStep r) (ctx : StepContext) :
    ∃ r, (c.step (.conclude ctx)).InStep r := by
  cases begun : c.underway with
  | none =>
      simp only [step, begun]
      exact ⟨r, held⟩
  | some u =>
      simp only [step, begun]
      split
      · next all =>
        obtain ⟨storage, index, snapshot, due⟩ :=
          Consensus.takeDueSnapshot_spec { c.consensus with lastIndex := u.index } ctx
        rw [due]
        -- The entry has reached every machine, so what was due to them is now common to all.
        refine ⟨r.follow u.bytes, fun n m located => ?_⟩
        obtain ⟨sound, replica⟩ := held n m located
        obtain ⟨within, -⟩ := List.getElem?_eq_some_iff.1 located
        rw [due_underway begun, if_pos (Nat.lt_of_lt_of_le within all)] at replica
        exact ⟨sound, replica⟩
      · exact ⟨r, held⟩

/-- What a change of consensus makes of its machines and proposals when no commit is under way: the
machines stay as they are, or take over a snapshot. -/
def Settles (c after : Consensus) : Prop :=
  after.pending = c.pending ∧ (after.machines = c.machines ∨
    ∃ ctx bytes s, StateSnapshot.ofBytes bytes = .ok s ∧
      after.machines = c.machines.mapIdx fun i m => m.adopt (StepContext.around ctx i) s)

/-- A change that waits for the commits to end keeps the machines in step, if it leaves them alone
or lets them all take over one state. -/
theorem InStep.attempt {ε : Type} (held : c.InStep r) (change : Except ε Consensus)
    (settles : ∀ after, change = .ok after → Settles c.consensus after) :
    ∃ r, (c.attempt change).InStep r := by
  unfold Cluster.attempt
  split
  · next after idle =>
    obtain ⟨-, same | ⟨ctx, bytes, s, read, restored⟩⟩ := settles after rfl
    · refine ⟨r, fun n m located => ?_⟩
      rw [Consensus.machine?, same] at located
      exact held n m located
    · refine ⟨⟨Configuration.restored s, false⟩, fun n m located => ?_⟩
      rw [Consensus.machine?, restored, List.getElem?_mapIdx] at located
      obtain ⟨before, found, rfl⟩ := Option.map_eq_some_iff.1 located
      obtain ⟨kept, adopted⟩ :=
        (held n before found).1.adopt (ctx.around n) (StateSnapshot.fits_of_ofBytes read)
      exact ⟨kept, adopted.trans (due_idle idle _ n).symm⟩
  · exact ⟨r, held⟩

/-- Taking a snapshot leaves the machines alone. -/
theorem settles_of_takeSnapshot {before after : Consensus} {ctx : StepContext}
    (taken : (before.takeSnapshot ctx).map (·.2) = .ok after) : Settles before after := by
  cases done : before.takeSnapshot ctx with
  | error error =>
      rw [done] at taken
      exact absurd taken (by simp [Except.map])
  | ok result =>
      obtain ⟨index, consensus⟩ := result
      rw [done] at taken
      cases taken
      obtain ⟨-, storage, rfl⟩ := Consensus.takeSnapshot_spec done
      exact ⟨rfl, Or.inl rfl⟩

/-- Installing a snapshot lets all machines take over one state. -/
theorem settles_of_installSnapshot {before after : Consensus} {ctx : StepContext} {bytes : Bytes}
    (installed : before.installSnapshot ctx bytes = .ok after) : Settles before after := by
  obtain ⟨pending, s, read, machines⟩ := Consensus.installSnapshot_spec installed
  exact ⟨pending, Or.inr ⟨ctx, bytes, s, read, machines⟩⟩

/-- Going on from a stored snapshot lets all machines take over one state. -/
theorem settles_of_resume {before after : Consensus} {ctx : StepContext}
    {stored : PersistedSnapshot} (resumed : before.resume ctx stored = .ok after) :
    Settles before after := by
  obtain ⟨pending, s, read, machines⟩ := Consensus.resume_spec resumed
  exact ⟨pending, Or.inr ⟨ctx, stored.stateBytes, s, read, machines⟩⟩

/-- Requests and checks at a machine leave all replicas as they are. -/
theorem InStep.traffic (held : c.InStep r) (machine : Nat) (event : Traffic) :
    (c.step (.traffic machine event)).InStep r := by
  cases found : c.consensus.machine? machine with
  | none =>
      simp only [step, found]
      exact held
  | some server =>
      simp only [step, found]
      intro n m located
      rw [Consensus.machine?_putMachine] at located
      change _ ∧ _ = c.due r n
      split at located
      · next same =>
        subst same
        rw [found, Option.map_some, Option.some.injEq] at located
        subst located
        obtain ⟨sound, replica⟩ := held _ _ found
        obtain ⟨kept, same⟩ := sound.serve event
        exact ⟨kept, same.trans replica⟩
      · exact held n m located

/-- Every event leaves the machines in step. -/
theorem InStep.step (held : c.InStep r) (event : ClusterEvent) : ∃ r, (c.step event).InStep r := by
  cases event with
  | submit bytes => exact ⟨r, held⟩
  | begin =>
      refine ⟨r, ?_⟩
      simp only [Cluster.step]
      split
      · next number bytes pending idle waiting =>
        intro n m located
        obtain ⟨sound, replica⟩ := held n m located
        rw [due_idle idle] at replica
        exact ⟨sound, by rw [due_underway rfl, if_neg (Nat.not_lt_zero n), replica]⟩
      · exact held
  | deliver around => exact ⟨r, held.deliver around⟩
  | conclude ctx => exact held.conclude ctx
  | takeSnapshot ctx => exact held.attempt _ fun _ => settles_of_takeSnapshot
  | install ctx bytes => exact held.attempt _ fun _ => settles_of_installSnapshot
  | load =>
      refine ⟨r, ?_⟩
      simp only [Cluster.step]
      split
      · exact held
      · exact held
  | resume ctx =>
      simp only [Cluster.step]
      split
      · next stored loaded idle waiting =>
        exact held.attempt (c.consensus.resume ctx stored) fun _ => settles_of_resume
      · exact ⟨r, held⟩
  | traffic machine event => exact ⟨r, held.traffic machine event⟩

/-- Every run leaves the machines in step. -/
theorem InStep.run (held : c.InStep r) (events : List ClusterEvent) :
    ∃ r, (c.run events).InStep r := by
  induction events generalizing c r with
  | nil => exact ⟨r, held⟩
  | cons event events ih =>
      obtain ⟨next, kept⟩ := held.step event
      exact ih kept

/-- Requests and checks leave the replica of every machine as it is, also while a commit is under
way. -/
theorem InStep.run_traffic (held : c.InStep r) (traffic : List (Nat × Traffic)) :
    (c.run (traffic.map fun step => .traffic step.1 step.2)).consensus.machines.map
        Machine.replica = c.consensus.machines.map Machine.replica := by
  induction traffic generalizing c with
  | nil => rfl
  | cons first rest ih =>
      obtain ⟨machine, event⟩ := first
      rw [List.map_cons, Cluster.run, List.foldl_cons, ← Cluster.run,
        ih (held.traffic machine event)]
      cases found : c.consensus.machine? machine with
      | none => simp only [Cluster.step, found]
      | some server =>
          have same := ((held machine server found).1.serve event).2
          simp only [Cluster.step, found, Consensus.machines_putMachine, List.map_set, same]
          obtain ⟨within, rfl⟩ := List.getElem?_eq_some_iff.1 found
          rw [← List.map_set, List.set_getElem_self]

/-- What a machine is set up with. -/
structure MachineSetup where
  settings : PoolSettings := {}
  /-- How long the checks of a removed host may take to stop. -/
  hostWait : Nat := 0

/-- A cluster that has not done anything. -/
def fresh (primary : MachineSetup) (followers : List MachineSetup) (threshold : Nat)
    (storage : Storage) (node : NodeName) : Cluster where
  consensus :=
    { primary := .fresh primary.settings primary.hostWait
      followers := followers.map fun setup => .fresh setup.settings setup.hostWait
      threshold, storage, node }

/-- The machines of a fresh cluster are in step, however each of them is set up. -/
theorem inStep_fresh (primary : MachineSetup) (followers : List MachineSetup) (threshold : Nat)
    (storage : Storage) (node : NodeName) :
    (fresh primary followers threshold storage node).InStep {} := by
  intro n m located
  have member := List.mem_of_getElem? located
  obtain ⟨setup, -, rfl⟩ : ∃ setup ∈ primary :: followers,
      Machine.fresh setup.settings setup.hostWait = m := List.mem_map.1 member
  exact ⟨Machine.sound_fresh setup.settings setup.hostWait, rfl⟩

/-- Machines in step show the same snapshot while no commit is under way, and have diverged together
or not at all. -/
theorem InStep.agree (held : c.InStep r) (idle : c.underway = none) {m : Machine}
    (member : m ∈ c.consensus.machines) :
    m.snapshot = r.configuration.state.toBytes ∧ m.diverged = r.diverged := by
  obtain ⟨n, located⟩ := List.mem_iff_getElem?.1 member
  have replica := (held n m located).2
  rw [due_idle idle] at replica
  subst replica
  exact ⟨rfl, rfl⟩

/-- Whenever no commit is under way, all machines have the same snapshot and have all diverged or
none of them; and requests and checks never change a snapshot. -/
theorem replicas_agree (primary : MachineSetup) (followers : List MachineSetup) (threshold : Nat)
    (storage : Storage) (node : NodeName) (events : List ClusterEvent) :
    let c := (fresh primary followers threshold storage node).run events
    (c.underway = none → ∀ a ∈ c.consensus.machines, ∀ b ∈ c.consensus.machines,
        a.snapshot = b.snapshot ∧ a.diverged = b.diverged) ∧
      ∀ traffic : List (Nat × Traffic),
        (c.run (traffic.map fun step => .traffic step.1 step.2)).consensus.machines.map
          Machine.snapshot = c.consensus.machines.map Machine.snapshot := by
  intro c
  obtain ⟨r, held⟩ : ∃ r, c.InStep r :=
    (inStep_fresh primary followers threshold storage node).run events
  constructor
  · intro idle a first b second
    obtain ⟨snapshot, diverged⟩ := held.agree idle first
    obtain ⟨others, strayed⟩ := held.agree idle second
    exact ⟨snapshot.trans others.symm, diverged.trans strayed.symm⟩
  · intro traffic
    have same := congrArg (List.map fun r : Replica => r.configuration.state.toBytes)
      (held.run_traffic traffic)
    rw [List.map_map, List.map_map] at same
    exact same

/-- A cluster whose machines are set up differently removes a host whose checks do not stop in time
at one of them, while requests and checks go on. -/
def sampleRun : List ClusterEvent :=
  [.submit (LogEntry.createPool
     ⟨"/a", ["http://[::1]:80", "http://[::1]:81"], "consistent-hash"⟩).encode,
   .begin, .deliver {}, .deliver {}, .deliver {}, .conclude {},
   .submit (LogEntry.removeHost "/a" "[::1]:80").encode,
   .begin, .deliver {}, .traffic 1 (.verdict 0 "[::1]:81" false), .submit [0xFF],
   .deliver { checksStop := false }, .traffic 0 (.expire 0), .deliver {}, .conclude {}]

/-- The cluster after the sample run. -/
def sampleCluster : Cluster :=
  (fresh { settings := { checkInterval := some 1000 } }
    [{ settings := { replicas := 3, checkInterval := some 20 }, hostWait := 5 }, {}]
    1 .memory {}).run sampleRun

/-- After the sample run the machines agree, though the removal failed at one of them. -/
theorem replicas_agree_sampleRun :
    sampleCluster.underway = none ∧
      sampleCluster.consensus.machines.map (fun m => m.table.metrics.failures.keys) =
        [[], ["internal"], []] ∧
      ∀ a ∈ sampleCluster.consensus.machines, ∀ b ∈ sampleCluster.consensus.machines,
        a.snapshot = b.snapshot ∧ a.diverged = b.diverged := by
  have idle : sampleCluster.underway = none := by decide +kernel
  refine ⟨idle, by decide +kernel, ?_⟩
  exact (replicas_agree _ _ 1 .memory {} sampleRun).1 idle

end Cluster

end ClusterGateway
