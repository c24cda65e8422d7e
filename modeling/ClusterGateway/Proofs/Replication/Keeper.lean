import ClusterGateway.Proofs.Replication.Restoring
import ClusterGateway.Proofs.Replication.Writing

/-! # Consensus and its data directory

Snapshots are taken, restored and recovered in place, over a data directory in which each operation
may fail. What needs the log is served one after another, but a recovery reads the snapshot file
before it asks for the log. So there may be commits and other snapshots until it goes on from what
it has read, and several recoveries may wait at a time. Apart from the temporary file, from files
that cannot be read and from what comes in between, this is what consensus does by itself.
-/

namespace ClusterGateway

open InPlace

namespace Consensus

variable {c : Consensus}

/-- The first proposal in line, and consensus without it. -/
def next? (c : Consensus) : Option (Bytes × Consensus) :=
  match c.pending with
  | [] => none
  | (_, bytes) :: pending => some (bytes, { c with pending })

/-- Gives an entry the next index and hands it to all machines. -/
def handOut (c : Consensus) (ctx : StepContext) (bytes : Bytes) : Commit × Consensus :=
  let index := c.lastIndex.next
  let (outcome, primary) := c.primary.apply (ctx.around 0) index bytes
  let followers := applyAll ctx index bytes 1 c.followers
  ({ index, outcome }, { c with primary, followers, lastIndex := index })

/-- A commit hands out its entry, and then takes a snapshot if one is due. -/
theorem commit_eq (c : Consensus) (ctx : StepContext) (bytes : Bytes) :
    c.commit ctx bytes =
      ((c.handOut ctx bytes).1, (c.handOut ctx bytes).2.takeDueSnapshot ctx) := rfl

/-- Enough entries were committed since the last snapshot. -/
def IsDue (c : Consensus) : Prop :=
  c.threshold ≠ 0 ∧ c.threshold ≤ (c.lastIndex.distanceFrom c.lastSnapshotIndex).toNat

instance (c : Consensus) : Decidable c.IsDue := inferInstanceAs (Decidable (_ ∧ _))

/-- Consensus that has taken a snapshot. -/
def noted (c : Consensus) (storage : Storage) : Consensus :=
  { c with
    storage
    lastSnapshotIndex := c.lastIndex
    snapshot := some c.primary.snapshot }

/-- A snapshot in memory is taken without fail. -/
theorem takeSnapshot_of_memory (memory : c.storage = .memory) (ctx : StepContext) :
    c.takeSnapshot ctx = .ok (c.lastIndex, c.noted .memory) := by
  cases c
  subst memory
  rfl

/-- A snapshot on disk is wrapped up and then written; either may fail, and then nothing is
noted. -/
theorem takeSnapshot_of_disk (disk : c.storage ≠ .memory) (ctx : StepContext) :
    c.takeSnapshot ctx =
      (PersistedSnapshot.wrap c.lastIndex ctx.date c.node c.primary.snapshot).bind fun wrapped =>
        (c.storage.write ctx.storageWorks wrapped).map fun storage =>
          (c.lastIndex, c.noted storage) := by
  rw [takeSnapshot]
  cases PersistedSnapshot.wrap c.lastIndex ctx.date c.node c.primary.snapshot <;>
    cases place : c.storage <;> first | exact absurd place disk | rfl

end Consensus

/-- What may go wrong while a request is served, and what else it depends on. -/
structure Circumstances where
  around : Nat → Surroundings := fun _ => {}
  date : Timestamp
  valid : date.Valid
  /-- Where the writing of a snapshot fails, if it does. -/
  fault : Option WriteFault := none
  /-- Whether the snapshot file can be read. -/
  readable : Bool := true

def Circumstances.context (x : Circumstances) : StepContext where
  around := x.around
  storageWorks := x.fault.isNone
  date := x.date

/-- What a recovery has read: the octets of the snapshot file and the snapshot that they spell. -/
structure ReadSnapshot where
  content : Bytes
  snapshot : PersistedSnapshot
  read : PersistedSnapshot.ofBytes content = .ok snapshot

/-- Reads the snapshot file, if there is one. -/
def Storage.read? (s : Storage) : Except SnapshotError (Option ReadSnapshot) :=
  match s.content? with
  | .error error => .error error
  | .ok none => .ok none
  | .ok (some content) =>
    match read : PersistedSnapshot.ofBytes content with
    | .error error => .error error
    | .ok snapshot => .ok (some ⟨content, snapshot, read⟩)

namespace ReadSnapshot

/-- The snapshot file still holds what was read. -/
def Current (r : ReadSnapshot) (s : Storage) : Prop := s.content? = .ok (some r.content)

instance (r : ReadSnapshot) (s : Storage) : Decidable (r.Current s) :=
  inferInstanceAs (Decidable (_ = _))

variable {r : ReadSnapshot} {s : Storage}

/-- As long as the snapshot file holds what was read, loading it gives what was read. -/
theorem Current.load (current : r.Current s) : s.load = .ok (some r.snapshot) := by
  rw [Storage.load, current]
  change (PersistedSnapshot.ofBytes r.content).map some = _
  rw [r.read]
  rfl

/-- Reading the file is loading the snapshot that stands in it, and what was read is current for as
long as the file stays as it is. -/
theorem read?_cases (s : Storage) :
    (∃ r : ReadSnapshot, s.read? = .ok (some r) ∧ r.Current s) ∨
      (s.read? = .ok none ∧ s.load = .ok none) ∨
        ∃ error, s.read? = .error error ∧ s.load = .error error := by
  rw [Storage.read?, Storage.load]
  cases found : s.content? with
  | error error => exact Or.inr (Or.inr ⟨error, rfl, rfl⟩)
  | ok content =>
      cases content with
      | none => exact Or.inr (Or.inl ⟨rfl, rfl⟩)
      | some content =>
          dsimp only
          split
          · next error unread =>
              refine Or.inr (Or.inr ⟨error, rfl, ?_⟩)
              change (PersistedSnapshot.ofBytes content).map some = _
              rw [unread]
              rfl
          · next snapshot read => exact Or.inl ⟨⟨content, snapshot, read⟩, rfl, found⟩

end ReadSnapshot

/-- Consensus with its data directory. -/
structure Keeper where
  consensus : Consensus
  /-- What stands in the temporary file. -/
  draft : Option Bytes
  /-- What recoveries have read that wait for the log. -/
  loaded : List ReadSnapshot := []

/-- What can happen to a keeper. -/
inductive KeeperEvent where
  /-- An entry is proposed. -/
  | submit (bytes : Bytes)
  /-- The first proposal in line is committed. -/
  | commit (x : Circumstances)
  /-- A snapshot is demanded. -/
  | snapshot (x : Circumstances)
  /-- A snapshot is restored to all machines. -/
  | install (x : Circumstances) (bytes : Bytes)
  /-- A recovery reads the stored snapshot. -/
  | load (x : Circumstances)
  /-- A recovery that waits, given by its number, has the log and restores what it has read. -/
  | resume (x : Circumstances) (number : Nat)
  /-- A request or a check takes a step at a machine. -/
  | traffic (machine : Nat) (event : Traffic)

namespace Keeper

def disk (k : Keeper) : Disk := ⟨k.consensus.storage, k.draft⟩

def putDisk (k : Keeper) (d : Disk) : Keeper :=
  { k with consensus := { k.consensus with storage := d.storage }, draft := d.draft }

/-- What one of the recoveries that wait has read, and the keeper on which it does not wait. -/
def read? (k : Keeper) (number : Nat) : Option (ReadSnapshot × Keeper) :=
  (k.loaded[number]?).map fun r => (r, { k with loaded := k.loaded.eraseIdx number })

/-- A recovery that waits takes what it has read out of the list, and changes nothing else. -/
theorem read?_eq_some {k later : Keeper} {number : Nat} {r : ReadSnapshot}
    (waiting : k.read? number = some (r, later)) :
    r ∈ k.loaded ∧ later = { k with loaded := k.loaded.eraseIdx number } := by
  obtain ⟨found, known, same⟩ := Option.map_eq_some_iff.1 waiting
  obtain ⟨rfl, rfl⟩ := Prod.mk.inj same
  exact ⟨List.mem_of_getElem? known, rfl⟩

/-- Takes a snapshot in place: first it is written, then the log learns of it. -/
def takeSnapshot (x : Circumstances) : InPlace Keeper SnapshotError LogIndex := do
  let c := (← get).consensus
  let bytes := c.primary.snapshot
  if c.storage ≠ .memory then
    let wrapped ← check (PersistedSnapshot.wrap c.lastIndex x.date c.node bytes)
    part disk putDisk id (Disk.writeInPlace x.fault wrapped)
  modify fun k => { k with consensus := { k.consensus with lastSnapshotIndex := c.lastIndex } }
  modify fun k => { k with consensus := { k.consensus with snapshot := some bytes } }
  return c.lastIndex

/-- Commits an entry in place; what comes of a snapshot does not matter to its proposer. -/
def commit (x : Circumstances) (bytes : Bytes) : InPlace Keeper Empty Commit := do
  let (done, handed) := (← get).consensus.handOut x.context bytes
  modify fun k => { k with consensus := handed }
  if handed.IsDue then
    let _ ← observe (takeSnapshot x)
  return done

/-- Reads the stored snapshot, if it can be read; tells whether there is one. -/
def load (x : Circumstances) : InPlace Keeper SnapshotError Bool := do
  match x.readable, (← get).consensus.storage with
  | false, .folder path _ => throw (.storage (Storage.filePath path) .broken)
  | _, storage =>
    match ← check storage.read? with
    | none => return false
    | some r =>
      modify fun k => { k with loaded := k.loaded ++ [r] }
      return true

/-- Restores what was read, and goes on from its index. -/
def resume (x : Circumstances) (r : ReadSnapshot) : InPlace Keeper SnapshotError LogIndex := do
  part consensus (fun k consensus => { k with consensus }) id
    (Consensus.resumeInPlace x.context r.snapshot)
  return r.snapshot.index

/-- Lets something happen; what is not possible changes nothing. -/
def step (k : Keeper) : KeeperEvent → Keeper
  | .submit bytes => { k with consensus := (k.consensus.submit bytes).2 }
  | .commit x =>
    match k.consensus.next? with
    | some (bytes, consensus) => ((commit x bytes).runOn { k with consensus }).2
    | none => k
  | .snapshot x => ((takeSnapshot x).runOn k).2
  | .install x bytes =>
    { k with consensus := ((Consensus.installInPlace x.context bytes).runOn k.consensus).2 }
  | .load x => ((load x).runOn k).2
  | .resume x number =>
    match k.read? number with
    | some (r, k) => ((resume x r).runOn k).2
    | none => k
  | .traffic machine event =>
    match k.consensus.machine? machine with
    | some m => { k with consensus := k.consensus.putMachine machine (m.serve event) }
    | none => k

/-- Lets things happen one after another. -/
def run (k : Keeper) (events : List KeeperEvent) : Keeper := events.foldl step k

/-- A snapshot is taken as by consensus alone, and a failure leaves no trace but a temporary
file. -/
theorem takeSnapshot_cases (x : Circumstances) (k : Keeper) :
    (∃ after draft, (takeSnapshot x).runOn k =
          (.ok k.consensus.lastIndex, { k with consensus := after, draft }) ∧
        k.consensus.takeSnapshot x.context = .ok (k.consensus.lastIndex, after)) ∨
      ∃ error reason draft, (takeSnapshot x).runOn k = (.error error, { k with draft }) ∧
        k.consensus.takeSnapshot x.context = .error reason := by
  rw [takeSnapshot]
  simp only [runOn_bind, runOn_get]
  by_cases memory : k.consensus.storage = .memory
  · refine Or.inl ⟨k.consensus.noted .memory, k.draft, ?_,
      Consensus.takeSnapshot_of_memory memory _⟩
    simp only [memory, ne_eq, not_true_eq_false, ↓reduceIte, runOn_bind, runOn_pure, runOn_modify,
      Consensus.noted]
  · simp only [memory, ne_eq, not_false_eq_true, ↓reduceIte, runOn_bind]
    have whole := Consensus.takeSnapshot_of_disk memory x.context
    change _ = (PersistedSnapshot.wrap k.consensus.lastIndex x.date k.consensus.node
      k.consensus.primary.snapshot).bind _ at whole
    cases wrapped : PersistedSnapshot.wrap k.consensus.lastIndex x.date k.consensus.node
        k.consensus.primary.snapshot with
    | error error =>
        rw [wrapped] at whole
        exact Or.inr ⟨error, error, k.draft, rfl, whole⟩
    | ok p =>
        rw [wrapped] at whole
        simp only [runOn_check_ok, runOn_part]
        obtain ⟨after, written, done⟩ | ⟨error, reason, draft, failed, refused⟩ :=
          Disk.runOn_writeInPlace x.fault p k.disk
        · rw [written]
          exact Or.inl ⟨k.consensus.noted after.storage, after.draft, rfl,
            whole.trans (congrArg (Except.map _) done)⟩
        · rw [failed]
          exact Or.inr ⟨error, reason, draft, rfl, whole.trans (congrArg (Except.map _) refused)⟩

/-- Reading changes nothing, except that a recovery waits if there was something to be read. -/
theorem load_cases (x : Circumstances) (k : Keeper) :
    ((load x).runOn k).2 = k ∨
      ∃ r : ReadSnapshot, r.Current k.consensus.storage ∧
        ((load x).runOn k).2 = { k with loaded := k.loaded ++ [r] } := by
  rw [load]
  simp only [runOn_bind, runOn_get]
  split
  · exact Or.inl rfl
  · obtain ⟨r, read, current⟩ | ⟨read, -⟩ | ⟨error, read, -⟩ :=
      ReadSnapshot.read?_cases k.consensus.storage
    · rw [read]
      exact Or.inr ⟨r, current, rfl⟩
    · rw [read]
      exact Or.inl rfl
    · rw [read]
      exact Or.inl rfl

/-- A recovery restores what it has read to all machines, or else changes nothing. -/
theorem resume_cases (x : Circumstances) (r : ReadSnapshot) (k : Keeper) :
    (∃ s, StateSnapshot.ofBytes r.snapshot.stateBytes = .ok s ∧
        (resume x r).runOn k = (.ok r.snapshot.index,
          { k with consensus := k.consensus.resumed x.context r.snapshot s })) ∨
      ∃ error, (resume x r).runOn k = (.error error, k) := by
  rw [resume, runOn_bind, runOn_part, Consensus.resumeInPlace_eq, Consensus.resume_eq]
  cases read : StateSnapshot.ofBytes r.snapshot.stateBytes with
  | ok s => exact Or.inl ⟨s, rfl, rfl⟩
  | error error => exact Or.inr ⟨error, rfl⟩

/-- A commit in place hands out its entry and answers for it, and then takes a snapshot if one is
due. -/
theorem runOn_commit (x : Circumstances) (bytes : Bytes) (k : Keeper) :
    (commit x bytes).runOn k =
      (.ok (k.consensus.handOut x.context bytes).1,
        let handed : Keeper := { k with consensus := (k.consensus.handOut x.context bytes).2 }
        if handed.consensus.IsDue then ((takeSnapshot x).runOn handed).2 else handed) := by
  rw [commit]
  simp only [runOn_bind, runOn_get, runOn_modify]
  split <;> rfl

/-! ### Consensus alone -/

/-- Taking a snapshot in place changes consensus as taking it does, and not at all if that fails. -/
theorem consensus_takeSnapshot (x : Circumstances) (k : Keeper) :
    ((takeSnapshot x).runOn k).2.consensus =
      ((k.consensus.takeSnapshot x.context).toOption.map (·.2)).getD k.consensus := by
  obtain ⟨after, draft, done, taken⟩ | ⟨error, reason, draft, done, failed⟩ := takeSnapshot_cases x k
  · rw [done, taken]
    rfl
  · rw [done, failed]
    rfl

/-- A commit in place answers as a commit does, and changes consensus in the same way. -/
theorem consensus_commit (x : Circumstances) (bytes : Bytes) (k : Keeper) :
    ((commit x bytes).runOn k).1 = .ok (k.consensus.commit x.context bytes).1 ∧
      ((commit x bytes).runOn k).2.consensus = (k.consensus.commit x.context bytes).2 := by
  rw [runOn_commit, Consensus.commit_eq, Consensus.takeDueSnapshot]
  refine ⟨rfl, ?_⟩
  generalize (k.consensus.handOut x.context bytes).2 = handed
  change Keeper.consensus (if handed.IsDue then _ else _) = if handed.IsDue then _ else _
  split
  · rw [consensus_takeSnapshot]
    cases handed.takeSnapshot x.context <;> rfl
  · rfl

/-- A step that commits changes consensus as a commit of the next proposal does. -/
theorem consensus_step_commit (x : Circumstances) (k : Keeper) :
    (k.step (.commit x)).consensus =
      ((k.consensus.commitNext x.context).map (·.2)).getD k.consensus := by
  rw [step, Consensus.commitNext, Consensus.next?]
  cases k.consensus.pending with
  | nil => rfl
  | cons first pending => exact (consensus_commit x first.2 _).2

/-- A step that installs a snapshot changes consensus as installing it does. -/
theorem consensus_step_install (x : Circumstances) (bytes : Bytes) (k : Keeper) :
    (k.step (.install x bytes)).consensus =
      (k.consensus.installSnapshot x.context bytes).toOption.getD k.consensus := by
  simp only [step, Consensus.installInPlace_eq]
  cases k.consensus.installSnapshot x.context bytes <;> rfl

/-- A recovery that nothing comes between is a recovery in one step. -/
theorem consensus_run_recover {x : Circumstances} (readable : x.readable = true) (k : Keeper) :
    (k.run [.load x, .resume x k.loaded.length]).consensus =
      ((k.consensus.recover x.context).toOption.map (·.2)).getD k.consensus := by
  have nobody : k.read? k.loaded.length = none := by
    rw [read?, List.getElem?_eq_none (Nat.le_refl _), Option.map_none]
  simp only [run, List.foldl_cons, List.foldl_nil, step, load, readable, runOn_bind, runOn_get]
  obtain ⟨r, read, current⟩ | ⟨read, found⟩ | ⟨error, read, found⟩ :=
    ReadSnapshot.read?_cases k.consensus.storage
  · have waiting : ({ k with loaded := k.loaded ++ [r] } : Keeper).read? k.loaded.length =
        some (r, k) := by
      rw [read?, List.getElem?_concat_length, Option.map_some, List.eraseIdx_append_of_length_le
        (Nat.le_refl _), Nat.sub_self, List.eraseIdx_cons_zero, List.append_nil]
    rw [Consensus.recover_of_load current.load]
    simp only [read, runOn_check_ok, runOn_bind, runOn_modify, runOn_pure, waiting, resume,
      runOn_part, Consensus.resumeInPlace_eq]
    cases k.consensus.resume x.context r.snapshot <;> rfl
  · simp only [read, runOn_check_ok, runOn_pure, nobody, Consensus.recover, found]
    rfl
  · simp only [read, runOn_check_error, nobody, Consensus.recover, found]
    rfl

/-- Committing up to a proposal is a run of commits and nothing else. -/
theorem consensus_run_commitUpTo (x : Circumstances) (number fuel : Nat) (k : Keeper) :
    ∃ n, (k.run (List.replicate n (.commit x))).consensus =
      (Consensus.commitUpTo x.context number fuel k.consensus).2 := by
  induction fuel generalizing k with
  | zero => exact ⟨0, rfl⟩
  | succ fuel ih =>
      have next := consensus_step_commit x k
      rw [Consensus.commitUpTo]
      cases committed : k.consensus.commitNext x.context with
      | none => exact ⟨0, rfl⟩
      | some result =>
          obtain ⟨⟨other, done⟩, c⟩ := result
          rw [committed, Option.map_some, Option.getD_some] at next
          dsimp only
          split
          · exact ⟨1, next⟩
          · obtain ⟨n, later⟩ := ih (k.step (.commit x))
            rw [next] at later
            exact ⟨n + 1, later⟩

/-- A proposal is put in line, and given time, proposals are committed up to it. -/
theorem consensus_run_propose (x : Circumstances) (bytes : Bytes) (time : Nat) (k : Keeper) :
    ∃ n, (k.run (.submit bytes :: List.replicate n (.commit x))).consensus =
      (k.consensus.propose x.context bytes time).2 := by
  rw [Consensus.propose]
  dsimp only
  split
  · exact ⟨0, rfl⟩
  · obtain ⟨n, later⟩ := consensus_run_commitUpTo x k.consensus.nextProposal
      (k.step (.submit bytes)).consensus.pending.length (k.step (.submit bytes))
    refine ⟨n, later.trans ?_⟩
    split
    · next committed => exact congrArg Prod.snd committed
    · next committed => exact congrArg Prod.snd committed

end Keeper

end ClusterGateway
