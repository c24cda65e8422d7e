import ClusterGateway.Proofs.Replication.Keeper

/-! # Snapshots are kept up

A snapshot is taken when enough entries were committed since the last one, or on demand, and a
recovery takes one over from disk. What is known of the last snapshot and what stands on disk are
written one after the other, with failures possible in between. They agree all the same, because a
snapshot counts only when everything is done, and because a commit whose snapshot failed leaves one
due. There is one exception: a recovery reads the snapshot file before it has the log, and another
snapshot may take the place of the one that it has read until it goes on from it.
-/

namespace ClusterGateway

open InPlace

namespace LogIndex

/-- As long as the next index fits into 64 bits it is one more. -/
theorem toNat_next {i : LogIndex} (fits : i.val.toNat + 1 < 2 ^ 64) :
    i.next.val.toNat = i.val.toNat + 1 := by
  rw [val_next, UInt64.toNat_add]
  exact Nat.mod_eq_of_lt fits

/-- The distance between two indices is their difference, and zero if the earlier one is ahead. -/
theorem toNat_distanceFrom (i earlier : LogIndex) :
    (i.distanceFrom earlier).toNat = i.val.toNat - earlier.val.toNat := by
  rw [distanceFrom]
  split
  · next order => exact UInt64.toNat_sub_of_le _ _ order
  · next order =>
    rw [UInt64.le_iff_toNat_le] at order
    exact (Nat.sub_eq_zero_of_le (Nat.le_of_not_le order)).symm

end LogIndex

/-- A snapshot that consensus has taken or gone on from. -/
structure KnownSnapshot where
  index : LogIndex
  bytes : Bytes
  /-- Whether the snapshot file held it at that time, if there is one. -/
  onDisk : Bool
deriving DecidableEq

/-! ### Consensus -/

namespace Consensus

/-- Handing out an entry applies it to every machine under the next index. -/
theorem machines_handOut (c : Consensus) (ctx : StepContext) (bytes : Bytes) :
    (c.handOut ctx bytes).2.machines =
      c.machines.mapIdx fun i m => (m.apply (ctx.around i) c.lastIndex.next bytes).2 :=
  Cluster.machines_applyAll c ctx c.lastIndex.next bytes

/-- A snapshot is due once the threshold is on and as many entries were committed since the last
one. -/
theorem isDue_iff (c : Consensus) :
    c.IsDue ↔ c.threshold ≠ 0 ∧
      c.lastSnapshotIndex.val.toNat + c.threshold ≤ c.lastIndex.val.toNat := by
  rw [IsDue, LogIndex.toNat_distanceFrom]
  omega

/-- The tables and access lists of all machines are in order. -/
def AllSound (c : Consensus) : Prop := ∀ m ∈ c.machines, m.Sound

variable {c after : Consensus} {ctx : StepContext}

/-- If every machine is changed in a way that keeps it sound, all machines are sound. -/
theorem AllSound.of_mapIdx (sound : c.AllSound) {change : Nat → Machine → Machine}
    (changed : after.machines = c.machines.mapIdx change)
    (keeps : ∀ i m, m.Sound → (change i m).Sound) : after.AllSound := by
  intro m member
  rw [changed] at member
  obtain ⟨i, within, rfl⟩ := List.mem_mapIdx.1 member
  exact keeps i _ (sound _ (List.getElem_mem within))

/-- Handing out an entry keeps all machines sound, whatever its octets are. -/
theorem AllSound.handOut (sound : c.AllSound) (ctx : StepContext) (bytes : Bytes) :
    (c.handOut ctx bytes).2.AllSound :=
  sound.of_mapIdx (c.machines_handOut ctx bytes) fun i _ kept =>
    (kept.apply (ctx.around i) _ bytes).1

/-- Taking over a snapshot that can be read keeps all machines sound. -/
theorem AllSound.adopt (sound : c.AllSound) (ctx : StepContext) {bytes : Bytes} {s : StateSnapshot}
    (read : StateSnapshot.ofBytes bytes = .ok s) : (c.adopt ctx s).AllSound :=
  sound.of_mapIdx (c.machines_adopt ctx s) fun i _ kept =>
    (kept.adopt (ctx.around i) (StateSnapshot.fits_of_ofBytes read)).1

/-- The last snapshot is the one that is known, in memory and, if it stood there, on disk. -/
structure Holds (c : Consensus) (known : KnownSnapshot) : Prop where
  snapshot : c.snapshot = some known.bytes
  position : c.lastSnapshotIndex = known.index
  stored : known.onDisk = true → c.storage ≠ .memory → ∃ p s,
    c.storage.load = .ok (some p) ∧ p.index = known.index ∧
      StateSnapshot.ofBytes p.stateBytes = .ok s ∧ StateSnapshot.ofBytes known.bytes = .ok s

/-- A snapshot that was taken can be read back, be it from memory or from disk. -/
theorem holds_of_takeSnapshot {index : LogIndex} (sound : c.primary.Sound)
    (valid : ctx.date.Valid) (taken : c.takeSnapshot ctx = .ok (index, after)) :
    after.Holds ⟨index, c.primary.snapshot, true⟩ := by
  by_cases memory : c.storage = .memory
  · rw [takeSnapshot_of_memory memory] at taken
    obtain ⟨rfl, rfl⟩ := Prod.mk.inj (Except.ok.inj taken)
    exact ⟨rfl, rfl, fun _ disk => absurd rfl disk⟩
  · -- On disk the state stands in an envelope, with other octets than in memory.
    obtain ⟨wrapped, wrap, written⟩ := takeSnapshot_written memory taken
    obtain ⟨rfl, storage, spec⟩ := takeSnapshot_spec taken
    obtain ⟨back, same, -, state⟩ :=
      PersistedSnapshot.ofBytes_wrapped (s := c.primary.state) sound.fits valid wrap
    exact ⟨by rw [spec], by rw [spec], fun _ _ => ⟨wrapped, c.primary.state,
      (Storage.load_write memory written).2 back, same, state,
      StateSnapshot.ofBytes_toBytes sound.fits⟩⟩

/-- With files that work, a snapshot is taken. -/
theorem takeSnapshot_of_writable (sound : c.primary.Sound) (works : ctx.storageWorks = true)
    (writable : c.storage.Writable) : ∃ after, c.takeSnapshot ctx = .ok (c.lastIndex, after) := by
  by_cases memory : c.storage = .memory
  · exact ⟨_, takeSnapshot_of_memory memory ctx⟩
  · have wrapped := PersistedSnapshot.wrap_toBytes (s := c.primary.state) sound.fits c.lastIndex
      ctx.date c.node
    obtain ⟨storage, written⟩ := Storage.write_of_writable writable
      ⟨c.lastIndex, ctx.date, c.node, c.primary.state.document⟩
    refine ⟨c.noted storage, ?_⟩
    rw [takeSnapshot_of_disk memory, works, Machine.snapshot, wrapped]
    change (c.storage.write true _).map _ = _
    rw [written]
    rfl

/-- Fewer entries than the threshold were committed since the last snapshot. -/
def Bounded (c : Consensus) : Prop :=
  c.lastSnapshotIndex.val.toNat ≤ c.lastIndex.val.toNat ∧
    c.lastIndex.val.toNat < c.lastSnapshotIndex.val.toNat + c.threshold

/-- Once the last snapshot is of the last index, nothing was committed since. -/
theorem bounded_of_eq (active : c.threshold ≠ 0) (same : c.lastSnapshotIndex = c.lastIndex) :
    c.Bounded := by
  rw [Bounded, same]
  omega

/-- The same is known of snapshots, and machines that were sound are so. -/
structure Unnoted (c after : Consensus) : Prop where
  threshold : after.threshold = c.threshold
  storage : after.storage = c.storage
  lastSnapshotIndex : after.lastSnapshotIndex = c.lastSnapshotIndex
  snapshot : after.snapshot = c.snapshot
  sound : c.AllSound → after.AllSound

theorem Unnoted.refl (c : Consensus) : c.Unnoted c := ⟨rfl, rfl, rfl, rfl, id⟩

/-- A snapshot that consensus knows of and that no step has touched is still known. -/
theorem Unnoted.holds (unnoted : c.Unnoted after) {known : KnownSnapshot}
    (holds : c.Holds known) : after.Holds known where
  snapshot := unnoted.snapshot.trans holds.snapshot
  position := unnoted.lastSnapshotIndex.trans holds.position
  stored := by
    rw [unnoted.storage]
    exact holds.stored

/-- As long as no snapshot is due, there is room for one entry more. -/
theorem Unnoted.bounded (unnoted : c.Unnoted after) (bounded : c.Bounded)
    (fits : c.lastIndex.val.toNat + 1 < 2 ^ 64) (advanced : after.lastIndex = c.lastIndex.next)
    (active : after.threshold ≠ 0) (quiet : ¬ after.IsDue) : after.Bounded := by
  rw [isDue_iff, not_and] at quiet
  have few := quiet active
  rw [Bounded] at bounded ⊢
  rw [unnoted.lastSnapshotIndex, advanced, LogIndex.toNat_next fits] at *
  omega

end Consensus

/-! ### Keepers -/

/-- What came of an attempt to have a snapshot. -/
inductive Attempt where
  /-- One was taken, of an index and with these octets. -/
  | taken (index : LogIndex) (bytes : Bytes)
  /-- A recovery has gone on from one, which the snapshot file still held or not. -/
  | resumed (index : LogIndex) (bytes : Bytes) (onDisk : Bool)
  | failed
deriving DecidableEq

namespace Attempt

def known? : Attempt → Option KnownSnapshot
  | taken index bytes => some ⟨index, bytes, true⟩
  | resumed index bytes onDisk => some ⟨index, bytes, onDisk⟩
  | failed => none

def isTaken : Attempt → Bool
  | taken _ _ => true
  | _ => false

end Attempt

namespace Keeper

/-- What an event makes of consensus before it is tried to have a snapshot. -/
def primed (k : Keeper) : KeeperEvent → Consensus
  | .commit x =>
    match k.consensus.next? with
    | some (bytes, c) => (c.handOut x.context bytes).2
    | none => k.consensus
  | .snapshot _ => k.consensus
  | .load _ => k.consensus
  | .resume _ _ => k.consensus
  | event => (k.step event).consensus

/-- What comes of taking a snapshot. -/
def taken (k : Keeper) (x : Circumstances) : Attempt :=
  match ((takeSnapshot x).runOn k).1 with
  | .ok index => .taken index k.consensus.primary.snapshot
  | .error _ => .failed

/-- The attempt to have a snapshot that an event brings about, and what comes of it. -/
def attempt? (k : Keeper) : KeeperEvent → Option Attempt
  | .commit x =>
    if k.consensus.next?.isSome ∧ (k.primed (.commit x)).IsDue then
      some (({ k with consensus := k.primed (.commit x) } : Keeper).taken x)
    else none
  | .snapshot x => some (k.taken x)
  | .resume x number =>
    match k.read? number with
    | some (r, later) =>
      match ((resume x r).runOn later).1 with
      | .ok index =>
        some (.resumed index r.snapshot.stateBytes (decide (r.Current k.consensus.storage)))
      | .error _ => none
    | none => none
  | _ => none

/-- What came of the attempts in the course of a run. -/
def journal (k : Keeper) : List KeeperEvent → List Attempt
  | [] => []
  | event :: events => (k.attempt? event).toList ++ (k.step event).journal events

/-- An event commits an entry. -/
def Commits (k : Keeper) (event : KeeperEvent) : Prop :=
  k.consensus.next?.isSome ∧ ∃ x, event = .commit x

/-- No index exceeds 64 bits in the course of a run. -/
def Fits (k : Keeper) : List KeeperEvent → Prop
  | [] => True
  | event :: events =>
    (k.Commits event → k.consensus.lastIndex.val.toNat + 1 < 2 ^ 64) ∧ (k.step event).Fits events

instance (k : Keeper) (event : KeeperEvent) : Decidable (k.Commits event) :=
  match event with
  | .commit x => decidable_of_iff k.consensus.next?.isSome
      ⟨fun waiting => ⟨waiting, x, rfl⟩, And.left⟩
  | .submit _ | .snapshot _ | .install _ _ | .load _ | .resume _ _ | .traffic _ _ =>
    isFalse (by rintro ⟨-, x, same⟩; cases same)

instance decidableFits : (k : Keeper) → (events : List KeeperEvent) → Decidable (k.Fits events)
  | _, [] => isTrue trivial
  | k, event :: events =>
    have := decidableFits (k.step event) events
    inferInstanceAs (Decidable (_ ∧ _))

variable {k : Keeper}

/-- All indices of two runs in a row fit if those of both runs do. -/
theorem fits_append {first second : List KeeperEvent} :
    k.Fits (first ++ second) ↔ k.Fits first ∧ (k.run first).Fits second := by
  induction first generalizing k with
  | nil => rw [List.nil_append, run, List.foldl_nil, Fits, true_and]
  | cons event first ih => rw [List.cons_append, Fits, ih, Fits, and_assoc]; rfl

/-! ### Attempts -/

/-- What becomes of consensus through an attempt to have a snapshot, or without one. -/
inductive Outcome (c : Consensus) : Consensus → Option Attempt → Prop where
  | quiet : Outcome c c none
  | failed : Outcome c c (some .failed)
  | taken {ctx : StepContext} {index : LogIndex} {after : Consensus} (valid : ctx.date.Valid)
      (taken : c.takeSnapshot ctx = .ok (index, after)) :
      Outcome c after (some (.taken index c.primary.snapshot))
  | resumed (ctx : StepContext) (r : ReadSnapshot) {s : StateSnapshot}
      (read : StateSnapshot.ofBytes r.snapshot.stateBytes = .ok s) :
      Outcome c (c.resumed ctx r.snapshot s)
        (some (.resumed r.snapshot.index r.snapshot.stateBytes (decide (r.Current c.storage))))

/-- Taking a snapshot in place is an attempt, and either notes the snapshot or leaves consensus as
it is. -/
theorem outcome_takeSnapshot (x : Circumstances) (k : Keeper) :
    Outcome k.consensus ((takeSnapshot x).runOn k).2.consensus (some (k.taken x)) := by
  rw [Keeper.taken]
  obtain ⟨after, draft, done, taken⟩ | ⟨error, reason, draft, done, -⟩ := takeSnapshot_cases x k
  · rw [done]
    exact .taken x.valid taken
  · rw [done]
    exact .failed

/-- Every event first does its own work, and then there may be an attempt to have a snapshot. -/
theorem outcome_step (k : Keeper) (event : KeeperEvent) :
    Outcome (k.primed event) (k.step event).consensus (k.attempt? event) := by
  cases event with
  | submit bytes => exact .quiet
  | install x bytes => exact .quiet
  | traffic machine event => exact .quiet
  | snapshot x => exact outcome_takeSnapshot x k
  | load x =>
      change Outcome k.consensus ((load x).runOn k).2.consensus none
      obtain done | ⟨r, -, done⟩ := load_cases x k <;> rw [done] <;> exact .quiet
  | resume x number =>
      rw [primed, step, attempt?]
      cases waiting : k.read? number with
      | none => exact .quiet
      | some next =>
          obtain ⟨r, later⟩ := next
          obtain ⟨-, rfl⟩ := read?_eq_some waiting
          dsimp only
          obtain ⟨s, read, done⟩ | ⟨error, done⟩ := resume_cases x r _
          · rw [done]
            exact .resumed x.context r read
          · rw [done]
            exact .quiet
  | commit x =>
      rw [step, attempt?, primed]
      cases k.consensus.next? with
      | none => simpa using Outcome.quiet
      | some next =>
          obtain ⟨bytes, c⟩ := next
          simp only [runOn_commit, Option.isSome_some, true_and]
          split
          · exact outcome_takeSnapshot x { k with consensus := (c.handOut x.context bytes).2 }
          · exact .quiet

/-- Whatever an event does before it is tried to have a snapshot has nothing to do with
snapshots. -/
theorem unnoted_primed (k : Keeper) (event : KeeperEvent) :
    k.consensus.Unnoted (k.primed event) := by
  cases event with
  | submit bytes => exact ⟨rfl, rfl, rfl, rfl, id⟩
  | snapshot x => exact .refl _
  | load x => exact .refl _
  | resume x number => exact .refl _
  | commit x =>
      rw [primed, Consensus.next?]
      cases k.consensus.pending with
      | nil => exact .refl _
      | cons first pending =>
          exact ⟨rfl, rfl, rfl, rfl, fun sound =>
            Consensus.AllSound.handOut (c := { k.consensus with pending }) sound _ _⟩
  | install x bytes =>
      simp only [primed, step, Consensus.installInPlace_eq, Consensus.installSnapshot_eq]
      cases read : StateSnapshot.ofBytes bytes with
      | error error => exact .refl _
      | ok s => exact ⟨rfl, rfl, rfl, rfl, fun sound => sound.adopt x.context read⟩
  | traffic machine event =>
      simp only [primed, step]
      cases found : k.consensus.machine? machine with
      | none => exact .refl _
      | some m =>
          have kept (sound : k.consensus.AllSound) :
              (k.consensus.putMachine machine (m.serve event)).AllSound := by
            intro other member
            rw [Consensus.machines_putMachine] at member
            obtain member | rfl := List.mem_or_eq_of_mem_set member
            · exact sound other member
            · exact ((sound m (List.mem_of_getElem? found)).serve event).1
          cases machine <;> exact ⟨rfl, rfl, rfl, rfl, kept⟩

/-- A commit moves the last index on by one before it is tried to have a snapshot. -/
theorem lastIndex_primed_of_commits {event : KeeperEvent} (commits : k.Commits event) :
    (k.primed event).lastIndex = k.consensus.lastIndex.next := by
  obtain ⟨waiting, x, rfl⟩ := commits
  rw [Consensus.next?] at waiting
  rw [primed, Consensus.next?]
  cases pending : k.consensus.pending with
  | nil =>
      rw [pending] at waiting
      exact absurd waiting (by simp)
  | cons first rest => rfl

/-- Nothing but a commit moves the last index before it is tried to have a snapshot. -/
theorem lastIndex_primed {event : KeeperEvent} (other : ¬ k.Commits event) :
    (k.primed event).lastIndex = k.consensus.lastIndex := by
  cases event with
  | submit bytes => rfl
  | snapshot x => rfl
  | load x => rfl
  | resume x number => rfl
  | commit x =>
      rw [primed]
      cases waiting : k.consensus.next? with
      | none => rfl
      | some next => exact absurd ⟨by rw [waiting]; rfl, x, rfl⟩ other
  | install x bytes =>
      simp only [primed, step, Consensus.installInPlace_eq, Consensus.installSnapshot_eq]
      cases StateSnapshot.ofBytes bytes <;> rfl
  | traffic machine event =>
      simp only [primed, step]
      cases k.consensus.machine? machine with
      | none => rfl
      | some m => cases machine <;> rfl

/-- After a commit it is tried to take a snapshot exactly if one is due. -/
theorem isDue_of_attempt {event : KeeperEvent} (commits : k.Commits event) :
    (k.attempt? event).isSome ↔ (k.primed event).IsDue := by
  obtain ⟨waiting, x, rfl⟩ := commits
  rw [attempt?]
  split
  · next due => exact ⟨fun _ => due.2, fun _ => rfl⟩
  · next not => exact ⟨by simp, fun due => absurd ⟨waiting, due⟩ not⟩

/-! ### Runs -/

/-- The last snapshot that there was according to a journal. -/
def lastKnown (journal : List Attempt) : Option KnownSnapshot :=
  (journal.filterMap Attempt.known?).getLast?

/-- The last snapshot that was had is the last one known. -/
theorem lastKnown_append {a : Attempt} {known : KnownSnapshot} (had : a.known? = some known)
    (journal : List Attempt) : lastKnown (journal ++ [a]) = some known := by
  rw [lastKnown, List.filterMap_append, List.filterMap_cons_some had]
  exact List.getLast?_concat

/-- A failure does not change which snapshot was the last. -/
theorem lastKnown_failed (journal : List Attempt) :
    lastKnown (journal ++ [.failed]) = lastKnown journal := by
  rw [lastKnown, List.filterMap_append]
  exact congrArg List.getLast? (List.append_nil _)

/-- How consensus stands after a run with a certain journal. -/
structure InOrder (c : Consensus) (journal : List Attempt) : Prop where
  sound : c.AllSound
  bounded : c.threshold ≠ 0 → journal.getLast? ≠ some .failed → c.Bounded
  held : ∀ known, lastKnown journal = some known → c.Holds known

variable {journal : List Attempt}

/-- After a snapshot was taken or gone on from, nothing was committed since the last one. -/
theorem InOrder.of_known {c : Consensus} {a : Attempt} {known : KnownSnapshot}
    (had : a.known? = some known) (sound : c.AllSound)
    (same : c.lastSnapshotIndex = c.lastIndex) (holds : c.Holds known) :
    InOrder c (journal ++ [a]) where
  sound
  bounded active _ := Consensus.bounded_of_eq active same
  held other last := by
    rw [lastKnown_append had] at last
    cases last
    exact holds

/-- An event that leaves no snapshot due keeps the bound. -/
theorem bounded_primed (bounded : k.consensus.Bounded) {event : KeeperEvent}
    (fits : k.Commits event → k.consensus.lastIndex.val.toNat + 1 < 2 ^ 64)
    (active : (k.primed event).threshold ≠ 0) (quiet : k.attempt? event = none) :
    (k.primed event).Bounded := by
  have unnoted := k.unnoted_primed event
  by_cases commits : k.Commits event
  · refine unnoted.bounded bounded (fits commits) (lastIndex_primed_of_commits commits) active ?_
    rw [← isDue_of_attempt commits, quiet]
    simp
  · rw [Consensus.Bounded, unnoted.lastSnapshotIndex, lastIndex_primed commits, unnoted.threshold]
    exact bounded

/-- Every event leaves consensus in order. -/
theorem InOrder.step (order : InOrder k.consensus journal) {event : KeeperEvent}
    (fits : k.Commits event → k.consensus.lastIndex.val.toNat + 1 < 2 ^ 64) :
    InOrder (k.step event).consensus (journal ++ (k.attempt? event).toList) := by
  have outcome := k.outcome_step event
  have unnoted := k.unnoted_primed event
  have bounded := fun bounded => k.bounded_primed bounded fits
  have sound := unnoted.sound order.sound
  -- How the event came to its outcome does not matter any more.
  generalize k.attempt? event = attempt at *
  generalize (k.step event).consensus = after at *
  generalize k.primed event = primed at *
  cases outcome with
  | quiet =>
      rw [Option.toList_none, List.append_nil]
      exact {
        sound
        bounded := fun active last =>
          bounded (order.bounded (unnoted.threshold ▸ active) last) active rfl
        held := fun known last => unnoted.holds (order.held known last) }
  | failed =>
      exact {
        sound
        bounded := fun active last => absurd List.getLast?_concat last
        held := fun known last =>
          unnoted.holds (order.held known (lastKnown_failed journal ▸ last)) }
  | taken valid taken =>
      obtain ⟨rfl, storage, spec⟩ := Consensus.takeSnapshot_spec taken
      refine .of_known rfl ?_ (by rw [spec])
        (Consensus.holds_of_takeSnapshot (sound _ List.mem_cons_self) valid taken)
      rw [spec]
      exact sound
  | resumed ctx r read =>
      exact .of_known rfl (sound.adopt ctx read) rfl
        ⟨rfl, rfl, fun onDisk _ => ⟨_, _, (of_decide_eq_true onDisk).load, rfl, read, read⟩⟩

/-- Every run leaves consensus in order. -/
theorem InOrder.run (order : InOrder k.consensus journal) {events : List KeeperEvent}
    (fits : k.Fits events) :
    InOrder (k.run events).consensus (journal ++ k.journal events) := by
  induction events generalizing k journal with
  | nil =>
      rw [Keeper.journal, List.append_nil]
      exact order
  | cons event events ih =>
      rw [Keeper.journal, ← List.append_assoc]
      exact ih (order.step fits.1) fits.2

/-! ### The snapshot file -/

/-- Only when a snapshot is taken another file takes the place of the one that is there. -/
theorem storage_step {event : KeeperEvent}
    (still : ∀ a, k.attempt? event = some a → a.isTaken = false) :
    (k.step event).consensus.storage = k.consensus.storage := by
  have outcome := k.outcome_step event
  rw [← (k.unnoted_primed event).storage]
  generalize k.attempt? event = attempt at *
  generalize (k.step event).consensus = after at *
  cases outcome with
  | quiet => rfl
  | failed => rfl
  | taken valid taken => exact absurd (still _ rfl) (by simp [Attempt.isTaken])
  | resumed ctx r read => rfl

/-- As long as no snapshot is taken, what is stored stays as it is. -/
theorem storage_run {events : List KeeperEvent}
    (still : ∀ a ∈ k.journal events, a.isTaken = false) :
    (k.run events).consensus.storage = k.consensus.storage := by
  induction events generalizing k with
  | nil => rfl
  | cons event events ih =>
      rw [journal] at still
      refine (ih fun a member => still a (List.mem_append_right _ member)).trans ?_
      exact storage_step fun a attempted =>
        still a (List.mem_append_left _ (by rw [attempted]; exact List.mem_singleton_self a))

/-! ### Failures -/

/-- No event changes the threshold. -/
theorem threshold_step (k : Keeper) (event : KeeperEvent) :
    (k.step event).consensus.threshold = k.consensus.threshold := by
  have outcome := k.outcome_step event
  rw [← (k.unnoted_primed event).threshold]
  generalize k.attempt? event = attempt at *
  generalize (k.step event).consensus = after at *
  cases outcome with
  | quiet => rfl
  | failed => rfl
  | taken valid taken =>
      obtain ⟨-, storage, rfl⟩ := Consensus.takeSnapshot_spec taken
      rfl
  | resumed ctx r read => rfl

/-- No run changes the threshold. -/
theorem threshold_run (k : Keeper) (events : List KeeperEvent) :
    (k.run events).consensus.threshold = k.consensus.threshold := by
  induction events generalizing k with
  | nil => rfl
  | cons event events ih => exact (ih _).trans (k.threshold_step event)

/-- Without a snapshot, what an event does first is all that it does. -/
theorem step_of_failed {event : KeeperEvent}
    (failed : ∀ a, k.attempt? event = some a → a = .failed) :
    (k.step event).consensus = k.primed event := by
  have outcome := k.outcome_step event
  generalize k.attempt? event = attempt at *
  generalize (k.step event).consensus = after at *
  cases outcome with
  | quiet => rfl
  | failed => rfl
  | taken valid taken => exact absurd (failed _ rfl) (by simp)
  | resumed ctx r read => exact absurd (failed _ rfl) (by simp)

/-- A snapshot that is due stays so for as long as it is not taken. -/
theorem isDue_primed (due : k.consensus.IsDue) {event : KeeperEvent}
    (fits : k.Commits event → k.consensus.lastIndex.val.toNat + 1 < 2 ^ 64) :
    (k.primed event).IsDue := by
  have unnoted := k.unnoted_primed event
  rw [Consensus.isDue_iff] at due ⊢
  rw [unnoted.threshold, unnoted.lastSnapshotIndex]
  by_cases commits : k.Commits event
  · rw [lastIndex_primed_of_commits commits, LogIndex.toNat_next (fits commits)]
    omega
  · rw [lastIndex_primed commits]
    exact due

/-- A snapshot that is due stays due as long as all attempts to have one fail. -/
theorem isDue_run (due : k.consensus.IsDue) {events : List KeeperEvent} (fits : k.Fits events)
    (failed : ∀ a ∈ k.journal events, a = .failed) : (k.run events).consensus.IsDue := by
  induction events generalizing k with
  | nil => exact due
  | cons event events ih =>
      rw [journal] at failed
      refine ih ?_ fits.2 fun a member => failed a (List.mem_append_right _ member)
      rw [step_of_failed fun a attempted =>
        failed a (List.mem_append_left _ (by rw [attempted]; exact List.mem_singleton_self a))]
      exact isDue_primed due fits.1

/-- A failed attempt to have a snapshot changes nothing that is known of snapshots, in memory or on
disk, and an entry is committed as it would have been without it. -/
structure Harmless (k : Keeper) (event : KeeperEvent) : Prop where
  snapshot : (k.step event).consensus.snapshot = k.consensus.snapshot
  lastSnapshotIndex :
    (k.step event).consensus.lastSnapshotIndex = k.consensus.lastSnapshotIndex
  storage : (k.step event).consensus.storage = k.consensus.storage
  commit : ∀ x bytes c, event = .commit x → k.consensus.next? = some (bytes, c) →
    ((commit x bytes).runOn { k with consensus := c }).1 = .ok (c.handOut x.context bytes).1 ∧
      (k.step event).consensus = (c.handOut x.context bytes).2

/-- A failed attempt to have a snapshot does no harm. -/
theorem harmless_of_failed {event : KeeperEvent} (failed : k.attempt? event = some .failed) :
    k.Harmless event := by
  have unnoted := k.unnoted_primed event
  have same : (k.step event).consensus = k.primed event := step_of_failed fun a attempted =>
    Option.some.inj (attempted.symm.trans failed)
  refine ⟨?_, ?_, ?_, fun x bytes c committed waiting => ?_⟩
  · rw [same, unnoted.snapshot]
  · rw [same, unnoted.lastSnapshotIndex]
  · rw [same, unnoted.storage]
  · subst committed
    rw [same, runOn_commit, primed, waiting]
    exact ⟨rfl, rfl⟩

/-- With files that work, no attempt fails. -/
theorem attempt_of_writable (sound : k.consensus.AllSound) {x : Circumstances}
    (works : x.fault = none) (writable : k.consensus.storage.Writable) :
    k.attempt? (.commit x) ≠ some .failed := by
  intro failed
  rw [attempt?] at failed
  split at failed
  · have unnoted := k.unnoted_primed (.commit x)
    let primed : Keeper := { k with consensus := k.primed (.commit x) }
    have taken : primed.taken x = .failed := Option.some.inj failed
    rw [Keeper.taken] at taken
    obtain ⟨after, draft, done, -⟩ | ⟨error, reason, draft, -, refused⟩ :=
      takeSnapshot_cases x primed
    · rw [done] at taken
      exact absurd taken (by simp)
    · have working : x.context.storageWorks = true := by
        rw [Circumstances.context, works]
        rfl
      obtain ⟨after, done⟩ := Consensus.takeSnapshot_of_writable
        (unnoted.sound sound _ List.mem_cons_self) working (unnoted.storage ▸ writable)
      exact absurd (refused.symm.trans done) (by simp)
  · exact absurd failed (by simp)

/-- When a commit has failed to have a snapshot, every later one tries again until there is one. -/
theorem retried {x : Circumstances} (failed : k.attempt? (.commit x) = some .failed)
    {events : List KeeperEvent} {event : KeeperEvent}
    (fits : k.Fits (.commit x :: events ++ [event]))
    (still : ∀ a ∈ (k.step (.commit x)).journal events, a = .failed)
    (commits : ((k.step (.commit x)).run events).Commits event) :
    (((k.step (.commit x)).run events).attempt? event).isSome := by
  have due : (k.step (.commit x)).consensus.IsDue := by
    have waiting : k.consensus.next?.isSome := by
      rw [attempt?] at failed
      split at failed
      · next both => exact both.1
      · exact absurd failed (by simp)
    rw [step_of_failed fun a attempted => Option.some.inj (attempted.symm.trans failed),
      ← isDue_of_attempt ⟨waiting, x, rfl⟩, failed]
    rfl
  obtain ⟨before, last⟩ := fits_append.1 fits
  exact (isDue_of_attempt commits).2 (isDue_primed (isDue_run due before.2 still) last.1)

/-! ### From the beginning -/

/-- A keeper whose machines may have a past, but whose log has none. -/
def start (primary : Machine) (followers : List Machine) (threshold : Nat) (storage : Storage)
    (node : NodeName) (draft : Option Bytes) : Keeper where
  consensus := { primary, followers, threshold, storage, node }
  draft

/-- A keeper whose log has no past is in order, and no snapshot is known. -/
theorem inOrder_start {primary : Machine} {followers : List Machine}
    (reachable : ∀ m ∈ primary :: followers, m.Reachable) (threshold : Nat) (storage : Storage)
    (node : NodeName) (draft : Option Bytes) :
    InOrder (start primary followers threshold storage node draft).consensus [] where
  sound m member := (reachable m member).sound
  bounded active _ := Consensus.bounded_of_eq active rfl
  held _ last := absurd last (by simp [lastKnown])

/-- Whatever requests are served and whatever operations on files fail: if no attempt to have a
snapshot has failed since the last one there was, fewer entries were committed since than the
threshold; the last snapshot there was is the one in memory, and the one on disk unless a recovery
has gone on from it after the file had been exchanged, which only happens when another snapshot is
taken; and an attempt that fails does no harm, and when it was made after a commit it is made again
after the next one, with success if nothing fails. -/
theorem snapshots_kept_up {primary : Machine} {followers : List Machine}
    (reachable : ∀ m ∈ primary :: followers, m.Reachable) (threshold : Nat) (storage : Storage)
    (node : NodeName) (draft : Option Bytes) {events : List KeeperEvent}
    (fits : (start primary followers threshold storage node draft).Fits events) :
    let first := start primary followers threshold storage node draft
    let k := first.run events
    (threshold ≠ 0 → (first.journal events).getLast? ≠ some .failed →
        k.consensus.lastSnapshotIndex.val.toNat ≤ k.consensus.lastIndex.val.toNat ∧
          k.consensus.lastIndex.val.toNat <
            k.consensus.lastSnapshotIndex.val.toNat + threshold) ∧
      (∀ known, lastKnown (first.journal events) = some known → k.consensus.Holds known) ∧
      (∀ more, (∀ a ∈ k.journal more, a.isTaken = false) →
        (k.run more).consensus.storage = k.consensus.storage) ∧
      (∀ event, k.attempt? event = some .failed → k.Harmless event) ∧
      ∀ x more y, k.attempt? (.commit x) = some .failed →
        k.Fits (.commit x :: more ++ [.commit y]) →
        (∀ a ∈ (k.step (.commit x)).journal more, a = .failed) →
        let later := (k.step (.commit x)).run more
        later.Commits (.commit y) → (later.attempt? (.commit y)).isSome ∧
          (y.fault = none → later.consensus.storage.Writable →
            later.attempt? (.commit y) ≠ some .failed) := by
  intro first k
  have order := (inOrder_start reachable threshold storage node draft).run fits
  have same : k.consensus.threshold = threshold := first.threshold_run events
  rw [List.nil_append] at order
  refine ⟨fun active last => ?_, order.held, fun more => storage_run,
    fun event => harmless_of_failed,
    fun x more y failed within still commits =>
      ⟨retried failed within still commits, attempt_of_writable ?_⟩⟩
  · have bounded := order.bounded (by rwa [same]) last
    rw [Consensus.Bounded] at bounded
    rwa [same] at bounded
  · exact (order.run (fits_append.1 within).1).sound

/-- The entry that blocks a network. -/
def sampleEntry : Bytes := (LogEntry.aclMutate .insert "10.0.0.0/8").encode

/-- Circumstances in which a write fails, or none does. -/
def faced (fault : Option WriteFault) : Circumstances :=
  { date := .epoch, valid := Timestamp.valid_epoch, fault }

/-- A group of two over an empty directory, with a threshold. -/
def sampleKeeper (threshold : Nat) : Keeper :=
  start (.fresh {} 0) [.fresh { replicas := 3 } 5] threshold (.folder "data" .absent) {} none

/-- The machines of the sample are reachable, since nothing has happened to them. -/
theorem reachable_sampleKeeper (threshold : Nat) :
    ∀ m ∈ (sampleKeeper threshold).consensus.machines, m.Reachable := by
  change ∀ m ∈ [Machine.fresh {} 0, Machine.fresh { replicas := 3 } 5], m.Reachable
  simp only [List.forall_mem_cons, List.not_mem_nil, false_imp_iff, implies_true, and_true]
  exact ⟨⟨{}, 0, [], rfl⟩, { replicas := 3 }, 5, [], rfl⟩

/-- Four proposals, of which the first is committed. -/
def calmRun : List KeeperEvent :=
  List.replicate 4 (.submit sampleEntry) ++ [.commit (faced none)]

/-- The snapshot after the second commit fails half way, and so does one on demand, while what is
handed over cannot be decoded; after the third commit there is a snapshot. Then another one fails,
and a recovery goes back to the third entry, although a fourth one was committed while it waited. -/
def troubledRun : List KeeperEvent :=
  [.commit (faced (some (.draft 3))), .snapshot (faced (some .directory)),
   .install (faced none) [0xFF], .commit (faced none), .load (faced none),
   .commit (faced none), .snapshot (faced (some .exchange)), .resume (faced none) 0]

/-- A failed attempt does no harm, the next commit tries again, and in the end the snapshot of the
third entry is in memory and on disk. -/
theorem snapshots_kept_up_troubledRun :
    (∀ m ∈ (sampleKeeper 2).consensus.machines, m.Reachable) ∧
      (sampleKeeper 2).Fits (calmRun ++ troubledRun) ∧
      ((sampleKeeper 2).journal (calmRun ++ troubledRun)).map (fun a => a.known?.map (·.index)) =
        [none, none, some ⟨3⟩, none, some ⟨3⟩] ∧
      ((sampleKeeper 2).run (calmRun ++ troubledRun)).consensus.lastIndex.val.toNat <
        ((sampleKeeper 2).run (calmRun ++ troubledRun)).consensus.lastSnapshotIndex.val.toNat + 2 ∧
      ∃ bytes, ((sampleKeeper 2).run (calmRun ++ troubledRun)).consensus.Holds
        ⟨⟨3⟩, bytes, true⟩ := by
  have fits : (sampleKeeper 2).Fits (calmRun ++ troubledRun) := by decide +kernel
  obtain ⟨attempts, succeeded, last⟩ : ((sampleKeeper 2).journal (calmRun ++ troubledRun)).map
      (fun a => a.known?.map (·.index)) = [none, none, some ⟨3⟩, none, some ⟨3⟩] ∧
        ((sampleKeeper 2).journal (calmRun ++ troubledRun)).getLast? ≠ some .failed ∧
        (lastKnown ((sampleKeeper 2).journal (calmRun ++ troubledRun))).map
          (fun known => (known.index, known.onDisk)) = some (⟨3⟩, true) := by
    decide +kernel
  have whole := @snapshots_kept_up (.fresh {} 0) [.fresh { replicas := 3 } 5]
    (reachable_sampleKeeper 2) 2 (.folder "data" .absent) {} none (calmRun ++ troubledRun) fits
  have same : start (.fresh {} 0) [.fresh { replicas := 3 } 5] 2 (.folder "data" .absent) {} none =
    sampleKeeper 2 := rfl
  rw [same] at whole
  obtain ⟨bounded, held, -⟩ := whole
  obtain ⟨⟨index, bytes, onDisk⟩, known, both⟩ := Option.map_eq_some_iff.1 last
  obtain ⟨rfl, rfl⟩ := Prod.mk.inj both
  exact ⟨reachable_sampleKeeper 2, fits, attempts, (bounded (by decide) succeeded).2, bytes,
    held _ known⟩

/-- While a recovery waits, the snapshot that it has read is replaced on disk. -/
def overtakenRun : List KeeperEvent :=
  [.submit sampleEntry, .commit (faced none), .load (faced none), .submit sampleEntry,
   .commit (faced none), .resume (faced none) 0]

/-- Though nothing has failed, the snapshot file is not of the index from which the recovery has gone
on. -/
theorem snapshot_file_may_be_ahead :
    ((sampleKeeper 1).journal overtakenRun).map (fun a => a.known?.map (·.index)) =
        [some ⟨1⟩, some ⟨2⟩, some ⟨1⟩] ∧
      ¬ ∃ p, ((sampleKeeper 1).run overtakenRun).consensus.storage.load = .ok (some p) ∧
        p.index = ((sampleKeeper 1).run overtakenRun).consensus.lastSnapshotIndex := by
  refine ⟨by decide +kernel, ?_⟩
  rintro ⟨p, found, same⟩
  obtain ⟨file, log⟩ : ((sampleKeeper 1).run overtakenRun).consensus.storage.load.toOption.map
      (fun stored => stored.map (·.index)) = some (some ⟨2⟩) ∧
        ((sampleKeeper 1).run overtakenRun).consensus.lastSnapshotIndex = ⟨1⟩ := by
    decide +kernel
  rw [found] at file
  rw [log] at same
  have ahead : p.index = ⟨2⟩ := Option.some.inj (Option.some.inj file)
  exact absurd (ahead.symm.trans same) (by decide)

end Keeper

end ClusterGateway
