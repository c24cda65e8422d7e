import ClusterGateway.Node.Basic
import ClusterGateway.Proofs.Control.Acceptance

/-! # What lasts at a node

Operators ask the control plane of a node for changes at any time, also while commits are under way
and other proposals are in line. A property of machines that lasts under entries of some kind, under
snapshots, under requests and checks and under the stop of the node holds throughout every run in
which entries of that kind alone are proposed.
-/

namespace ClusterGateway

/-- A property of machines that lasts as long as all entries satisfy another one. -/
structure Machine.Lasting (P : Machine → Prop) (Q : Bytes → Prop) : Prop where
  apply : ∀ {m bytes} (around index), P m → Q bytes → P (m.apply around index bytes).2
  adopt : ∀ {m bytes s} (around), P m → StateSnapshot.ofBytes bytes = .ok s → P (m.adopt around s)
  serve : ∀ {m} (event), P m → P (m.serve event)
  stopping : ∀ {m}, P m → P { m with table := { m.table with stopping := true } }
  shutdown : ∀ {m}, P m → P { m with table := m.table.shutdownPools }

/-- An event puts entries in line only if they satisfy a property. -/
def ClusterEvent.Within (Q : Bytes → Prop) : ClusterEvent → Prop
  | submit bytes => Q bytes
  | _ => True

namespace Cluster

/-- All machines have a property, and all entries that they are still to apply another one. -/
structure Holds (c : Cluster) (P : Machine → Prop) (Q : Bytes → Prop) : Prop where
  machines : ∀ m ∈ c.consensus.machines, P m
  pending : ∀ p ∈ c.consensus.pending, Q p.2
  underway : ∀ u, c.underway = some u → Q u.bytes

variable {c : Cluster} {P : Machine → Prop} {Q : Bytes → Prop}

/-- A proposal with the property of entries leaves all properties in place. -/
theorem Holds.submit (held : c.Holds P Q) {bytes : Bytes} (well : Q bytes) :
    (c.step (.submit bytes)).Holds P Q := by
  refine ⟨held.machines, fun p member => ?_, held.underway⟩
  rcases List.mem_append.1 member with waiting | last
  · exact held.pending p waiting
  · rw [List.mem_singleton.1 last]
    exact well

/-- A machine takes the place of another one. -/
theorem Holds.put (held : c.Holds P Q) (n : Nat) {m : Machine} (holds : P m) :
    ({ c with consensus := c.consensus.putMachine n m } : Cluster).Holds P Q := by
  have same : (c.consensus.putMachine n m).pending = c.consensus.pending := by cases n <;> rfl
  refine ⟨fun other member => ?_, fun p waiting => held.pending p (same ▸ waiting), held.underway⟩
  rw [Consensus.machines_putMachine] at member
  rcases List.mem_or_eq_of_mem_set member with kept | rfl
  · exact held.machines other kept
  · exact holds

/-- A delivery leaves all properties in place if applying an entry does. -/
theorem Holds.deliver (held : c.Holds P Q) (lasting : Machine.Lasting P Q)
    (around : Surroundings) : (c.step (.deliver around)).Holds P Q := by
  cases begun : c.underway with
  | none =>
      simp only [step, begun]
      exact held
  | some u =>
      cases found : c.consensus.machine? u.reached with
      | none =>
          simp only [step, begun, found]
          exact held
      | some m =>
          simp only [step, begun, found]
          have well := held.underway u begun
          have next := held.put u.reached
            (lasting.apply around u.index (held.machines m (List.mem_of_getElem? found)) well)
          refine ⟨next.machines, next.pending, fun v later => ?_⟩
          rw [← Option.some.inj later]
          exact well

/-- A commit that comes to its end leaves all properties in place. -/
theorem Holds.conclude (held : c.Holds P Q) (ctx : StepContext) :
    (c.step (.conclude ctx)).Holds P Q := by
  cases begun : c.underway with
  | none =>
      simp only [step, begun]
      exact held
  | some u =>
      simp only [step, begun]
      split
      · obtain ⟨storage, index, snapshot, due⟩ :=
          Consensus.takeDueSnapshot_spec { c.consensus with lastIndex := u.index } ctx
        rw [due]
        exact ⟨held.machines, held.pending, fun v later => absurd later (by simp)⟩
      · exact held

/-- A change that settles, or else fails, leaves all properties in place. -/
theorem Holds.attempt {ε : Type} (held : c.Holds P Q) (lasting : Machine.Lasting P Q)
    (change : Except ε Consensus)
    (settles : ∀ after, change = .ok after → Settles c.consensus after) :
    (c.attempt change).Holds P Q := by
  unfold Cluster.attempt
  split
  · next after idle =>
    obtain ⟨pending, same | ⟨ctx, bytes, s, read, restored⟩⟩ := settles after rfl
    · exact ⟨fun m member => held.machines m (same ▸ member),
        fun p waiting => held.pending p (pending ▸ waiting), held.underway⟩
    · refine ⟨fun m member => ?_, fun p waiting => held.pending p (pending ▸ waiting),
        held.underway⟩
      rw [restored] at member
      obtain ⟨n, within, rfl⟩ := List.mem_mapIdx.1 member
      exact lasting.adopt _ (held.machines _ (List.getElem_mem within)) read
  · exact held

/-- Every event keeps what lasts. -/
theorem Holds.step (held : c.Holds P Q) (lasting : Machine.Lasting P Q) {event : ClusterEvent}
    (within : event.Within Q) : (c.step event).Holds P Q := by
  cases event with
  | submit bytes => exact held.submit within
  | begin =>
      simp only [Cluster.step]
      split
      · next number bytes pending idle waiting =>
        have well (p : Nat × Bytes) (member : p ∈ (number, bytes) :: pending) : Q p.2 :=
          held.pending p (waiting ▸ member)
        refine ⟨held.machines, fun p member => well p (List.mem_cons_of_mem _ member),
          fun u begun => ?_⟩
        rw [← Option.some.inj begun]
        exact well (number, bytes) List.mem_cons_self
      · exact held
  | deliver around => exact held.deliver lasting around
  | conclude ctx => exact held.conclude ctx
  | takeSnapshot ctx => exact held.attempt lasting _ fun _ => settles_of_takeSnapshot
  | install ctx bytes => exact held.attempt lasting _ fun _ => settles_of_installSnapshot
  | load =>
      simp only [Cluster.step]
      split
      · exact ⟨held.machines, held.pending, held.underway⟩
      · exact held
  | resume ctx =>
      simp only [Cluster.step]
      split
      · next stored loaded idle waiting =>
        have next := held.attempt lasting (c.consensus.resume ctx stored) fun _ =>
          settles_of_resume
        exact ⟨next.machines, next.pending, next.underway⟩
      · exact held
  | traffic machine event =>
      simp only [Cluster.step]
      split
      · next m found =>
        exact held.put machine (lasting.serve event (held.machines m (List.mem_of_getElem? found)))
      · exact held

end Cluster

/-! ### The control plane of a node -/

/-- A control plane whose commits take time. -/
structure Site where
  control : ControlPlane
  underway : Option Underway := none
  loaded : List PersistedSnapshot := []

/-- What can happen at the control plane of a node. -/
inductive SiteEvent where
  /-- An operator asks for a change; if the request is accepted, the entry for it is put in line. -/
  | ask (request : WriteRequest)
  /-- Writes are switched on or off. -/
  | allow (accepted : Bool)
  /-- The node lets no more requests come, since it is to stop. -/
  | stopRequests
  /-- The node shuts its pools down, since it is to stop. -/
  | shutdownPools
  /-- Something happens to the cluster. -/
  | cluster (event : ClusterEvent)

/-- An event lets only entries with a property be put in line. -/
def SiteEvent.Within (Q : Bytes → Prop) : SiteEvent → Prop
  | ask request => ∀ t entry, ControlPlane.prepare t request = .ok entry → Q entry.encode
  | cluster event => event.Within Q
  | _ => True

namespace Site

/-- The cluster. -/
def cluster (s : Site) : Cluster := ⟨s.control.consensus, s.underway, s.loaded⟩

/-- Replaces the cluster. -/
def putCluster (s : Site) (c : Cluster) : Site :=
  ⟨{ s.control with consensus := c.consensus }, c.underway, c.loaded⟩

/-- Lets something happen; what is not possible changes nothing. -/
def step (s : Site) : SiteEvent → Site
  | .ask request =>
    match ControlPlane.prepare s.control.table request with
    | .ok entry =>
      if s.control.writeEnabled then s.putCluster (s.cluster.step (.submit entry.encode)) else s
    | .error _ => s
  | .allow accepted => { s with control := { s.control with writeEnabled := accepted } }
  | .stopRequests =>
    { s with control := Node.mapTable s.control fun t => { t with stopping := true } }
  | .shutdownPools => { s with control := Node.mapTable s.control Table.shutdownPools }
  | .cluster event => s.putCluster (s.cluster.step event)

/-- Lets things happen one after another. -/
def run (s : Site) (events : List SiteEvent) : Site := events.foldl step s

/-- What happens to the cluster of a site happens to its cluster alone. -/
theorem run_cluster (s : Site) (events : List ClusterEvent) :
    s.run (events.map .cluster) = s.putCluster (s.cluster.run events) := by
  induction events generalizing s with
  | nil => rfl
  | cons event events ih => exact ih (s.putCluster (s.cluster.step event))

/-- The control plane of a node that has not started. Other machines may follow its log. -/
def fresh (config : Config) (storage : Storage) (followers : List Cluster.MachineSetup) : Site :=
  let control := (Node.build config storage).control
  let machines := followers.map fun setup => Machine.fresh setup.settings setup.hostWait
  { control := { control with consensus := { control.consensus with followers := machines } } }

variable {s : Site} {P : Machine → Prop} {Q : Bytes → Prop}

/-- A change of a table that keeps the property of machines leaves all properties in place. -/
theorem holds_mapTable (held : s.cluster.Holds P Q) {change : Table → Table}
    (kept : ∀ m : Machine, P m → P { m with table := change m.table }) :
    ({ s with control := Node.mapTable s.control change } : Site).cluster.Holds P Q := by
  refine ⟨fun m member => ?_, held.pending, held.underway⟩
  rcases List.mem_cons.1 member with rfl | follower
  · exact kept _ (held.machines _ List.mem_cons_self)
  · exact held.machines m (List.mem_cons_of_mem _ follower)

/-- Every event keeps what lasts. -/
theorem holds_step (held : s.cluster.Holds P Q) (lasting : Machine.Lasting P Q) {event : SiteEvent}
    (within : event.Within Q) : (s.step event).cluster.Holds P Q := by
  cases event with
  | ask request =>
      simp only [step]
      split
      · next entry prepared =>
        split
        · exact held.submit (within _ entry prepared)
        · exact held
      · exact held
  | allow accepted => exact ⟨held.machines, held.pending, held.underway⟩
  | stopRequests => exact holds_mapTable held fun _ => lasting.stopping
  | shutdownPools => exact holds_mapTable held fun _ => lasting.shutdown
  | cluster event => exact held.step lasting within

/-- With no property to keep, every event keeps it. -/
theorem within_true (event : SiteEvent) : event.Within fun _ => True := by
  cases event with
  | ask request => exact fun _ _ _ => trivial
  | cluster event => cases event <;> trivial
  | _ => trivial

/-- Every run keeps what lasts. -/
theorem holds_run (held : s.cluster.Holds P Q) (lasting : Machine.Lasting P Q)
    {events : List SiteEvent} (within : ∀ event ∈ events, event.Within Q) :
    (s.run events).cluster.Holds P Q := by
  induction events generalizing s with
  | nil => exact held
  | cons event events ih =>
      exact ih (holds_step held lasting (within event List.mem_cons_self)) fun later member =>
        within later (List.mem_cons_of_mem _ member)

/-- What holds of machines that have not applied anything holds at a node that has not started. -/
theorem holds_fresh (config : Config) (storage : Storage) (followers : List Cluster.MachineSetup)
    (Q : Bytes → Prop) (fresh : ∀ settings hostWait, P (Machine.fresh settings hostWait)) :
    (Site.fresh config storage followers).cluster.Holds P Q := by
  refine ⟨fun m member => ?_, fun p waiting => absurd waiting List.not_mem_nil,
    fun u begun => absurd begun.symm (Option.some_ne_none u)⟩
  rcases List.mem_cons.1 member with rfl | follower
  · exact fresh _ _
  · obtain ⟨setup, -, rfl⟩ := List.mem_map.1 follower
    exact fresh setup.settings setup.hostWait

end Site

/-! ### Two properties that last -/

namespace Machine

/-- A machine stays sound whatever it is to apply. -/
theorem lasting_sound : Lasting Sound fun _ => True where
  apply around index sound _ := (sound.apply around index _).1
  adopt around sound read := (sound.adopt around (StateSnapshot.fits_of_ofBytes read)).1
  serve event sound := (sound.serve event).1
  stopping {m} sound := by
    have steady : m.table.Steady { m.table with stopping := true } :=
      ⟨rfl, rfl, rfl, rfl, rfl, rfl⟩
    exact sound.of_steady steady _ _
  shutdown {m} sound := by
    refine ⟨sound.table.shutdownPools, ?_, ?_⟩
    · change m.table.cleared.acl.Sound
      rw [Table.acl_cleared]
      exact sound.acl
    · change m.table.cleared.configuration.Fits
      rw [Table.configuration_cleared]
      exact Configuration.fits_empty _

/-- Some entry is read from these octets. -/
def Readable (bytes : Bytes) : Prop := ∃ entry, LogEntry.decode bytes = .ok entry

/-- An entry that can be read does not change the mark of divergence. -/
theorem diverged_apply (m : Machine) {bytes : Bytes} (readable : Readable bytes)
    (around : Surroundings) (index : LogIndex) :
    (m.apply around index bytes).2.diverged = m.diverged := by
  obtain ⟨entry, read⟩ := readable
  rw [apply]
  dsimp only
  split
  · rfl
  · rw [read]
    dsimp only
    split <;> rfl

/-- A machine that follows the log answers to an entry as its execution does. -/
theorem apply_fst {m : Machine} (following : m.diverged = false) {bytes : Bytes} {entry : LogEntry}
    (read : LogEntry.decode bytes = .ok entry) (around : Surroundings) (index : LogIndex) :
    (m.apply around index bytes).1 = (execute m.table around entry).1 := by
  rw [apply]
  dsimp only
  rw [following, if_neg Bool.false_ne_true, read]
  dsimp only
  split
  · next done => rw [done]
  · next failed => rw [failed]

/-- A machine follows the log as long as it can read all entries. -/
theorem lasting_following : Lasting (fun m => m.diverged = false) Readable where
  apply {m _} around index following readable :=
    (diverged_apply m readable around index).trans following
  adopt _ _ _ := rfl
  serve _ following := following
  stopping following := following
  shutdown following := following

end Machine

end ClusterGateway
