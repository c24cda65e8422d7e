import ClusterGateway.Proofs.Config.Review
import ClusterGateway.Proofs.Control.Writes
import ClusterGateway.Proofs.Replication.Delivery

/-! # A reviewed configuration starts a node

A node that finds no snapshot proposes the locations of its configuration one after another. If the
configuration has passed its review and names modes that there are, every location is accepted and
applied: one entry is committed for each, in their order, and the table has just these locations.
Requests and checks may have turns before every proposal, and the commits may come about at any
time, with storage that works or not.
-/

namespace ClusterGateway

namespace Consensus

/-- A snapshot has nothing to do with the number of the next proposal. -/
theorem takeSnapshot_nextProposal (c : Consensus) (ctx : StepContext) (n : Nat) :
    ({ c with nextProposal := n } : Consensus).takeSnapshot ctx =
      (c.takeSnapshot ctx).map fun r => (r.1, { r.2 with nextProposal := n }) := by
  rw [takeSnapshot, takeSnapshot]
  dsimp only
  split
  · rfl
  · cases PersistedSnapshot.wrap c.lastIndex ctx.date c.node c.primary.snapshot with
    | error error => rfl
    | ok wrapped =>
        simp only [bind, Except.bind]
        cases c.storage.write ctx.storageWorks wrapped <;> rfl

/-- A commit does not look at the number of the next proposal. -/
theorem commit_nextProposal (c : Consensus) (ctx : StepContext) (bytes : Bytes) (n : Nat) :
    ({ c with nextProposal := n } : Consensus).commit ctx bytes =
      ((c.commit ctx bytes).1, { (c.commit ctx bytes).2 with nextProposal := n }) := by
  have due (c : Consensus) : ({ c with nextProposal := n } : Consensus).takeDueSnapshot ctx =
      { c.takeDueSnapshot ctx with nextProposal := n } := by
    rw [takeDueSnapshot, takeDueSnapshot, takeSnapshot_nextProposal]
    dsimp only
    split
    · cases c.takeSnapshot ctx <;> rfl
    · rfl
  exact Prod.ext rfl (due
    { Cluster.withMachines c (applyAll ctx c.lastIndex.next bytes 0 c.machines) with
      lastIndex := c.lastIndex.next })

/-- Requests and checks have turns at the primary. -/
def serve (c : Consensus) (events : List Traffic) : Consensus :=
  { c with primary := events.foldl Machine.serve c.primary }

end Consensus

/-- What comes before a proposal of a node that starts, and the surroundings of its commit. -/
structure Interlude where
  /-- The turns that requests and checks have. -/
  traffic : List Traffic := []
  ctx : StepContext := {}

namespace Consensus

/-- Commits the entry for a location, after an interlude. -/
def commitLocation (amid : Interlude) (c : Consensus) (l : Location) : Commit × Consensus :=
  (c.serve amid.traffic).commit amid.ctx (LogEntry.createPool l).encode

/-- Commits the entries for locations one after another. -/
def commitLocations (amid : Location → Interlude) (c : Consensus) (locations : List Location) :
    Consensus :=
  locations.foldl (fun c l => (c.commitLocation (amid l) l).2) c

end Consensus

namespace Node

/-- Proposes locations one after another, each after an interlude. -/
def bootstrapAmid (amid : Location → Interlude) :
    List Location → ControlPlane → Except NodeError Unit × ControlPlane
  | [], c => (.ok (), c)
  | l :: rest, c =>
    let served := { c with consensus := c.consensus.serve (amid l).traffic }
    match served.write (amid l).ctx (.createPool l) with
    | (.ok _, c) => bootstrapAmid amid rest c
    | (.error error, c) => (.error (.bootstrap l.pattern error), c)

/-- Starts a node where requests and checks have turns meanwhile. -/
def startAmid (n : Node) (ctx : StepContext) (amid : Location → Interlude) :
    Except NodeError Unit × Node :=
  match n.control.consensus.recover ctx with
  | .error error => (.error (.consensus (.snapshot error)), n)
  | .ok (some _, consensus) => (.ok (), { n with control := { n.control with consensus } })
  | .ok (none, _) =>
    if n.config.cluster.bootstrap then
      let (result, control) := bootstrapAmid amid n.config.locations n.control
      (result, { n with control })
    else (.ok (), n)

/-- Bootstrapping is bootstrapping with nothing in between. -/
theorem bootstrap_eq (ctx : StepContext) (locations : List Location) (c : ControlPlane) :
    bootstrap ctx locations c = bootstrapAmid (fun _ => { ctx }) locations c := by
  induction locations generalizing c with
  | nil => rfl
  | cons l rest ih =>
      rw [bootstrap, bootstrapAmid]
      simp only [ih]
      rfl

/-- A start is one in which nothing else has a turn. -/
theorem start_eq (n : Node) (ctx : StepContext) :
    n.start ctx = n.startAmid ctx fun _ => { ctx } := by
  rw [start, startAmid]
  exact bootstrap_eq ctx n.config.locations n.control ▸ rfl

end Node

namespace Consensus

variable {c : Consensus} {l : Location} {locations rest : List Location}

/-- Locations can be proposed: each is accepted by itself, and no two share a pattern, with each
other or with a pool. -/
structure Ready (c : Consensus) (locations : List Location) : Prop where
  alone : c.pending = []
  sound : c.primary.Sound
  following : c.primary.diverged = false
  checked : ∀ l ∈ locations, l.check = .ok ()
  named : ∀ l ∈ locations, l.balanceMode ∈ BalanceMode.names
  distinct : (locations.map (·.pattern)).Nodup
  fresh : ∀ l ∈ locations, c.primary.configuration.locations.contains l.pattern = false

/-- Requests and checks keep the primary sound and do not change its replica. -/
theorem serve_spec (sound : c.primary.Sound) (events : List Traffic) :
    (c.serve events).primary.Sound ∧ (c.serve events).primary.replica = c.primary.replica :=
  List.foldlRecOn (motive := fun m : Machine => m.Sound ∧ m.replica = c.primary.replica)
    events _ ⟨sound, rfl⟩ fun _ kept event _ =>
      ⟨(kept.1.serve event).1, (kept.1.serve event).2.trans kept.2⟩

/-- Requests and checks do not take away that locations can be proposed. -/
theorem Ready.serve (ready : c.Ready locations) (events : List Traffic) :
    (c.serve events).Ready locations := by
  obtain ⟨sound, replica⟩ := serve_spec ready.sound events
  have same : (c.serve events).primary.configuration = c.primary.configuration :=
    congrArg Replica.configuration replica
  exact ⟨ready.alone, sound, (congrArg Replica.diverged replica).trans ready.following,
    ready.checked, ready.named, ready.distinct, fun l member => by
      rw [same]
      exact ready.fresh l member⟩

/-- The next location is accepted as it stands. -/
theorem Ready.prepare (ready : c.Ready (l :: rest)) :
    ControlPlane.prepare c.primary.table (.createPool l) = .ok (.createPool l) := by
  obtain ⟨mode, named⟩ := BalanceMode.mem_names.1 (ready.named l List.mem_cons_self)
  have known : ControlPlane.requireMode l.balanceMode = .ok () := by
    rw [ControlPlane.requireMode, BalanceMode.ofName_eq_ok_iff.2 named]
  simp only [ControlPlane.prepare, ready.checked l List.mem_cons_self, known]
  rfl

/-- The entry for a location is committed and applied, and gives the pattern its location. -/
theorem Ready.commit (ready : c.Ready (l :: rest)) (ctx : StepContext) :
    let after := c.commit ctx (LogEntry.createPool l).encode
    after.1 = ⟨c.lastIndex.next, .ok ()⟩ ∧ after.2.lastIndex = c.lastIndex.next ∧
      after.2.primary.configuration.locations =
        c.primary.configuration.locations.insert l.pattern l ∧
      after.2.Ready rest := by
  intro after
  have accepted := ControlPlane.accepts_of_prepare ready.prepare
  have decodes := LogEntry.decode_encode (accepted.fits trivial)
  obtain ⟨done, lastIndex, pending, machines⟩ := c.commit_spec ctx (LogEntry.createPool l).encode
  have primary : after.2.primary =
      (c.primary.apply (ctx.around 0) c.lastIndex.next (LogEntry.createPool l).encode).2 := by
    rw [Consensus.machines, Consensus.machines, List.mapIdx_cons] at machines
    exact (List.cons.inj machines).1
  -- What was accepted is executed; only the removal of a host may fail.
  have applied : (c.primary.apply (ctx.around 0) c.lastIndex.next
      (LogEntry.createPool l).encode).1 = .ok () := by
    rw [Machine.apply_fst ready.following decodes]
    rcases accepted.execute ready.sound.table ready.sound.acl (ctx.around 0) with
      made | ⟨error, -, pattern, host, other, -⟩
    · exact made
    · exact absurd other (by simp)
  obtain ⟨sound, replica⟩ :=
    ready.sound.apply (ctx.around 0) c.lastIndex.next (LogEntry.createPool l).encode
  rw [← primary] at sound replica
  have buildable := Location.buildable_of_check (ready.checked l List.mem_cons_self)
    (ready.named l List.mem_cons_self)
  have followed : after.2.primary.replica =
      ⟨{ c.primary.configuration with
          locations := c.primary.configuration.locations.insert l.pattern l }, false⟩ := by
    rw [replica, Replica.follow]
    change (if c.primary.diverged = true then _ else _) = _
    rw [ready.following, if_neg Bool.false_ne_true, decodes]
    change Replica.mk (c.primary.configuration.after (.createPool l)) c.primary.diverged = _
    rw [ready.following, Configuration.after_createPool,
      if_pos ⟨buildable, ready.fresh l List.mem_cons_self⟩]
  have located : after.2.primary.configuration.locations =
      c.primary.configuration.locations.insert l.pattern l :=
    congrArg (fun r => r.configuration.locations) followed
  obtain ⟨new, distinct⟩ := List.nodup_cons.1 ready.distinct
  refine ⟨done.trans (congrArg _ applied), lastIndex, located, pending.trans ready.alone, sound,
    congrArg Replica.diverged followed,
    fun k member => ready.checked k (List.mem_cons_of_mem l member),
    fun k member => ready.named k (List.mem_cons_of_mem l member), distinct,
    fun k member => ?_⟩
  rw [located, Dict.contains_insert, ready.fresh k (List.mem_cons_of_mem l member), Bool.or_false,
    decide_eq_false_iff_not]
  exact fun same => new (List.mem_map.2 ⟨k, member, same.symm⟩)

/-! ### All locations -/

/-- An index is reached from the one after it with one step less. -/
theorem onwards_next (i : LogIndex) (n : Nat) : i.next.onwards n = i.onwards (n + 1) := by
  induction n with
  | zero => rfl
  | succ n ih => exact congrArg LogIndex.next ih

/-- Committing a location has nothing to do with the number of the next proposal. -/
theorem commitLocation_nextProposal (amid : Interlude) (c : Consensus) (l : Location) (n : Nat) :
    ({ c with nextProposal := n } : Consensus).commitLocation amid l =
      ((c.commitLocation amid l).1, { (c.commitLocation amid l).2 with nextProposal := n }) :=
  commit_nextProposal (c.serve amid.traffic) amid.ctx _ n

theorem commitLocations_nextProposal (amid : Location → Interlude) (c : Consensus)
    (locations : List Location) (n : Nat) :
    ({ c with nextProposal := n } : Consensus).commitLocations amid locations =
      { c.commitLocations amid locations with nextProposal := n } := by
  induction locations generalizing c with
  | nil => rfl
  | cons l rest ih =>
      rw [commitLocations, commitLocations, List.foldl_cons, List.foldl_cons,
        commitLocation_nextProposal]
      exact ih _

/-- The entry for the first location is committed after its interlude. -/
theorem Ready.commitLocation (ready : c.Ready (l :: rest)) (amid : Interlude) :
    let after := c.commitLocation amid l
    after.1 = ⟨c.lastIndex.next, .ok ()⟩ ∧ after.2.lastIndex = c.lastIndex.next ∧
      after.2.primary.configuration.locations =
        c.primary.configuration.locations.insert l.pattern l ∧
      after.2.Ready rest := by
  have served := (ready.serve amid.traffic).commit amid.ctx
  have same : (c.serve amid.traffic).primary.configuration = c.primary.configuration :=
    congrArg Replica.configuration (serve_spec ready.sound amid.traffic).2
  rwa [same] at served

/-- The entries get the indices that follow, in the order of the locations, and are all applied.
Afterwards a pattern has the location that it is given, or the one that it had. -/
theorem Ready.commitLocations (ready : c.Ready locations) (amid : Location → Interlude) :
    (c.commitLocations amid locations).lastIndex = c.lastIndex.onwards locations.length ∧
      (∀ k l, locations[k]? = some l →
        ((c.commitLocations amid (locations.take k)).commitLocation (amid l) l).1 =
          ⟨c.lastIndex.onwards (k + 1), .ok ()⟩) ∧
      (∀ pattern, (c.commitLocations amid locations).primary.table.location? pattern =
        (locations.find? (·.pattern = pattern)).or (c.primary.table.location? pattern)) ∧
      (c.commitLocations amid locations).Ready [] := by
  induction locations generalizing c with
  | nil => exact ⟨rfl, fun k l found => absurd found (by simp), fun pattern => rfl, ready⟩
  | cons l rest ih =>
      obtain ⟨done, index, located, next⟩ := ready.commitLocation (amid l)
      obtain ⟨lastIndex, commits, locations, last⟩ := ih next
      refine ⟨?_, fun k m found => ?_, fun pattern => ?_, last⟩
      · rw [List.length_cons, ← onwards_next, ← index]
        exact lastIndex
      · cases k with
        | zero =>
            obtain rfl := Option.some.inj found
            exact done
        | succ k =>
            rw [← onwards_next, ← index]
            exact commits k m found
      · have here : (c.commitLocation (amid l) l).2.primary.table.location? pattern =
            if l.pattern = pattern then some l else c.primary.table.location? pattern :=
          (congrArg (Dict.get? · pattern) located).trans (Dict.get?_insert _ _ _ _)
        refine (locations pattern).trans ?_
        rw [here, List.find?_cons]
        by_cases same : l.pattern = pattern
        · -- No later location has this pattern.
          have none : rest.find? (·.pattern = pattern) = none := by
            rw [List.find?_eq_none]
            intro m member
            have other : m.pattern ≠ l.pattern := fun equal =>
              (List.nodup_cons.1 ready.distinct).1 (List.mem_map.2 ⟨m, member, equal⟩)
            simpa [← same] using other
          simp [same, none]
        · simp [same]

end Consensus

namespace Node

variable {c : ControlPlane} {locations : List Location}

/-- The control plane accepts a location and commits its entry. -/
theorem write_of_ready {l : Location} {rest : List Location}
    (ready : c.consensus.Ready (l :: rest)) (enabled : c.writeEnabled = true)
    (patient : c.proposeTimeout ≠ 0) (ctx : StepContext) :
    c.write ctx (.createPool l) =
      (.ok c.consensus.lastIndex.next, { c with
        consensus := { (c.consensus.commit ctx (LogEntry.createPool l).encode).2 with
          nextProposal := c.consensus.nextProposal + 1 } }) := by
  have prepared : ControlPlane.prepare c.table (.createPool l) = .ok (.createPool l) :=
    ready.prepare
  obtain ⟨done, -⟩ := ready.commit ctx
  simp only [ControlPlane.write, prepared, ControlPlane.propose, enabled, ↓reduceIte,
    Consensus.propose_alone ready.alone ctx _ patient, Consensus.commit_nextProposal, done]
  rfl

/-- All locations are accepted, and nothing is committed but their entries. -/
theorem bootstrapAmid_of_ready (ready : c.consensus.Ready locations)
    (enabled : c.writeEnabled = true) (patient : c.proposeTimeout ≠ 0)
    (amid : Location → Interlude) :
    bootstrapAmid amid locations c =
      (.ok (), { c with
        consensus := { c.consensus.commitLocations amid locations with
          nextProposal := c.consensus.nextProposal + locations.length } }) := by
  induction locations generalizing c with
  | nil => rfl
  | cons l rest ih =>
      obtain ⟨-, -, -, next⟩ := ready.commitLocation (amid l)
      have written := write_of_ready
        (c := { c with consensus := c.consensus.serve (amid l).traffic })
        (ready.serve (amid l).traffic) enabled patient (amid l).ctx
      let after : Consensus :=
        { (c.consensus.commitLocation (amid l) l).2 with
          nextProposal := c.consensus.nextProposal + 1 }
      have others := ih (c := { c with consensus := after })
        ⟨next.alone, next.sound, next.following, next.checked, next.named, next.distinct,
          next.fresh⟩ enabled patient
      have shifted : after.commitLocations amid rest =
          { c.consensus.commitLocations amid (l :: rest) with
            nextProposal := c.consensus.nextProposal + 1 } :=
        Consensus.commitLocations_nextProposal amid _ rest _
      rw [bootstrapAmid]
      dsimp only
      rw [written]
      refine others.trans ?_
      rw [shifted, List.length_cons, Nat.add_comm rest.length 1, ← Nat.add_assoc]

/-- The node of a configuration after an entry was committed for each of its locations. -/
def opened (config : Config) (storage : Storage) (amid : Location → Interlude) : Node :=
  let n := build config storage
  { n with control := { n.control with
      consensus := { n.control.consensus.commitLocations amid config.locations with
        nextProposal := config.locations.length } } }

/-- What a node has that has started with the locations of its configuration. -/
structure Opened (config : Config) (storage : Storage) (amid : Location → Interlude) : Prop where
  /-- The entry for each location got the next index, and was applied. -/
  commits : ∀ k l, config.locations[k]? = some l →
    (((build config storage).control.consensus.commitLocations amid
      (config.locations.take k)).commitLocation (amid l) l).1 =
        ⟨LogIndex.zero.onwards (k + 1), .ok ()⟩
  /-- Nothing else was committed. -/
  lastIndex : (opened config storage amid).control.consensus.lastIndex =
    LogIndex.zero.onwards config.locations.length
  alone : (opened config storage amid).control.consensus.pending = []
  /-- The patterns are the configured ones. -/
  patterns : ∀ pattern, pattern ∈ (opened config storage amid).control.table.patterns ↔
    ∃ l ∈ config.locations, l.pattern = pattern
  /-- Each has its configured location, and a pool that does what the location says. -/
  located : ∀ l ∈ config.locations,
    (opened config storage amid).control.table.location? l.pattern = some l ∧
      ∃ p, (opened config storage amid).control.table.pool? l.pattern = some p ∧
        Table.Agrees p l

/-- A node that finds no snapshot proposes its locations. -/
theorem startAmid_of_absent {n : Node} (absent : n.control.consensus.storage.load = .ok none)
    (bootstrap : n.config.cluster.bootstrap = true) (ctx : StepContext)
    (amid : Location → Interlude) :
    n.startAmid ctx amid =
      ((bootstrapAmid amid n.config.locations n.control).1,
        { n with control := (bootstrapAmid amid n.config.locations n.control).2 }) := by
  have nothing : n.control.consensus.recover ctx = .ok (none, n.control.consensus) := by
    rw [Consensus.recover, absent]
    rfl
  rw [startAmid, nothing]
  dsimp only
  rw [if_pos bootstrap]

/-- A node that is built from a configuration that passes can propose all its locations. -/
theorem ready_build {config : Config} (passes : config.review.passes = true)
    (named : ∀ l ∈ config.locations, l.balanceMode ∈ BalanceMode.names) (storage : Storage) :
    (build config storage).control.consensus.Ready config.locations :=
  have reviewed := Review.sound_of_passes passes
  ⟨rfl, Machine.sound_fresh _ _, rfl, reviewed.1, named, reviewed.2.1, fun _ _ => rfl⟩

/-- A node whose locations can all be proposed opens with just these, whatever comes between
them. -/
theorem opened_of_ready {config : Config} {storage : Storage}
    (ready : (build config storage).control.consensus.Ready config.locations)
    (amid : Location → Interlude) : Opened config storage amid := by
  obtain ⟨lastIndex, commits, located, last⟩ := ready.commitLocations amid
  have found (pattern : String) :
      (opened config storage amid).control.table.location? pattern =
        config.locations.find? (·.pattern = pattern) :=
    (located pattern).trans (Option.or_none)
  have coherent := last.sound.table.coherent
  have patterns : (opened config storage amid).control.table.patterns =
      (opened config storage amid).control.table.locations.keys := coherent.patterns
  -- No pattern comes twice, so the first location with the pattern is the one meant.
  have here (l : Location) (member : l ∈ config.locations) :
      (opened config storage amid).control.table.location? l.pattern = some l := by
    rw [found]
    cases first : config.locations.find? (·.pattern = l.pattern) with
    | none => exact absurd (decide_eq_true rfl) (List.find?_eq_none.1 first l member)
    | some k =>
        have same : k.pattern = l.pattern := by simpa using List.find?_some first
        rw [List.inj_on_of_nodup_map ready.distinct (List.mem_of_find?_eq_some first) member same]
  refine ⟨commits, lastIndex, last.alone, fun pattern => ?_, fun l member => ⟨here l member, ?_⟩⟩
  · rw [patterns, Dict.mem_keys, Dict.contains]
    change ((opened config storage amid).control.table.location? pattern).isSome = true ↔ _
    rw [found, List.find?_isSome]
    simp
  · have known : (opened config storage amid).control.table.locations.contains l.pattern = true :=
      Dict.contains_iff.2 ⟨l, here l member⟩
    obtain ⟨p, served⟩ := last.sound.table.exists_pool known
    obtain ⟨-, k, there, -, agrees⟩ := coherent.pools _ p served
    obtain rfl := Option.some.inj (there.symm.trans (here l member))
    exact ⟨p, served, agrees⟩

/-- A review reports no fault with the locations of a configuration just when each is sound by
itself and no two share a pattern. If the whole review passes and the modes are known, then a node
that finds no snapshot starts, whatever has turns meanwhile: it commits one entry for each location,
in their order, and has just these locations. -/
theorem reviewed_config_starts (config : Config) :
    ((∀ f ∈ Review.errorsOf config, f.part ≠ .location ∧ f.part ≠ .backend) ↔
        (∀ l ∈ config.locations, l.check = .ok ()) ∧
          (config.locations.map (·.pattern)).Nodup) ∧
      (config.review.passes = true →
        (∀ l ∈ config.locations, l.balanceMode ∈ BalanceMode.names) →
        config.cluster.bootstrap = true → ∀ storage, Storage.load storage = .ok none → ∀ ctx,
          (build config storage).start ctx = (.ok (), opened config storage fun _ => { ctx }) ∧
            ∀ amid, (build config storage).startAmid ctx amid =
                (.ok (), opened config storage amid) ∧
              Opened config storage amid) := by
  refine ⟨Review.no_location_fault_iff config, fun passes named bootstrap storage absent ctx => ?_⟩
  have ready := ready_build passes named storage
  have patient : (build config storage).control.proposeTimeout ≠ 0 :=
    (Review.sound_of_passes passes).2.2
  have starts (amid : Location → Interlude) :
      (build config storage).startAmid ctx amid = (.ok (), opened config storage amid) := by
    have loaded : (build config storage).control.consensus.storage.load = .ok none := absent
    have accepted := bootstrapAmid_of_ready ready rfl patient amid
    rw [show (build config storage).control.consensus.nextProposal = 0 from rfl,
      Nat.zero_add] at accepted
    rw [startAmid_of_absent loaded bootstrap, opened]
    exact congrArg (fun done => (done.1, { build config storage with control := done.2 })) accepted
  exact ⟨(start_eq _ _).trans (starts _), fun amid => ⟨starts amid, opened_of_ready ready amid⟩⟩

/-- A configuration with two locations, under which every commit takes a snapshot. -/
def twoLocations : Config where
  cluster := { snapshotThreshold := 1 }
  locations :=
    [⟨"/b", ["http://[::1]:80", "http://[::1]:81"], "round-robin"⟩,
     ⟨"/a", ["https://[::1]"], "consistent-hash"⟩]

/-- A node starts with two locations. A request is served at the first pool before the second one is
proposed, and the snapshot of the first commit cannot be written. -/
theorem reviewed_config_starts_twoLocations :
    let amid (l : Location) : Interlude :=
      { traffic := [.dispatch 0 "/b/x" (.v4 ⟨0⟩) 0], ctx := { storageWorks := l.pattern = "/a" } }
    (build twoLocations (.folder "/data" .absent)).startAmid {} amid =
        (.ok (), opened twoLocations (.folder "/data" .absent) amid) ∧
      Opened twoLocations (.folder "/data" .absent) amid :=
  ((reviewed_config_starts twoLocations).2 (by decide +kernel) (by decide) rfl
    (.folder "/data" .absent) rfl {}).2 _

end Node

end ClusterGateway
