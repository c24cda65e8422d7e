import ClusterGateway.Proofs.Replication.Replica

/-! # Catching up from a snapshot

A machine that takes over the snapshot of another one has the same blocked networks, and at every
pattern the same location with the same limiters, and a pool with the same hosts. It keeps them as
long as the two are given the same entries. Only a location without hosts is not rebuilt, and that
does not touch the other patterns, because what an entry makes of a pattern depends on that pattern
alone. For the entries that follow, the source must not have diverged: a source that has diverged
refuses entries that the copy applies.
-/

namespace ClusterGateway

/-- No two modes have the same name. -/
theorem BalanceMode.name_injective : Function.Injective BalanceMode.name := by
  intro a b same
  cases a <;> cases b <;> first | rfl | exact absurd same (by decide)

/-- What a pool does for requests: its pattern, its hosts with their targets, and its mode. -/
structure Service where
  pattern : String
  /-- The addresses to which requests go, by host. -/
  targets : Dict WebUrl
  mode : BalanceMode
deriving DecidableEq

namespace Table

/-- The service of each pool, by pattern. -/
def services (t : Table) : Dict Service :=
  t.router.entries.map fun _ p => ⟨p.pattern, Pool.targetsOf p.hosts, p.balancer.mode⟩

/-- A service is an outline without the limiters. -/
theorem get?_services (t : Table) (pattern : String) :
    t.services.get? pattern =
      (t.outlines.get? pattern).map fun o => ⟨o.pattern, o.targets, o.mode⟩ := by
  simp only [services, outlines, Dict.get?_map, Option.map_map]
  rfl

/-- Tables with the same location at a pattern do the same for requests to it. -/
theorem Sound.get?_services_eq {t u : Table} (sound : t.Sound) (others : u.Sound) {pattern : String}
    (same : u.locations.get? pattern = t.locations.get? pattern) :
    u.services.get? pattern = t.services.get? pattern := by
  rw [get?_services, get?_services]
  have keys : u.outlines.contains pattern = t.outlines.contains pattern := by
    rw [others.keyed, sound.keyed, Dict.contains, Dict.contains, same]
  rw [Dict.contains, Dict.contains] at keys
  cases first : u.outlines.get? pattern with
  | none =>
      rw [first] at keys
      cases second : t.outlines.get? pattern with
      | none => rfl
      | some o =>
          rw [second] at keys
          exact absurd keys (by simp)
  | some a =>
      rw [first] at keys
      obtain ⟨b, second⟩ := Option.isSome_iff_exists.1 keys.symm
      have known : t.locations.contains pattern = true := by
        rw [← sound.keyed, Dict.contains, second]
        rfl
      obtain ⟨l, located⟩ := Dict.contains_iff.1 known
      have here := others.serves first (same.trans located)
      have there := sound.serves second located
      have targets : a.targets = b.targets :=
        Dict.ext_get? fun key => (here.targets key).trans (there.targets key).symm
      have mode : a.mode = b.mode := BalanceMode.name_injective (here.mode.trans there.mode.symm)
      rw [second, Option.map_some, Option.map_some, here.pattern, there.pattern, targets, mode]

/-- Tables with the same locations do the same for requests. -/
theorem Sound.services_eq {t u : Table} (sound : t.Sound) (others : u.Sound)
    (same : u.locations = t.locations) : u.services = t.services :=
  Dict.ext_get? fun _ => sound.get?_services_eq others (by rw [same])

end Table

namespace Machine

variable {m : Machine}

/-! ### Runs of a machine -/

/-- Whatever can happen to a machine. -/
inductive Event where
  | apply (around : Surroundings) (index : LogIndex) (bytes : Bytes)
  | restore (around : Surroundings) (bytes : Bytes)
  | traffic (event : Traffic)

/-- Lets something happen to a machine; a snapshot that cannot be read changes nothing. -/
def undergo (m : Machine) : Event → Machine
  | .apply around index bytes => (m.apply around index bytes).2
  | .restore around bytes => ((m.restore around bytes).toOption).getD m
  | .traffic event => m.serve event

/-- Lets things happen one after another. -/
def run (m : Machine) (events : List Event) : Machine := events.foldl undergo m

/-- Whatever happens to a sound machine, it stays sound. -/
theorem Sound.undergo (sound : m.Sound) (event : Event) : (m.undergo event).Sound := by
  cases event with
  | apply around index bytes => exact (sound.apply around index bytes).1
  | restore around bytes =>
      rw [Machine.undergo]
      cases read : StateSnapshot.ofBytes bytes with
      | ok s =>
          obtain ⟨after, restored, kept, _⟩ := sound.restore_of_read around read
          rw [restored]
          exact kept
      | error error =>
          rw [restore_of_error read]
          exact sound
  | traffic event => exact (sound.serve event).1

/-- Every run keeps a machine sound. -/
theorem Sound.run (sound : m.Sound) (events : List Event) : (m.run events).Sound := by
  induction events generalizing m with
  | nil => exact sound
  | cons event events ih => exact ih (sound.undergo event)

/-! ### Copies -/

/-- A committed entry as it reaches two machines. -/
structure Delivery where
  index : LogIndex
  bytes : Bytes
  here : Surroundings := {}
  there : Surroundings := {}

/-- Applies entries one after another, each in surroundings of its own. -/
def receive (around : Delivery → Surroundings) (m : Machine) (deliveries : List Delivery) :
    Machine :=
  deliveries.foldl (fun m d => (m.apply (around d) d.index d.bytes).2) m

/-- A sound machine that is given entries stays sound, and its replica follows the entries one after
another, whatever the surroundings are. -/
theorem Sound.receive (sound : m.Sound) (around : Delivery → Surroundings)
    (deliveries : List Delivery) :
    (m.receive around deliveries).Sound ∧ (m.receive around deliveries).replica =
      m.replica.followAll (deliveries.map (·.bytes)) := by
  induction deliveries generalizing m with
  | nil => exact ⟨sound, rfl⟩
  | cons d deliveries ih =>
      obtain ⟨kept, same⟩ := sound.apply (around d) d.index d.bytes
      have rest := ih kept
      rw [same] at rest
      exact rest

/-- Machines with one replica stay alike under the same entries. -/
theorem Sound.receive_alike {other : Machine} (sound : m.Sound) (others : other.Sound)
    (same : other.replica = m.replica) (deliveries : List Delivery) :
    (other.receive (·.there) deliveries).replica = (m.receive (·.here) deliveries).replica := by
  rw [(others.receive _ deliveries).2, (sound.receive _ deliveries).2, same]

/-- Every location has a host. -/
def Hosted (m : Machine) : Prop := ∀ l ∈ m.table.locations.values, l.proxyPass ≠ []

instance (m : Machine) : Decidable m.Hosted := inferInstanceAs (Decidable (∀ _ ∈ _, _))

/-- The location at a pattern has no host. -/
def Emptied (m : Machine) (pattern : String) : Prop := m.configuration.Emptied pattern

instance (m : Machine) (pattern : String) : Decidable (m.Emptied pattern) :=
  inferInstanceAs (Decidable (m.configuration.Emptied pattern))

/-- If every location has a host, no location is without one. -/
theorem Hosted.not_emptied (hosted : m.Hosted) (pattern : String) : ¬ m.Emptied pattern :=
  fun ⟨l, found, bare⟩ => hosted l (Dict.mem_values.2 ⟨pattern, found⟩) bare

/-- A copy is like its source, in its state and in what its pools do for requests, but for some
patterns. -/
structure AlikeApartFrom (lost : String → Prop) (source copy : Machine) : Prop where
  routerType : copy.state.routing.routerType = source.state.routing.routerType
  records : copy.state.records = source.state.records
  locations : ∀ pattern, ¬ lost pattern →
    copy.state.routing.locations.get? pattern = source.state.routing.locations.get? pattern
  limiters : ∀ pattern, ¬ lost pattern →
    copy.state.routing.limiters.get? pattern = source.state.routing.limiters.get? pattern
  services : ∀ pattern, ¬ lost pattern →
    copy.table.services.get? pattern = source.table.services.get? pattern

/-- Without a pattern to leave out, machines that are alike have one state and one set of pools. -/
theorem AlikeApartFrom.whole {lost : String → Prop} {source copy : Machine}
    (alike : AlikeApartFrom lost source copy) (none : ∀ pattern, ¬ lost pattern) :
    copy.state = source.state ∧ copy.table.services = source.table.services := by
  have locations : copy.state.routing.locations = source.state.routing.locations :=
    Dict.ext_get? fun pattern => alike.locations pattern (none pattern)
  have limiters : copy.state.routing.limiters = source.state.routing.limiters :=
    Dict.ext_get? fun pattern => alike.limiters pattern (none pattern)
  have records := alike.records
  have routerType := alike.routerType
  refine ⟨?_, Dict.ext_get? fun pattern => alike.services pattern (none pattern)⟩
  generalize copy.state = s at *
  generalize source.state = u at *
  obtain ⟨⟨_, _, _⟩, _⟩ := s
  obtain ⟨⟨_, _, _⟩, _⟩ := u
  subst locations limiters records routerType
  rfl

/-- Live pools have no more to them than their locations say, so machines are alike where their
configurations are. -/
theorem Sound.alikeApartFrom {lost : String → Prop} {source copy : Machine} (sound : source.Sound)
    (others : copy.Sound) (blocked : copy.configuration.blocked = source.configuration.blocked)
    (same : ∀ pattern, ¬ lost pattern →
      Configuration.SameAt pattern source.configuration copy.configuration) :
    AlikeApartFrom lost source copy where
  routerType := rfl
  records := congrArg Dict.keys blocked
  locations pattern kept := (same pattern kept).location
  limiters pattern kept := (same pattern kept).limiters
  services pattern kept :=
    sound.table.get?_services_eq others.table (same pattern kept).location

/-- Machines in step stay alike under the same entries, at the patterns where they are the same, and
at those whose pools the entries remove. -/
theorem Sound.receive_alikeApartFrom {lost : String → Prop} {source copy : Machine}
    (sound : source.Sound) (others : copy.Sound) (level : source.replica.InStep copy.replica)
    (following : source.diverged = false)
    (kept : ∀ pattern, ¬ lost pattern →
      Configuration.SameAt pattern source.configuration copy.configuration)
    (deliveries : List Delivery) :
    AlikeApartFrom
      (fun pattern => lost pattern ∧ Replica.removes pattern (deliveries.map (·.bytes)) = false)
      (source.receive (·.here) deliveries) (copy.receive (·.there) deliveries) := by
  obtain ⟨soundAfter, hereAfter⟩ := sound.receive (·.here) deliveries
  obtain ⟨othersAfter, thereAfter⟩ := others.receive (·.there) deliveries
  refine soundAfter.alikeApartFrom othersAfter ?_ fun pattern left => ?_
  · have same := (level.followAll (deliveries.map (·.bytes))).blocked
    rwa [← hereAfter, ← thereAfter] at same
  · have same : Configuration.SameAt pattern
        (source.replica.followAll (deliveries.map (·.bytes))).configuration
        (copy.replica.followAll (deliveries.map (·.bytes))).configuration := by
      cases removed : Replica.removes pattern (deliveries.map (·.bytes)) with
      | true => exact level.sameAt_of_removes following removed
      | false => exact level.sameAt_followAll (kept pattern fun lost => left ⟨lost, removed⟩) _
    rwa [← hereAfter, ← thereAfter] at same

/-- The snapshot of a machine gives back what of its configuration has hosts. -/
theorem Sound.adopt_snapshot (sound : m.Sound) (r : Replica) :
    r.adopt m.snapshot = ⟨m.configuration.served, false⟩ := by
  have read : StateSnapshot.ofBytes m.snapshot = .ok m.configuration.state :=
    StateSnapshot.ofBytes_toBytes sound.fits
  rw [Replica.adopt, read]
  exact congrArg (Replica.mk · false)
    (Configuration.restored_state_eq_served sound.table.configured sound.named)

/-- The copy of a machine is like the machine at every pattern that has hosts, and stays so under
all further entries unless the machine has diverged. An emptied pattern is alike again once an entry
removes its pool. If no pattern is emptied, the two have one state and the same pools. -/
theorem copy_follows (settings copySettings : PoolSettings) (hostWait copyWait : Nat)
    (events : List Event) (around : Surroundings) :
    let source := (fresh settings hostWait).run events
    ∃ copy, (fresh copySettings copyWait).restore around source.snapshot = .ok copy ∧
      AlikeApartFrom source.Emptied source copy ∧
      (source.diverged = false → ∀ deliveries : List Delivery,
        AlikeApartFrom (fun pattern => source.Emptied pattern ∧
          Replica.removes pattern (deliveries.map (·.bytes)) = false)
          (source.receive (·.here) deliveries) (copy.receive (·.there) deliveries)) ∧
      (source.Hosted →
        (copy.state = source.state ∧ copy.table.services = source.table.services) ∧
        (source.diverged = false → ∀ deliveries : List Delivery,
          (copy.receive (·.there) deliveries).state =
              (source.receive (·.here) deliveries).state ∧
            (copy.receive (·.there) deliveries).table.services =
              (source.receive (·.here) deliveries).table.services)) := by
  intro source
  have sound : source.Sound := (sound_fresh settings hostWait).run events
  have read : StateSnapshot.ofBytes source.snapshot = .ok source.configuration.state :=
    StateSnapshot.ofBytes_toBytes sound.fits
  obtain ⟨copy, restored, others, replica⟩ :=
    (sound_fresh copySettings copyWait).restore_of_read around read
  rw [sound.adopt_snapshot] at replica
  -- A restore loses the emptied locations with their limiters, and nothing else.
  have kept (pattern : String) (filled : ¬ source.Emptied pattern) :
      Configuration.SameAt pattern source.configuration copy.configuration := by
    rw [show copy.configuration = source.configuration.served from
      congrArg Replica.configuration replica]
    exact Configuration.sameAt_served sound.table.configured filled
  have blocked : copy.configuration.blocked = source.configuration.blocked :=
    congrArg (fun r => r.configuration.blocked) replica
  have now : AlikeApartFrom source.Emptied source copy := sound.alikeApartFrom others blocked kept
  have later (following : source.diverged = false) :=
    sound.receive_alikeApartFrom others
      ⟨(congrArg Replica.diverged replica).trans following.symm, blocked⟩ following kept
  exact ⟨copy, restored, now, later, fun hosted => ⟨now.whole hosted.not_emptied,
    fun following deliveries => (later following deliveries).whole fun pattern emptied =>
      hosted.not_emptied pattern emptied.1⟩⟩

/-- An entry as an event, in surroundings without particulars. -/
def entryEvent (entry : LogEntry) : Event := .apply {} .zero entry.encode

/-- A run with two pools, of which one loses a host, a limiter and a blocked network. -/
def sampleRun : List Event :=
  [entryEvent (.createPool ⟨"/a", ["http://[::1]:80", "http://[::1]:81"], "round-robin"⟩),
   entryEvent (.createPool ⟨"/b", ["https://[::2]"], "consistent-hash"⟩),
   entryEvent (.setRateLimiter { pattern := "/a", path := "/x", kind := "qps", volume := 4 }),
   entryEvent (.aclMutate .insert "10.0.0.7/24"),
   .traffic (.verdict 0 "[::1]:81" false),
   .apply { checksStop := false } .zero (LogEntry.removeHost "/a" "http://[::1]:80/x").encode]

/-- Entries that a machine may be given after the sample run. -/
def sampleDeliveries : List Delivery :=
  [{ index := .zero, bytes := (LogEntry.aclMutate .delete "10.0.0.0/24").encode },
   { index := .zero, bytes := (LogEntry.removePool "/b").encode, here := { instant := 5 } }]

/-- The sample run, after which the other pool loses its only host. -/
def thinningRun : List Event := sampleRun ++ [entryEvent (.removeHost "/b" "[::2]:443")]

/-- After the sample run a copy follows its source. If a pool has lost its hosts, the other one is
still the same, and the sample entries remove what is apart. -/
theorem copy_follows_sampleRun :
    (((fresh {} 0).run sampleRun).Hosted ∧ ((fresh {} 0).run sampleRun).diverged = false ∧
      ((fresh {} 0).run sampleRun).state.routing.locations.keys = ["/a", "/b"] ∧
      ∃ copy, (fresh { replicas := 3 } 7).restore {} ((fresh {} 0).run sampleRun).snapshot =
          .ok copy ∧
        copy.state = ((fresh {} 0).run sampleRun).state ∧
        (copy.receive (·.there) sampleDeliveries).state =
          (((fresh {} 0).run sampleRun).receive (·.here) sampleDeliveries).state) ∧
      ((fresh {} 0).run thinningRun).Emptied "/b" ∧ ¬ ((fresh {} 0).run thinningRun).Emptied "/a" ∧
      Replica.removes "/b" (sampleDeliveries.map (·.bytes)) = true ∧
      ∃ copy, (fresh { replicas := 3 } 7).restore {} ((fresh {} 0).run thinningRun).snapshot =
          .ok copy ∧
        copy.state.routing.limiters.get? "/a" =
          some [{ pattern := "/a", path := "/x", kind := "qps", volume := 4 }] ∧
        copy.table.services.get? "/a" =
          ((fresh {} 0).run thinningRun).table.services.get? "/a" ∧
        (copy.receive (·.there) sampleDeliveries).state =
          (((fresh {} 0).run thinningRun).receive (·.here) sampleDeliveries).state := by
  obtain ⟨hosted, following, listed⟩ : ((fresh {} 0).run sampleRun).Hosted ∧
      ((fresh {} 0).run sampleRun).diverged = false ∧
      ((fresh {} 0).run sampleRun).state.routing.locations.keys = ["/a", "/b"] := by
    decide +kernel
  obtain ⟨copy, restored, -, -, whole⟩ := copy_follows {} { replicas := 3 } 0 7 sampleRun {}
  refine ⟨⟨hosted, following, listed, copy, restored, (whole hosted).1.1,
    ((whole hosted).2 following sampleDeliveries).1⟩, ?_⟩
  obtain ⟨emptied, filled, following, listed, limited⟩ :
      ((fresh {} 0).run thinningRun).Emptied "/b" ∧ ¬ ((fresh {} 0).run thinningRun).Emptied "/a" ∧
        ((fresh {} 0).run thinningRun).diverged = false ∧
        ((fresh {} 0).run thinningRun).state.routing.locations.keys = ["/a", "/b"] ∧
        ((fresh {} 0).run thinningRun).state.routing.limiters.get? "/a" =
          some [{ pattern := "/a", path := "/x", kind := "qps", volume := 4 }] := by
    decide +kernel
  have removed : Replica.removes "/b" (sampleDeliveries.map (·.bytes)) = true := by decide +kernel
  obtain ⟨copy, restored, now, later, -⟩ := copy_follows {} { replicas := 3 } 0 7 thinningRun {}
  refine ⟨emptied, filled, removed, copy, restored, (now.limiters "/a" filled).trans limited,
    now.services "/a" filled, ((later following sampleDeliveries).whole ?_).1⟩
  rintro pattern ⟨⟨l, found, bare⟩, left⟩
  have known : pattern ∈ ((fresh {} 0).run thinningRun).state.routing.locations.keys :=
    Dict.mem_keys.2 (Dict.contains_iff.2 ⟨l, found⟩)
  rw [listed, List.mem_cons, List.mem_singleton] at known
  rcases known with rfl | rfl
  · exact filled ⟨l, found, bare⟩
  · exact Bool.false_ne_true (left.symm.trans removed)

/-- A run that leaves a pool without hosts. -/
def emptyingRun : List Event :=
  [entryEvent (.createPool ⟨"/a", ["http://[::1]:80"], "round-robin"⟩),
   entryEvent (.removeHost "/a" "[::1]:80")]

/-- A run that lets a machine diverge. -/
def strayingRun : List Event := [.apply {} .zero [0xFF]]

/-- An entry that is well formed. -/
def furtherDeliveries : List Delivery :=
  [{ index := .zero
     bytes := (LogEntry.createPool ⟨"/a", ["http://[::1]:80"], "round-robin"⟩).encode }]

/-- A pool without hosts is lost on the way through a snapshot, and a copy of a machine that has
diverged applies entries that the machine refuses. -/
theorem copy_may_differ :
    (¬ ∃ copy, (fresh {} 0).restore {} ((fresh {} 0).run emptyingRun).snapshot = .ok copy ∧
        copy.state = ((fresh {} 0).run emptyingRun).state) ∧
      ¬ ∃ copy, (fresh {} 0).restore {} ((fresh {} 0).run strayingRun).snapshot = .ok copy ∧
        ∀ deliveries : List Delivery,
          (copy.receive (·.there) deliveries).state =
            (((fresh {} 0).run strayingRun).receive (·.here) deliveries).state := by
  constructor
  · rintro ⟨copy, restored, same⟩
    have lost : ((fresh {} 0).restore {} ((fresh {} 0).run emptyingRun).snapshot).toOption.map
        Machine.state ≠ some ((fresh {} 0).run emptyingRun).state := by decide +kernel
    exact lost (by rw [restored, ← same]; rfl)
  · rintro ⟨copy, restored, same⟩
    have apart : ((fresh {} 0).restore {} ((fresh {} 0).run strayingRun).snapshot).toOption.map
        (fun copy => (copy.receive (·.there) furtherDeliveries).state) ≠
          some (((fresh {} 0).run strayingRun).receive (·.here) furtherDeliveries).state := by
      decide +kernel
    exact apart (by rw [restored, ← same furtherDeliveries]; rfl)

end Machine

end ClusterGateway
