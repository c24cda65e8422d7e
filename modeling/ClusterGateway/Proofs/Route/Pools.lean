import ClusterGateway.Proofs.Pool.Life
import ClusterGateway.Proofs.Route.Runs

/-! # The pools of a running table

Whatever happens to a table happens to each of its pools as a step of that pool's life, or the pool
is built anew. So every pool in service arises from the hosts that the operations gave to its
pattern. A pool that is restored is built from a location of the state and got limiters since, but
nothing else has happened to it.
-/

namespace ClusterGateway

/-- The hosts that an operation gives to the pool of a pattern. -/
def Operation.hosts (pattern : String) : Operation → List String
  | .addPool l => if l.pattern = pattern then l.addresses else []
  | .addHost into raw => if into = pattern then (Backend.address? raw).toList else []
  | .restore s _ _ => (s.locations.values.filter (·.pattern = pattern)).flatMap Location.addresses
  | .removePool _ | .removeHost _ _ _ | .changeBalancer _ _ | .setLimiter _ _ | .shutdownPools
  | .traffic _ => []

namespace Table

variable {t : Table} {settings : PoolSettings} {holds : String → Pool → Prop}
  {given : String → String → Prop}

/-- Every pool in service has a property, which may depend on its pattern, and new pools are built
with these settings. -/
structure Keeps (settings : PoolSettings) (holds : String → Pool → Prop) (t : Table) : Prop where
  settings : t.settings = settings
  pools : ∀ {pattern p}, t.pool? pattern = some p → holds pattern p

/-- What the pools of a table keep depends on nothing but the router and the settings. -/
theorem Keeps.of_router {u : Table} (keeps : t.Keeps settings holds)
    (same : u.settings = t.settings) (router : u.router = t.router) : u.Keeps settings holds := by
  refine ⟨same.trans keeps.settings, fun {pattern p} found => keeps.pools ?_⟩
  rw [pool?, router] at found
  exact found

theorem mem_allPools_of_pool {pattern : String} {p : Pool} (found : t.pool? pattern = some p) :
    p ∈ t.allPools := List.mem_append.2 (Or.inl (Dict.mem_values.2 ⟨pattern, found⟩))

/-- Putting a pool back swaps it for the pool of a pattern that has its number. -/
theorem pool?_putPool_eq (t : Table) (q : Pool) (pattern : String) :
    (t.putPool q).pool? pattern =
      (t.pool? pattern).map fun r => if r.serial = q.serial then q else r := Dict.get?_map _ _ _

/-- When a pool is swapped, a pattern has the pool it had, or the new one for the old one. -/
theorem Sound.pool?_putPool (sound : t.Sound) {p q : Pool} (member : p ∈ t.allPools)
    (serial : q.outline.serial = p.outline.serial) {pattern : String} {x : Pool}
    (found : (t.putPool q).pool? pattern = some x) :
    t.pool? pattern = some x ∨ t.pool? pattern = some p ∧ x = q := by
  rw [pool?_putPool_eq] at found
  obtain ⟨r, present, rfl⟩ := Option.map_eq_some_iff.1 found
  by_cases equal : r.serial = q.serial
  · rw [if_pos equal]
    refine Or.inr ⟨?_, rfl⟩
    have number : r.serial = p.serial := equal.trans serial
    -- The swapped pool is in service, for no pool in service has the number of one that is not.
    rcases List.mem_append.1 member with live | gone
    · obtain ⟨other, known⟩ := Dict.mem_values.1 live
      obtain rfl := sound.pattern_eq present known number
      exact known
    · exact absurd (number ▸ List.mem_map_of_mem gone) (sound.serial_apart present)
  · rw [if_neg equal]
    exact Or.inl present

/-- Putting a pool back keeps what holds of all pools, if it holds of that pool under its
pattern. -/
theorem Keeps.putPool (keeps : t.Keeps settings holds) (sound : t.Sound) {p q : Pool}
    (member : p ∈ t.allPools) (serial : q.outline.serial = p.outline.serial)
    (step : ∀ pattern, t.pool? pattern = some p → holds pattern q) :
    (t.putPool q).Keeps settings holds := by
  refine ⟨keeps.settings, fun {pattern x} found => ?_⟩
  rcases sound.pool?_putPool member serial found with before | ⟨here, rfl⟩
  · exact keeps.pools before
  · exact step pattern here

/-! ### Building and limiters -/

/-- An attempt keeps what the change keeps when it succeeds. -/
theorem Keeps.attempt {ε : Type} (keeps : t.Keeps settings holds) {result : Except ε Table}
    (kept : ∀ u, result = .ok u → u.Keeps settings holds) :
    (t.attempt result).Keeps settings holds := attempt_rec keeps kept

/-- A pool that is built for a location keeps what holds of pools that are built. -/
theorem Keeps.insertPool (keeps : t.Keeps settings holds) {l : Location}
    (built : ∀ serial p, Pool.build serial settings l = .ok p → holds l.pattern p) {added : Bool}
    {u : Table} (inserted : t.insertPool l = .ok (added, u)) : u.Keeps settings holds := by
  rcases insertPool_spec inserted with ⟨-, rfl⟩ | ⟨-, -, p, made, rfl⟩
  · exact keeps
  · refine ⟨keeps.settings, fun {pattern q} found => ?_⟩
    rw [pool?_withPool] at found
    split at found
    · next same =>
        subst same
        exact Option.some.inj found ▸ built _ p (keeps.settings ▸ made)
    · exact keeps.pools found

/-- A limiter that is set keeps what holds of pools with one limiter more. -/
theorem Keeps.setLimiter (keeps : t.Keeps settings holds) (sound : t.Sound)
    (limited : ∀ pattern p path limiter, holds pattern p →
      holds pattern (p.installLimiter path limiter)) {s : LimiterSetting} {instant : Nat}
    {u : Table} (changed : t.setLimiter s instant = .ok u) : u.Keeps settings holds := by
  obtain ⟨p, limiter, found, -, rfl⟩ := setLimiter_spec changed
  have swapped := keeps.putPool (q := p.installLimiter s.path limiter) sound
    (mem_allPools_of_pool found) rfl
    fun pattern here => limited pattern p s.path limiter (keeps.pools here)
  exact swapped.of_router rfl rfl

/-- The pools of a table that is rebuilt were there before or are built from the state's locations,
and get limiters. -/
theorem Keeps.rebuild (keeps : t.Keeps settings holds) (sound : t.Sound) {s : RoutingState}
    (built : ∀ serial l p, l ∈ s.locations.values → Pool.build serial settings l = .ok p →
      holds l.pattern p)
    (limited : ∀ pattern p path limiter, holds pattern p →
      holds pattern (p.installLimiter path limiter)) (instant : Nat) :
    (t.rebuild s instant).Keeps settings holds := by
  refine (rebuild_rec (motive := fun v => v.Sound ∧ v.Keeps settings holds) s instant
    ⟨sound, keeps⟩ (fun {v w l added} good member inserted => ?_) fun {v w k} good changed => ?_).2
  · exact ⟨good.1.of_insertPool inserted,
      good.2.insertPool (fun serial p => built serial l p member) inserted⟩
  · exact ⟨good.1.of_setLimiter changed, good.2.setLimiter good.1 limited changed⟩

/-- Without a pool in service there is none of which something would have to hold. -/
theorem keeps_cleared (t : Table) (holds : String → Pool → Prop) :
    t.cleared.Keeps t.settings holds := by
  have settings : t.cleared.settings = t.settings := by rw [cleared, foldl_retire]
  have router : t.cleared.router = {} := by rw [cleared, foldl_retire]
  refine ⟨settings, fun {pattern p} found => ?_⟩
  rw [pool?, router] at found
  exact absurd found (by simp [Router.get?])

/-- What holds of a pool built from a location of a state, and stays when limiters are installed,
holds of all pools after the state is restored. -/
theorem Sound.keeps_restore (sound : t.Sound) {s : RoutingState}
    (built : ∀ serial l p, l ∈ s.locations.values → Pool.build serial t.settings l = .ok p →
      holds l.pattern p)
    (limited : ∀ pattern p path limiter, holds pattern p →
      holds pattern (p.installLimiter path limiter)) (acl : Option AccessList) (instant : Nat) :
    (t.restore s acl instant).Keeps t.settings holds :=
  ((keeps_cleared t holds).rebuild sound.cleared built limited instant).of_router rfl rfl

/-! ### Steps of pools -/

/-- Every pool in service arises from the hosts that its pattern may be given. -/
abbrev Lives (settings : PoolSettings) (given : String → String → Prop) : Table → Prop :=
  Keeps settings fun pattern p => p.Arises settings (given pattern)

/-- What happens to a pool in its life keeps its outline. -/
def Follows (settings : PoolSettings) (p q : Pool) : Prop :=
  q.outline = p.outline ∧ ∀ given, p.Arises settings given → q.Arises settings given

/-- A pool that lives on in the place of another one lives on from the same hosts. -/
theorem Keeps.swap (lives : t.Lives settings given) (sound : t.Sound) {p q : Pool}
    (member : p ∈ t.allPools) (follows : Follows settings p q) :
    (t.putPool q).Lives settings given :=
  lives.putPool sound member (congrArg Outline.serial follows.1)
    fun pattern here => follows.2 (given pattern) (lives.pools here)

/-- Taking in a turn of a call leaves all pools alone. -/
theorem Keeps.settle (keeps : t.Keeps settings holds) (turn : Turn) :
    (t.settle turn).Keeps settings holds := by
  rw [Table.settle]
  split <;> exact keeps.of_router rfl rfl

/-- A request that comes to a pool is a step of the life of that pool. -/
theorem Keeps.take (lives : t.Lives settings given) (sound : t.Sound) {p : Pool}
    (member : p ∈ t.allPools) (ticket : Nat) (path client : String) (instant : Nat) :
    (t.take p ticket path client instant).2.Lives settings given := by
  have swapped := lives.swap sound member (q := (p.acquire ticket path client instant).2)
    ⟨p.outline_acquire ticket path client instant,
      fun given arises => arises.acquire ticket path client instant⟩
  exact (swapped.of_router (u := ({ t with inFlight := t.inFlight + 1 } : Table).putPool _)
    rfl rfl).settle _

/-- A turn of a waiting request is a step of the life of its pool. -/
theorem Keeps.resume (lives : t.Lives settings given) (sound : t.Sound)
    {step : Pool → Option (Turn × Pool)}
    (follows : ∀ p turn q, step p = some (turn, q) → Follows settings p q) (ticket : Nat) :
    (((t.resume step ticket).map (·.2)).getD t).Lives settings given := by
  cases resumed : t.resume step ticket with
  | none => exact lives
  | some result =>
      obtain ⟨p, turn, q, found, stepped, rfl⟩ := resume_spec resumed
      exact (lives.swap sound (List.mem_of_find?_eq_some found)
        (follows p turn q stepped)).settle _

/-- A change of the pool with a number is a step of the life of that pool. -/
theorem Keeps.changePool (lives : t.Lives settings given) (sound : t.Sound)
    {change : Pool → Option Pool} (follows : ∀ p q, change p = some q → Follows settings p q)
    (serial : Nat) : (t.changePool serial change).Lives settings given := by
  rcases t.changePool_spec serial change with same | ⟨p, q, member, changed, swapped⟩
  · rw [same]
    exact lives
  · rw [swapped]
    exact lives.swap sound member (follows p q changed)

/-- Requests and checks are steps in the lives of pools. -/
theorem Keeps.serve (lives : t.Lives settings given) (sound : t.Sound) (event : Traffic) :
    (t.serve event).Lives settings given := by
  cases event with
  | dispatch ticket path client instant =>
      rw [Table.serve]
      rcases t.dispatch_spec ticket path client instant with
        ⟨error, whole⟩ | ⟨p, member, rest, whole⟩ <;> rw [whole]
      · exact lives.of_router rfl rfl
      · exact lives.take sound member _ _ _ _
  | dispatchTo serial ticket path client instant =>
      rw [Table.serve]
      split
      · next p found =>
          rcases t.dispatchTo_spec p ticket path client instant with ⟨error, whole⟩ | whole <;>
            rw [whole]
          · exact lives.of_router rfl rfl
          · exact lives.take sound (mem_allPools_of_serial found) _ _ _ _
      · exact lives
  | look ticket instant =>
      exact lives.resume sound (fun p turn q looked =>
        ⟨Pool.outline_look looked, fun given arises => arises.look looked⟩) ticket
  | expire ticket =>
      exact lives.resume sound (fun p turn q expired =>
        ⟨Pool.outline_expire expired, fun given arises => arises.expire expired⟩) ticket
  | finish guard =>
      rw [Table.serve, Table.finish]
      split
      · exact lives.of_router rfl rfl
      · next p found =>
          have swapped := lives.swap sound (mem_allPools_of_serial found)
            (q := (p.giveBack guard.limiter).2)
            ⟨p.outline_giveBack guard.limiter, fun given arises => arises.giveBack guard.limiter⟩
          exact swapped.of_router rfl rfl
  | verdict serial host reachable =>
      refine lives.changePool sound (fun p q changed => ?_) serial
      obtain rfl := Option.some.inj changed
      exact ⟨p.outline_recordProbe host reachable,
        fun given arises => arises.recordProbe host reachable⟩
  | settleChecks serial now =>
      refine lives.changePool sound (fun p q changed => ?_) serial
      obtain rfl := Option.some.inj changed
      exact ⟨p.outline_settleChecks now, fun given arises => arises.settleChecks now⟩
  | startProbe serial check now =>
      refine lives.changePool sound (fun p q changed => ?_) serial
      obtain ⟨⟨host, after⟩, started, rfl⟩ := Option.map_eq_some_iff.1 changed
      exact ⟨Pool.outline_startProbe started, fun given arises => arises.startProbe started⟩
  | endProbe serial check reachable =>
      refine lives.changePool sound (fun p q changed => ?_) serial
      obtain ⟨⟨next, after⟩, ended, rfl⟩ := Option.map_eq_some_iff.1 changed
      exact ⟨Pool.outline_endProbe ended, fun given arises => arises.endProbe ended⟩

/-! ### Operations -/

/-- A host that is added to a pool is one of those given to its pattern. -/
theorem Keeps.addHost (lives : t.Lives settings given) (sound : t.Sound) {pattern raw key : String}
    {u : Table} (known : ∀ key ∈ Backend.address? raw, given pattern key)
    (added : t.addHost pattern raw = .ok (key, u)) : u.Lives settings given := by
  obtain ⟨p, q, change, found, joined, rfl⟩ := addHost_spec added
  cases read : Backend.parse raw with
  | error error =>
      rw [Pool.addHost_of_error read] at joined
      exact absurd joined (by simp)
  | ok url =>
      obtain ⟨after, same, outline⟩ := Pool.addHost_of_parse read p
      obtain ⟨rfl, rfl⟩ := Prod.mk.inj (Except.ok.inj (same.symm.trans joined))
      have may : given pattern url.address := known _ (by
        rw [Backend.address?, read]
        rfl)
      have swapped := lives.putPool sound (mem_allPools_of_pool found)
        (by rw [outline]) fun other here => by
          obtain rfl := sound.pattern_eq here found rfl
          exact (lives.pools here).addHost joined may
      exact swapped.of_router rfl rfl

/-- A host that goes is a step of the life of its pool, whether its checks stop in time or not. -/
theorem Keeps.removeHost (lives : t.Lives settings given) (sound : t.Sound) (pattern host : String)
    (checksStop : Bool) : (t.removeHost pattern host checksStop).2.Lives settings given := by
  rw [Table.removeHost]
  dsimp only
  split
  · exact lives
  · next p found =>
      split
      · next known =>
          have outline := Pool.outline_removeHost known checksStop
          have swapped := lives.putPool sound (mem_allPools_of_pool found) (by rw [outline])
            fun other here => (lives.pools here).removeHost _ checksStop
          exact swapped.of_router rfl rfl
      · exact lives

/-- A new balancer is a step of the life of its pool. -/
theorem Keeps.changeBalancer (lives : t.Lives settings given) (sound : t.Sound)
    {pattern mode : String} {u : Table} (changed : t.changeBalancer pattern mode = .ok u) :
    u.Lives settings given := by
  obtain ⟨p, q, found, built, rfl⟩ := changeBalancer_spec changed
  obtain ⟨balancer, -, rfl⟩ := Pool.changeBalancer_spec built
  have swapped := lives.putPool sound (q := { p with balancer })
    (mem_allPools_of_pool found) rfl
    fun other here => (lives.pools here).changeBalancer built
  exact swapped.of_router rfl rfl

/-- A pool that is removed leaves the others in service as they are. -/
theorem Keeps.removePool (keeps : t.Keeps settings holds) {pattern : String} {u : Table}
    (removed : t.removePool pattern = .ok u) : u.Keeps settings holds := by
  obtain ⟨p, found, rfl⟩ := removePool_spec removed
  refine ⟨keeps.settings, fun {other q} present => keeps.pools ?_⟩
  change (t.router.entries.erase pattern).get? other = some q at present
  rw [Dict.get?_erase] at present
  split at present
  · exact absurd present (by simp)
  · exact present

/-- The pools that are restored arise from the hosts that the state gives to their patterns. -/
theorem Sound.lives_restore (sound : t.Sound) {s : RoutingState} {acl : Option AccessList}
    {instant : Nat} (known : ∀ pattern,
      ∀ key ∈ (Operation.restore s acl instant).hosts pattern, given pattern key) :
    (t.restore s acl instant).Lives t.settings given := by
  refine sound.keeps_restore (fun serial l p member built => .build built fun key address => ?_)
    (fun pattern p path limiter arises => arises.installLimiter path limiter) acl instant
  refine known l.pattern key (List.mem_flatMap.2 ⟨l, List.mem_filter.2 ⟨member, ?_⟩, address⟩)
  simp

/-- Every operation is a step in the lives of the pools, or builds them anew. -/
theorem Keeps.perform (lives : t.Lives settings given) (sound : t.Sound) {operation : Operation}
    (known : ∀ pattern, ∀ key ∈ operation.hosts pattern, given pattern key) :
    (t.perform operation).Lives settings given := by
  cases operation with
  | addPool l =>
      refine lives.attempt fun u made => ?_
      obtain ⟨⟨added, u⟩, answered, rfl⟩ := exists_of_map_ok made
      rw [Table.addPool] at answered
      obtain ⟨⟨fresh, v⟩, inserted, same⟩ := exists_of_map_ok answered
      obtain ⟨-, rfl⟩ := Prod.mk.inj same
      have kept := lives.insertPool (fun serial p built => .build built fun key address =>
        known l.pattern key (by rwa [Operation.hosts, if_pos rfl])) inserted
      cases fresh with
      | true => exact kept.of_router rfl rfl
      | false => exact kept
  | removePool pattern => exact lives.attempt fun u removed => lives.removePool removed
  | addHost pattern raw =>
      refine lives.attempt fun u made => ?_
      obtain ⟨⟨key, u⟩, added, rfl⟩ := exists_of_map_ok made
      refine lives.addHost sound (fun key address => known pattern key ?_) added
      rw [Operation.hosts, if_pos rfl]
      simpa using address
  | removeHost pattern host checksStop => exact lives.removeHost sound pattern host checksStop
  | changeBalancer pattern mode =>
      exact lives.attempt fun u changed => lives.changeBalancer sound changed
  | setLimiter s instant =>
      exact lives.attempt fun u changed => lives.setLimiter sound
        (fun pattern p path limiter arises => arises.installLimiter path limiter) changed
  | restore s acl instant => exact lives.settings ▸ sound.lives_restore known
  | shutdownPools => exact lives.settings ▸ (keeps_cleared t _).of_router rfl rfl
  | traffic event => exact lives.serve sound event

/-- After every run each pool in service arises from the hosts that the run gave to its pattern. -/
theorem Keeps.run (lives : t.Lives settings given) (sound : t.Sound) {operations : List Operation}
    (known : ∀ operation ∈ operations, ∀ pattern, ∀ key ∈ operation.hosts pattern,
      given pattern key) : (t.run operations).Lives settings given := by
  induction operations generalizing t with
  | nil => exact lives
  | cons operation operations ih =>
      exact ih (lives.perform sound (known operation List.mem_cons_self))
        (sound.perform operation) fun o member => known o (List.mem_cons_of_mem operation member)

/-- Without pools there is none whose hosts would have to be given. -/
theorem lives_empty (settings : PoolSettings) (hostWait : Nat) (acl : AccessList)
    (given : String → String → Prop) :
    ({ settings, hostWait, acl } : Table).Lives settings given :=
  ⟨rfl, fun {pattern p} found => absurd found (by simp [pool?, Router.get?])⟩

end Table

end ClusterGateway
