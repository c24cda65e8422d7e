import ClusterGateway.Proofs.Replication.CatchUp
import ClusterGateway.Proofs.Route.Pools

/-! # Clients keep their hosts

On a hash ring a client goes to one host as long as the same hosts are there. The order in which
they came does not matter, nor what hosts came and went in the meantime, and so a pool that is
restored or that gets a new balancer sends every client to the host to which the old one sent it.
All this needs the hosts that are there to share no point with one another or with one that came and
went. The label texts of different hosts can coincide, and then the host that came later owns the
point.
-/

namespace ClusterGateway

namespace Ring

/-- Two histories of a ring that end with the same hosts give every key the same host, if no host
that is left shares a point with another one that came in either history. -/
theorem balance_eq_of_hosts {n : Nat} {one other : List Call}
    (hosts : ∀ host, ((empty n).run one).hosts.contains host =
      ((empty n).run other).hosts.contains host)
    (apart : ∀ host, ((empty n).run one).hosts.contains host = true →
      ∀ rival ∈ (one ++ other).filterMap Call.added?, rival ≠ host → Apart (max n 1) host rival)
    (key : String) : ((empty n).run one).balance key = ((empty n).run other).balance key := by
  rw [List.filterMap_append] at apart
  have first : ((empty n).run one).Complete := complete_run n fun host present rival member =>
    apart host present rival (List.mem_append_left _ member)
  have second : ((empty n).run other).Complete := complete_run n fun host present rival member =>
    apart host (hosts host ▸ present) rival (List.mem_append_right _ member)
  rw [balance, balance, first.points_eq second (by simp) hosts]

end Ring

namespace Pool

variable {p q : Pool}

/-- Two pools give every client the same host with the same target, or none. -/
def SendsLike (p q : Pool) : Prop := ∀ client, (q.choose client).1 = (p.choose client).1

/-- Pools with complete rings send every client alike if they have the same hosts alive, with the
same targets. -/
theorem sendsLike_of_rounded {replicas : Nat} {settings others : PoolSettings}
    {given known : String → Prop} (here : p.Balanced settings given)
    (there : q.Balanced others known) (mode : p.balancer.mode = .consistentHash)
    (same : q.balancer.mode = .consistentHash) (first : p.balancer.Rounded replicas)
    (second : q.balancer.Rounded replicas)
    (alive : ∀ host, q.isAlive host = some true ↔ p.isAlive host = some true)
    (targets : targetsOf q.hosts = targetsOf p.hosts) : p.SendsLike q := by
  intro client
  cases ours : p.balancer with
  | turns _ =>
      rw [ours] at mode
      exact absurd mode (by simp [Balancer.mode])
  | ring r =>
      cases theirs : q.balancer with
      | turns _ =>
          rw [theirs] at same
          exact absurd same (by simp [Balancer.mode])
      | ring s =>
          obtain ⟨complete, replicas⟩ := first r ours
          obtain ⟨complete', replicas'⟩ := second s theirs
          have hosts (host : String) : s.hosts.contains host = r.hosts.contains host := by
            have left := there.chosen host
            have right := here.chosen host
            rw [theirs] at left
            rw [ours] at right
            simp only [Balancer.hosts, Dict.mem_keys] at left right
            rw [Bool.eq_iff_iff, left, right, alive]
          -- Complete rings with the same hosts have the same points, however they came about.
          have points := complete'.points_eq complete (replicas'.trans replicas.symm) hosts
          have target (host : String) :
              (q.hosts.get? host).map (·.target) = (p.hosts.get? host).map (·.target) := by
            rw [← get?_targetsOf, ← get?_targetsOf, targets]
          simp only [choose, theirs, ours, Balancer.balance, Ring.balance, points]
          cases Ring.ownerAt r.points (Xxh3.hash client) with
          | none => rfl
          | some host =>
              have whole := congrArg (Option.map (Prod.mk host)) (target host)
              simp only [Option.map_map] at whole
              exact whole

end Pool

namespace Table

variable {t u : Table} {pattern : String} {p : Pool}

/-- The hosts that operations give to the pool of a pattern. -/
def hostsGiven (operations : List Operation) (pattern : String) : List String :=
  operations.flatMap (Operation.hosts pattern)

/-- None of these hosts shares a point with another one that was given, on a ring with so many label
texts for each. -/
def Spread (replicas : Nat) (hosts given : List String) : Prop :=
  ∀ host ∈ hosts, ∀ rival ∈ given, rival ≠ host → Ring.Apart (max replicas 1) host rival

instance (replicas : Nat) (hosts given : List String) : Decidable (Spread replicas hosts given) :=
  inferInstanceAs (Decidable (∀ host ∈ hosts, ∀ rival ∈ given, rival ≠ host → _))

/-- After any operations, whatever lives in a pool was given to its pattern by one of them. -/
theorem lives_run (settings : PoolSettings) (hostWait : Nat) (acl : AccessList)
    (operations : List Operation) :
    (({ settings, hostWait, acl } : Table).run operations).Lives settings
      fun pattern key => key ∈ hostsGiven operations pattern :=
  (lives_empty settings hostWait acl _).run (sound_empty settings hostWait acl)
    fun operation member _ _ host => List.mem_flatMap.2 ⟨operation, member, host⟩

/-- The ring of a pool is complete if no host alive shares a point with another one given. -/
theorem rounded_of_spread {settings : PoolSettings} {hosts : List String}
    (arises : p.Arises settings (· ∈ hosts)) (spread : Spread settings.replicas p.aliveHosts hosts) :
    p.balancer.Rounded (max settings.replicas 1) :=
  arises.entitled.rounded fun host member =>
    spread host (Pool.mem_aliveHosts.2 ((arises.balanced.chosen host).1 member))

/-- The balancer of a pool can be changed to a ring anew, and the table has that pool then. -/
theorem changeBalancer_of_pool (found : t.pool? pattern = some p)
    (mode : BalanceMode) :
    ∃ u q, t.changeBalancer pattern mode.name = .ok u ∧ p.changeBalancer mode.name = .ok q ∧
      u.pool? pattern = some q := by
  obtain ⟨q, changed, outline⟩ := p.changeBalancer_of_name mode
  refine ⟨_, q, by rw [Table.changeBalancer, requirePool, found]; simp only [bind, Except.bind,
    changed, Except.mapError]; rfl, changed, ?_⟩
  have swapped : (t.putPool q).pool? pattern =
      (t.pool? pattern).map fun r => if r.serial = q.serial then q else r := Dict.get?_map _ _ _
  have serial : p.serial = q.serial := (congrArg Outline.serial outline).symm
  exact swapped.trans (by rw [found, Option.map_some, if_pos serial])

/-- What a table restores from the state of another one has a pool for each pattern whose location
has a host there, with the same targets, and all its hosts are alive. -/
theorem Sound.restore_pool (sound : t.Sound) (others : u.Sound) (found : t.pool? pattern = some p)
    (hosted : p.hosts.keys ≠ []) (acl : Option AccessList) (instant : Nat) :
    ∃ q, (u.restore t.state acl instant).pool? pattern = some q ∧
      q.balancer.mode = p.balancer.mode ∧ Pool.targetsOf q.hosts = Pool.targetsOf p.hosts ∧
      ∀ host, q.isAlive host ≠ some false := by
  obtain ⟨after, -, rebuilt⟩ := others.restore t.state acl instant
  obtain ⟨l, located⟩ := Dict.contains_iff.1 (show t.locations.contains pattern = true by
    rw [← sound.isSome_pool?, found]; rfl)
  have serves := sound.serves (get?_outlines_of_pool found) located
  obtain ⟨named, servable⟩ := sound.configured.located located
  have backends : l.proxyPass ≠ [] := by
    intro none
    obtain ⟨key, member⟩ := List.exists_mem_of_ne_nil _ hosted
    have address := (agrees_of_serves serves).hosts key |>.1 member
    rw [Location.mem_addresses, none] at address
    exact absurd address (by simp)
  have filled : ¬ t.configuration.Emptied pattern := by
    rintro ⟨k, known, bare⟩
    obtain rfl := Option.some.inj (known.symm.trans located)
    exact backends bare
  have relocated : (u.restore t.state acl instant).locations.get? pattern = some l := by
    have whole := rebuilt.trans (Configuration.rebuilt_state sound.configured _)
    have same := (Configuration.sameAt_served sound.configured filled).location
    exact (congrArg (fun c => c.locations.get? pattern) whole).trans (same.trans located)
  have known : (u.restore t.state acl instant).locations.contains pattern = true := by
    rw [Dict.contains, relocated]
    rfl
  obtain ⟨q, present⟩ := after.exists_pool known
  have again := after.serves (get?_outlines_of_pool present) relocated
  refine ⟨q, present, BalanceMode.name_injective (again.mode.trans serves.mode.symm),
    Dict.ext_get? fun key => (again.targets key).trans (serves.targets key).symm, ?_⟩
  -- Every pool there was just built, and the hosts of a new pool are taken to be alive.
  have live : (u.restore t.state acl instant).Keeps u.settings
      fun _ p => ∀ host, p.isAlive host ≠ some false := by
    refine others.keeps_restore (fun serial l p _ built host dead => ?_) (fun _ _ _ _ kept => kept)
      acl instant
    obtain ⟨_, order, -, -, alive, -⟩ := Pool.build_spec built
    rw [alive] at dead
    split at dead <;> exact absurd dead (by simp)
  exact live.pools present

/-- A table that restores a state gives a pattern the hosts that its pool had. -/
theorem Sound.isSome_isAlive_of_restore (sound : t.Sound) (found : t.pool? pattern = some p)
    {acl : Option AccessList} {instant : Nat} {key : String}
    (member : key ∈ (Operation.restore t.state acl instant).hosts pattern) :
    (p.isAlive key).isSome = true := by
  obtain ⟨l, chosen, address⟩ := List.mem_flatMap.1 member
  obtain ⟨known, named⟩ := List.mem_filter.1 chosen
  obtain ⟨other, located⟩ := Dict.mem_values.1 known
  have here : other = pattern :=
    (sound.configured.located located).1.symm.trans (by simpa using named)
  subst here
  have agrees := agrees_of_serves (sound.serves (get?_outlines_of_pool found) located)
  have held := Dict.mem_keys.1 ((agrees.hosts key).2 address)
  rw [Pool.isAlive, Option.isSome_map]
  exact held

/-- A pool in the ring mode that gets a new ring sends every client where it sent it before, if no
host alive shares a point with another one given. -/
theorem sendsLike_of_changeBalancer (found : t.pool? pattern = some p) {settings : PoolSettings}
    {given : List String} (arises : p.Arises settings (· ∈ given))
    (mode : p.balancer.mode = .consistentHash)
    (spread : Spread settings.replicas p.aliveHosts given) :
    ∃ u q, t.changeBalancer pattern BalanceMode.consistentHash.name = .ok u ∧
      u.pool? pattern = some q ∧ p.SendsLike q := by
  obtain ⟨u, q, changed, renewed, present⟩ := changeBalancer_of_pool found .consistentHash
  obtain ⟨after, same, outline⟩ := p.changeBalancer_of_name .consistentHash
  obtain rfl := Except.ok.inj (renewed.symm.trans same)
  have again := arises.changeBalancer renewed
  have hosts : q.hosts = p.hosts := by
    obtain ⟨balancer, -, rfl⟩ := Pool.changeBalancer_spec renewed
    rfl
  refine ⟨u, q, changed, present, Pool.sendsLike_of_rounded arises.balanced again.balanced mode
    (congrArg Outline.mode outline) (rounded_of_spread arises spread) (rounded_of_spread again ?_)
    (fun host => ?_) ?_⟩
  · rwa [Pool.aliveHosts, hosts]
  · rw [Pool.isAlive, Pool.isAlive, hosts]
  · rw [hosts]

/-- A table with as many label texts for each host restores a pool in the ring mode, whose hosts are
all alive, as one that sends every client where the old one sends it, if no host shares a point with
another one given. -/
theorem Sound.sendsLike_of_restore (sound : t.Sound) (others : u.Sound)
    (found : t.pool? pattern = some p) {settings : PoolSettings} {given : List String}
    (arises : p.Arises settings (· ∈ given)) (mode : p.balancer.mode = .consistentHash)
    (spread : Spread settings.replicas p.aliveHosts given) (hosted : p.hosts.keys ≠ [])
    (alive : ∀ host, p.isAlive host ≠ some false)
    (replicas : u.settings.replicas = settings.replicas) (acl : Option AccessList)
    (instant : Nat) :
    ∃ q, (u.restore t.state acl instant).pool? pattern = some q ∧ p.SendsLike q := by
  obtain ⟨q, present, same, targets, live⟩ := sound.restore_pool others found hosted acl instant
  have lives : (u.restore t.state acl instant).Lives u.settings fun pattern key =>
      key ∈ (Operation.restore t.state acl instant).hosts pattern :=
    others.lives_restore fun _ _ member => member
  have again := lives.pools present
  have hosts (host : String) : (q.isAlive host).isSome = (p.isAlive host).isSome := by
    rw [Pool.isAlive, Pool.isAlive, Option.isSome_map, Option.isSome_map]
    change q.hosts.contains host = p.hosts.contains host
    have whole := congrArg (fun d => d.contains host) targets
    simpa only [Pool.targetsOf, Dict.contains_map] using whole
  have both (host : String) : q.isAlive host = some true ↔ p.isAlive host = some true := by
    have held := hosts host
    have here := alive host
    have there := live host
    cases first : q.isAlive host <;> cases second : p.isAlive host <;> simp_all
  -- The restored pool is given the hosts of its location, which are those of the old pool.
  have fewer : Spread u.settings.replicas q.aliveHosts
      ((Operation.restore t.state acl instant).hosts pattern) := by
    intro host member rival known different
    rw [replicas]
    exact spread host (Pool.mem_aliveHosts.2 ((both host).1 (Pool.mem_aliveHosts.1 member))) rival
      (arises.balanced.known rival (sound.isSome_isAlive_of_restore found known)) different
  have round := rounded_of_spread again fewer
  rw [replicas] at round
  exact ⟨q, present, Pool.sendsLike_of_rounded arises.balanced again.balanced mode
    (same.trans mode) (rounded_of_spread arises spread) round both targets⟩

/-- Clients keep their hosts. Histories of a ring that end with the same hosts give every key the
same host, if no host that is left shares a point with another one that came. If no host alive in a
pool in the ring mode shares a point with another one that was given to its pattern, the pool sends
every client where the pool sends it that gets a new ring, and, while all its hosts are alive, where
the pool sends it that any table with as many label texts for each host restores. -/
theorem clients_keep_hosts :
    (∀ (n : Nat) (one other : List Ring.Call),
      (∀ host, ((Ring.empty n).run one).hosts.contains host =
        ((Ring.empty n).run other).hosts.contains host) →
      (∀ host, ((Ring.empty n).run one).hosts.contains host = true →
        ∀ rival ∈ (one ++ other).filterMap Ring.Call.added?, rival ≠ host →
          Ring.Apart (max n 1) host rival) →
      ∀ key, ((Ring.empty n).run one).balance key = ((Ring.empty n).run other).balance key) ∧
    ∀ (settings : PoolSettings) (hostWait : Nat) (acl : AccessList) (operations : List Operation)
      (pattern : String) (p : Pool),
      (({ settings, hostWait, acl } : Table).run operations).pool? pattern = some p →
      p.balancer.mode = .consistentHash →
      Spread settings.replicas p.aliveHosts (hostsGiven operations pattern) →
      (∃ u q, (({ settings, hostWait, acl } : Table).run operations).changeBalancer pattern
          BalanceMode.consistentHash.name = .ok u ∧ u.pool? pattern = some q ∧ p.SendsLike q) ∧
      (p.hosts.keys ≠ [] → (∀ host, p.isAlive host ≠ some false) →
        ∀ (others : PoolSettings) (otherWait : Nat) (otherAcl : AccessList)
          (otherOperations : List Operation) (restored : Option AccessList) (instant : Nat),
          others.replicas = settings.replicas →
          ∃ q, ((({ settings := others, hostWait := otherWait, acl := otherAcl } : Table).run
              otherOperations).restore
                (({ settings, hostWait, acl } : Table).run operations).state restored
                instant).pool? pattern = some q ∧ p.SendsLike q) := by
  refine ⟨fun n one other hosts apart => Ring.balance_eq_of_hosts hosts apart, ?_⟩
  intro settings hostWait acl operations pattern p found mode spread
  have sound := (sound_empty settings hostWait acl).run operations
  have arises := (lives_run settings hostWait acl operations).pools found
  refine ⟨sendsLike_of_changeBalancer found arises mode spread, ?_⟩
  intro hosted alive others otherWait otherAcl otherOperations restored instant replicas
  have settled := (lives_run others otherWait otherAcl otherOperations).settings
  exact sound.sendsLike_of_restore ((sound_empty others otherWait otherAcl).run otherOperations)
    found arises mode spread hosted alive
    ((congrArg PoolSettings.replicas settled).trans replicas) restored instant

/-- A pool with a ring, a check that fails and succeeds again, and a host that goes. -/
def ringOperations : List Operation :=
  [.addPool ⟨"/a", ["http://[::2]:80", "http://[::1]:80"], "consistent-hash"⟩,
   .traffic (.verdict 0 "[::2]:80" false), .addHost "/a" "http://[::3]:80",
   .traffic (.verdict 0 "[::2]:80" true), .removeHost "/a" "[::3]:80" true]

/-- On a ring and in a pool to which different hosts came and went, clients keep their hosts. -/
theorem clients_keep_hosts_ringOperations :
    (∀ key, ((Ring.empty 2).run [.add "a:1", .add "b:1", .remove "a:1", .add "a:1"]).balance key =
      ((Ring.empty 2).run [.add "a:1", .add "b:1"]).balance key) ∧
    ∃ p q, (({ settings := { replicas := 2 } } : Table).run ringOperations).pool? "/a" = some p ∧
      p.hosts.keys = ["[::1]:80", "[::2]:80"] ∧
      (({ settings := { replicas := 2 } } : Table).restore
        (({ settings := { replicas := 2 } } : Table).run ringOperations).state none 0).pool? "/a" =
          some q ∧ p.SendsLike q := by
  constructor
  · have same : ((Ring.empty 2).run [.add "a:1", .add "b:1", .remove "a:1", .add "a:1"]).hosts =
        ((Ring.empty 2).run [.add "a:1", .add "b:1"]).hosts := by decide +kernel
    have apart : ∀ host ∈ ((Ring.empty 2).run [.add "a:1", .add "b:1", .remove "a:1",
          .add "a:1"]).hosts.keys,
        ∀ rival ∈ ["a:1", "b:1", "a:1", "a:1", "b:1"], rival ≠ host →
          Ring.Apart (max 2 1) host rival := by decide +kernel
    exact clients_keep_hosts.1 2 _ _ (fun host => by rw [same])
      fun host present => apart host (Dict.mem_keys.2 present)
  · have shape : ((({ settings := { replicas := 2 } } : Table).run ringOperations).pool? "/a").map
        (fun p => (p.balancer.mode, p.hosts.keys, p.aliveHosts, p.liveness.entries)) =
          some (.consistentHash, ["[::1]:80", "[::2]:80"], ["[::1]:80", "[::2]:80"],
            [("[::1]:80", true), ("[::2]:80", true)]) := by decide +kernel
    have spread : Spread 2 ["[::1]:80", "[::2]:80"] (hostsGiven ringOperations "/a") := by
      decide +kernel
    obtain ⟨p, found, whole⟩ := Option.map_eq_some_iff.1 shape
    obtain ⟨mode, hosts, live, entries⟩ :
        p.balancer.mode = .consistentHash ∧ p.hosts.keys = ["[::1]:80", "[::2]:80"] ∧
          p.aliveHosts = ["[::1]:80", "[::2]:80"] ∧
          p.liveness.entries = [("[::1]:80", true), ("[::2]:80", true)] := by
      simpa only [Prod.mk.injEq] using whole
    have alive (host : String) : p.isAlive host ≠ some false := by
      rw [← Pool.get?_liveness, ne_eq, Dict.get?_eq_some_iff, entries]
      simp
    obtain ⟨q, present, alike⟩ := (clients_keep_hosts.2 { replicas := 2 } 5000 .empty
      ringOperations "/a" p found mode (by rw [live]; exact spread)).2 (by rw [hosts]; simp) alive
        { replicas := 2 } 5000 .empty [] none 0 rfl
    exact ⟨p, q, found, hosts, present, alike⟩

/-- The label texts 11 and 1 of two hosts coincide, so which of them owns the point depends on the
order in which they came. -/
theorem owner_depends_on_order :
    ((Ring.empty 12).run [.add "110.0.0.1:80", .add "10.0.0.1:80"]).hosts =
      ((Ring.empty 12).run [.add "10.0.0.1:80", .add "110.0.0.1:80"]).hosts ∧
    ((Ring.empty 12).run [.add "110.0.0.1:80", .add "10.0.0.1:80"]).balance "10.0.0.10" ≠
      ((Ring.empty 12).run [.add "10.0.0.1:80", .add "110.0.0.1:80"]).balance "10.0.0.10" := by
  decide +kernel

end Table

end ClusterGateway
