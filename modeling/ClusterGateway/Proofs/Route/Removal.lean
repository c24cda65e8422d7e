import ClusterGateway.Proofs.Replication.Refusal
import ClusterGateway.Proofs.Route.Limits
import ClusterGateway.Proofs.Url.Key

/-! # Removing a host

A host is removed from the pool of a pattern, from the balancer of that pool and from the backends
of the location, and nothing else changes. An operator may name the host by any backend that leads
to it. The key of the host does as well, since what the operator gives is taken for the key if it
cannot be read as a backend; but a key that begins with the scheme of a web server can be read as
one, and then it is another host that is meant.
-/

namespace ClusterGateway

/-- A location leads to the hosts to which it led, but for the one that it parts with. -/
theorem Table.mem_addresses_parted {l : Location} {key host : String} :
    host ∈ (parted key l).addresses ↔ host ≠ key ∧ host ∈ l.addresses := by
  simp only [Location.mem_addresses, parted, List.mem_filter, decide_eq_true_eq]
  constructor
  · rintro ⟨raw, ⟨member, other⟩, leads⟩
    exact ⟨fun same => other (same ▸ leads), raw, member, leads⟩
  · rintro ⟨different, raw, member, leads⟩
    exact ⟨raw, ⟨member, fun gone => different (Option.some.inj (leads.symm.trans gone))⟩, leads⟩

namespace Pool

variable {p : Pool} {key : String}

/-- A pool has lost a host, and its balancer as well. -/
structure Loses (p : Pool) (key : String) (q : Pool) : Prop where
  hosts : q.hosts = p.hosts.erase key
  balancer : ∀ host, host ∈ q.balancer.hosts ↔ host ≠ key ∧ host ∈ p.balancer.hosts
  outline : q.outline = { p.outline with targets := p.outline.targets.erase key }

/-- A pool loses a host that it has, and so does its balancer, whether the checks of the host stop
in time or not. -/
theorem loses_removeHost (known : p.containsHost key = true) (checksStop : Bool) :
    p.Loses key (p.removeHost key checksStop).2 := by
  have outline := outline_removeHost known checksStop
  rw [containsHost] at known
  rw [removeHost, if_pos known] at outline ⊢
  exact ⟨rfl, p.balancer.mem_hosts_remove key, outline⟩

end Pool

namespace Table

variable {t : Table} {pattern key raw : String} {p : Pool}

/-- A host has been removed from the pool of a pattern, and only from there. -/
structure Parts (t : Table) (pattern key : String) (u : Table) : Prop where
  /-- The pool and its balancer have lost the host. -/
  pool : ∃ p q, t.pool? pattern = some p ∧ u.pool? pattern = some q ∧ p.Loses key q
  /-- The location has lost the backends that lead to the host. -/
  location : ∃ l, t.locations.get? pattern = some l ∧
    u.locations.get? pattern = some (parted key l) ∧
      ∀ host, host ∈ (parted key l).addresses ↔ host ≠ key ∧ host ∈ l.addresses
  /-- Under other patterns everything is as it was. -/
  others : ∀ other, other ≠ pattern →
    u.pool? other = t.pool? other ∧ u.locations.get? other = t.locations.get? other
  limiters : u.limiters = t.limiters
  acl : u.acl = t.acl

/-- However an operator names a host of a pool, the host is removed, and the answer may only be that
its checks go on. -/
theorem Sound.parts_removeHost (sound : t.Sound) (found : t.pool? pattern = some p)
    (known : p.containsHost key = true) (named : (Backend.address? raw).getD raw = key)
    (checksStop : Bool) :
    t.Parts pattern key (t.removeHost pattern raw checksStop).2 ∧
      ((t.removeHost pattern raw checksStop).1 = .ok () ∨
        checksStop = false ∧
          (t.removeHost pattern raw checksStop).1 = .error (.pool (.checkStillRuns key))) := by
  have loses := Pool.loses_removeHost known checksStop
  have serial : (p.removeHost key checksStop).2.serial = p.serial :=
    congrArg Outline.serial loses.outline
  obtain ⟨-, l, located, -, -⟩ := sound.coherent.pools pattern p found
  have whole : t.removeHost pattern raw checksStop =
      ((p.removeHost key checksStop).1.mapError .pool,
        (t.changeBackends pattern fun backends =>
          backends.filter (Backend.address? · ≠ some key)).putPool
            (p.removeHost key checksStop).2) := by
    simp only [Table.removeHost, named, found, known, if_true]
  rw [whole]
  refine ⟨⟨⟨p, _, found, pool?_putPool_self found serial, loses⟩,
    ⟨l, located, ?_, fun host => mem_addresses_parted⟩, fun other different =>
      ⟨sound.pool?_putPool_of_ne found serial different, ?_⟩, rfl, rfl⟩, ?_⟩
  · exact (Dict.get?_modify _ _ _ _).trans (by rw [if_pos rfl, located]; rfl)
  · exact (Dict.get?_modify _ _ _ _).trans (if_neg different)
  · obtain ⟨prompt, answers⟩ := Pool.removeHost_of_known known
    cases checksStop with
    | true => exact Or.inl (by rw [prompt]; rfl)
    | false =>
        rcases answers false with done | late
        · exact Or.inl (by rw [done]; rfl)
        · exact Or.inr ⟨rfl, by rw [late]; rfl⟩

/-- The hosts of a pool come of backends. -/
theorem Sound.exists_backend (sound : t.Sound) (found : t.pool? pattern = some p)
    (known : p.containsHost key = true) : ∃ backend, Backend.address? backend = some key := by
  obtain ⟨-, l, -, -, agrees⟩ := sound.coherent.pools pattern p found
  have listed := (agrees.hosts key).1 (Dict.mem_keys.2 known)
  obtain ⟨backend, -, leads⟩ := Location.mem_addresses.1 listed
  exact ⟨backend, leads⟩

/-- The key of a host that is named like the scheme of a web server does not remove that host. -/
theorem Sound.containsHost_removeHost (sound : t.Sound) (found : t.pool? pattern = some p)
    (known : p.containsHost key = true) (looks : Backend.LooksLikeUrl key) (checksStop : Bool) :
    ∃ q, (t.removeHost pattern key checksStop).2.pool? pattern = some q ∧
      q.containsHost key = true := by
  obtain ⟨backend, leads⟩ := sound.exists_backend found known
  obtain ⟨other, reread, different⟩ := Backend.address?_of_looksLikeUrl leads looks
  have named : (Backend.address? key).getD key = other := by
    rw [reread]
    rfl
  by_cases there : p.containsHost other = true
  · obtain ⟨⟨_, q, here, after, loses⟩, -⟩ :=
      (sound.parts_removeHost found there named checksStop).1
    obtain rfl := Option.some.inj (found.symm.trans here)
    refine ⟨q, after, ?_⟩
    rw [Pool.containsHost] at known ⊢
    rw [loses.hosts, Dict.contains_erase, known]
    simpa using different
  · refine ⟨p, ?_, known⟩
    simp only [Table.removeHost, named, found, there, Bool.false_eq_true, if_false]

/-- A pool that was added for a location has the hosts to which the location leads. -/
theorem Sound.exists_pool_addPool (sound : t.Sound) {l : Location} (buildable : l.Buildable)
    (fresh : t.locations.contains l.pattern = false) (listed : key ∈ l.addresses) :
    ∃ p, (t.run [.addPool l]).pool? l.pattern = some p ∧ p.containsHost key = true := by
  obtain ⟨u, inserted, made, -, after⟩ := sound.insertPool_of_buildable buildable fresh
  have performed : t.run [.addPool l] = u.countPools := by
    rw [Table.run, List.foldl_cons, List.foldl_nil, Table.perform, addPool, inserted]
    rfl
  have located : u.locations.get? l.pattern = some l := by
    rw [Configuration.after_createPool] at after
    rw [show u.locations = u.configuration.locations from rfl, after, if_pos ⟨buildable, fresh⟩]
    exact (Dict.get?_insert _ _ _ _).trans (if_pos rfl)
  obtain ⟨p, found⟩ := made.exists_pool (Dict.contains_iff.2 ⟨l, located⟩)
  obtain ⟨-, k, here, -, agrees⟩ := made.coherent.pools l.pattern p found
  obtain rfl := Option.some.inj (located.symm.trans here)
  exact ⟨p, by rw [performed]; exact found, Dict.mem_keys.1 ((agrees.hosts key).2 listed)⟩

/-- In every table that operations make of an empty one, a host of a pool is removed by any backend
that leads to it, and by its key unless that begins with the scheme of a web server. -/
theorem hosts_removable (settings : PoolSettings) (hostWait : Nat) (acl : AccessList)
    (operations : List Operation) {pattern : String} {p : Pool} {key : String}
    (found : (({ settings, hostWait, acl } : Table).run operations).pool? pattern = some p)
    (known : p.containsHost key = true) (raw : String)
    (names : Backend.address? raw = some key ∨ raw = key ∧ ¬ Backend.LooksLikeUrl key)
    (checksStop : Bool) :
    let t : Table := ({ settings, hostWait, acl } : Table).run operations
    t.Parts pattern key (t.removeHost pattern raw checksStop).2 ∧
      ((t.removeHost pattern raw checksStop).1 = .ok () ∨
        checksStop = false ∧
          (t.removeHost pattern raw checksStop).1 = .error (.pool (.checkStillRuns key))) := by
  have sound := (sound_empty settings hostWait acl).run operations
  refine sound.parts_removeHost found known ?_ checksStop
  rcases names with leads | ⟨rfl, plain⟩
  · rw [leads]
    rfl
  · obtain ⟨backend, leads⟩ := sound.exists_backend found known
    rw [Backend.address?_key leads plain]
    rfl

/-- Of two hosts one is removed by its key. -/
theorem hosts_removable_byKey :
    let t : Table := ({ settings := {}, hostWait := 0, acl := {} } : Table).run
      [.addPool ⟨"/a", ["http://[::1]:80", "http://[::2]:80"], "round-robin"⟩]
    (∃ p, t.pool? "/a" = some p ∧ p.containsHost "[::1]:80" = true) ∧
      ¬ Backend.LooksLikeUrl "[::1]:80" ∧
      t.Parts "/a" "[::1]:80" (t.removeHost "/a" "[::1]:80" true).2 := by
  have buildable : Location.Buildable
      ⟨"/a", ["http://[::1]:80", "http://[::2]:80"], "round-robin"⟩ := by
    decide +kernel
  have listed : "[::1]:80" ∈
      Location.addresses ⟨"/a", ["http://[::1]:80", "http://[::2]:80"], "round-robin"⟩ := by
    decide +kernel
  have plain : ¬ Backend.LooksLikeUrl "[::1]:80" := by decide
  obtain ⟨p, found, known⟩ := (sound_empty {} 0 {}).exists_pool_addPool buildable rfl listed
  exact ⟨⟨p, found, known⟩, plain,
    (hosts_removable {} 0 {} _ found known "[::1]:80" (Or.inr ⟨rfl, plain⟩) true).1⟩

/-- The host that is named `http` is not removed by its key. -/
theorem host_named_http_stays :
    let t : Table := ({ settings := {}, hostWait := 0, acl := {} } : Table).run
      [.addPool ⟨"/a", ["http://http:80"], "round-robin"⟩]
    Backend.address? "http://http:80" = some "http:80" ∧
      (∃ p, t.pool? "/a" = some p ∧ p.containsHost "http:80" = true) ∧
      ∃ q, (t.removeHost "/a" "http:80" true).2.pool? "/a" = some q ∧
        q.containsHost "http:80" = true := by
  have leads := Backend.address?_named_http
  have buildable : Location.Buildable ⟨"/a", ["http://http:80"], "round-robin"⟩ :=
    ⟨⟨by decide, List.forall_mem_singleton.2 (by rw [leads]; rfl), by decide⟩, by decide⟩
  have listed : "http:80" ∈ Location.addresses ⟨"/a", ["http://http:80"], "round-robin"⟩ :=
    Location.mem_addresses.2 ⟨_, List.mem_singleton_self _, leads⟩
  have sound := sound_empty {} 0 {}
  obtain ⟨p, found, known⟩ := sound.exists_pool_addPool buildable rfl listed
  exact ⟨leads, ⟨p, found, known⟩,
    (sound.run _).containsHost_removeHost found known (by decide) true⟩

end Table

end ClusterGateway
