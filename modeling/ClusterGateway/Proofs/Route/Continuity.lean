import ClusterGateway.Proofs.Pool.Permits
import ClusterGateway.Proofs.Route.Pools

/-! # What a change of the table leaves to requests

A request refers to its pool by number and may outlive it. So the numbers of all pools differ, those
out of service included, and a change of the table loses none of the pools: each goes on with its
limiters and its waiting requests, and pools that are new have numbers of their own and nobody in
them. That holds of everything that operators, snapshots and checks do.
-/

namespace ClusterGateway

namespace Table

variable {t u : Table} {p q : Pool}

/-! ### Numbers of pools -/

/-- No two pools share a number, in service or not. -/
structure Numbered (t : Table) : Prop where
  sound : t.Sound
  past : t.pastSerials.Nodup

/-- Two pools with one number are the same pool, in service or not. -/
theorem Numbered.eq_of_serial (numbered : t.Numbered) (first : p ∈ t.allPools)
    (second : q ∈ t.allPools) (same : p.serial = q.serial) : p = q := by
  have sound := numbered.sound
  rcases List.mem_append.1 first with live | gone <;>
    rcases List.mem_append.1 second with other | past
  · obtain ⟨a, here⟩ := Dict.mem_values.1 live
    obtain ⟨b, there⟩ := Dict.mem_values.1 other
    obtain rfl := sound.pattern_eq here there same
    exact Option.some.inj (here.symm.trans there)
  · obtain ⟨a, here⟩ := Dict.mem_values.1 live
    exact absurd (same ▸ List.mem_map_of_mem past) (sound.serial_apart here)
  · obtain ⟨b, there⟩ := Dict.mem_values.1 other
    exact absurd (same ▸ List.mem_map_of_mem gone) (sound.serial_apart there)
  · exact List.inj_on_of_nodup_map numbered.past gone past same

/-- Every pool has a number below the next one that is given out. -/
theorem Sound.serial_lt (sound : t.Sound) (member : p ∈ t.allPools) : p.serial < t.nextSerial := by
  rcases mem_allPools member with ⟨pattern, found⟩ | gone
  · exact sound.numbered found
  · exact sound.past _ gone

theorem Numbered.of_steady (numbered : t.Numbered) (steady : t.Steady u) : u.Numbered :=
  ⟨numbered.sound.of_steady steady, by rw [steady.past]; exact numbered.past⟩

/-- Where numbers are not shared, looking for the number of a pool finds that pool. -/
theorem Numbered.poolBySerial? (numbered : t.Numbered) (member : p ∈ t.allPools) :
    t.poolBySerial? p.serial = some p := by
  cases found : t.poolBySerial? p.serial with
  | none =>
      rw [Table.poolBySerial?, List.find?_eq_none] at found
      exact absurd (decide_eq_true rfl) (found p member)
  | some q =>
      rw [numbered.eq_of_serial (mem_allPools_of_serial found) member (serial_of_find found)]

/-- Putting a pool back swaps it for the one with its number among all pools, in service or not. -/
theorem allPools_putPool (t : Table) (q : Pool) :
    (t.putPool q).allPools = t.allPools.map fun r => if r.serial = q.serial then q else r := by
  simp only [allPools, putPool, Router.targets, Dict.values, Dict.map, List.map_append,
    List.map_map]
  rfl

/-- Swapping a pool leaves the pools with other numbers. -/
theorem mem_putPool (member : p ∈ t.allPools) (serial : q.serial = p.serial) {x : Pool} :
    x ∈ (t.putPool q).allPools ↔ x = q ∨ x ∈ t.allPools ∧ x.serial ≠ p.serial := by
  rw [allPools_putPool, List.mem_map, serial]
  constructor
  · rintro ⟨r, known, rfl⟩
    by_cases same : r.serial = p.serial
    · exact Or.inl (if_pos same)
    · rw [if_neg same]
      exact Or.inr ⟨known, same⟩
  · rintro (rfl | ⟨known, different⟩)
    · exact ⟨p, member, if_pos rfl⟩
    · exact ⟨x, known, if_neg different⟩

/-- A table comes from another one by swapping a pool for one with its number. -/
structure Swaps (t : Table) (p q : Pool) (u : Table) : Prop where
  member : p ∈ t.allPools
  serial : q.serial = p.serial
  numbered : u.Numbered
  pools : u.allPools = (t.putPool q).allPools

/-- Putting a pool with an unchanged outline back is a swap, whatever else changes that shows in no
outline. -/
theorem Numbered.swaps (numbered : t.Numbered) (member : p ∈ t.allPools)
    (outline : q.outline = p.outline) (steady : (t.putPool q).Steady u)
    (pools : u.allPools = (t.putPool q).allPools) : t.Swaps p q u :=
  ⟨member, congrArg Outline.serial outline,
    numbered.of_steady ((numbered.sound.steady_putPool member outline).trans steady), pools⟩

/-- After a swap the pools are the new one and the old ones with other numbers. -/
theorem Swaps.mem_iff (swaps : t.Swaps p q u) {x : Pool} :
    x ∈ u.allPools ↔ x = q ∨ x ∈ t.allPools ∧ x.serial ≠ p.serial :=
  swaps.pools ▸ mem_putPool swaps.member swaps.serial

/-! ### Changes that no request notices -/

/-- All pools of a table go on in another one, and what else is there is new. -/
structure Continues (t u : Table) : Prop where
  goesOn : ∀ {p}, p ∈ t.allPools → ∃ q ∈ u.allPools, p.GoesOn q
  /-- A pool was there before, or nobody is in it. -/
  comes : ∀ {q}, q ∈ u.allPools →
    (∃ p ∈ t.allPools, p.GoesOn q) ∨ q.Idle ∧ t.nextSerial ≤ q.serial
  past : t.pastSerials.Nodup → u.pastSerials.Nodup
  nextSerial : t.nextSerial ≤ u.nextSerial
  inFlight : u.inFlight = t.inFlight

/-- Pools are not changed by what changes only the rest of the table. -/
theorem Continues.of_same (router : u.router = t.router) (retired : u.retired = t.retired)
    (nextSerial : u.nextSerial = t.nextSerial) (inFlight : u.inFlight = t.inFlight) :
    t.Continues u := by
  have same : u.allPools = t.allPools := by rw [allPools, router, retired, allPools]
  refine ⟨fun {p} member => ⟨p, same ▸ member, .refl p⟩,
    fun {q} member => Or.inl ⟨q, same ▸ member, .refl q⟩, fun past => ?_, nextSerial.ge, inFlight⟩
  rwa [pastSerials, retired]

theorem Continues.refl (t : Table) : t.Continues t := .of_same rfl rfl rfl rfl

/-- Pools that go on through two changes go on through both. -/
theorem Continues.trans {v : Table} (first : t.Continues u) (second : u.Continues v) :
    t.Continues v := by
  refine ⟨fun {p} member => ?_, fun {r} member => ?_, second.past ∘ first.past,
    first.nextSerial.trans second.nextSerial, second.inFlight.trans first.inFlight⟩
  · obtain ⟨q, there, early⟩ := first.goesOn member
    obtain ⟨r, present, late⟩ := second.goesOn there
    exact ⟨r, present, early.trans late⟩
  · rcases second.comes member with ⟨q, there, late⟩ | ⟨idle, new⟩
    · rcases first.comes there with ⟨p, known, early⟩ | ⟨idle, new⟩
      · exact Or.inl ⟨p, known, early.trans late⟩
      · exact Or.inr ⟨late.idle idle, late.serial ▸ new⟩
    · exact Or.inr ⟨idle, first.nextSerial.trans new⟩

/-- A change that fails leaves all pools where they are, so an attempt continues the table if the
change does. -/
theorem Continues.attempt {ε : Type} {result : Except ε Table}
    (continues : ∀ u, result = .ok u → t.Continues u) : t.Continues (t.attempt result) :=
  attempt_rec (.refl t) continues

/-- All pools go on if a pool is put back as one that goes on from it. -/
theorem Numbered.continues_putPool (numbered : t.Numbered) (member : p ∈ t.allPools)
    (goesOn : p.GoesOn q) : t.Continues (t.putPool q) := by
  refine ⟨fun {r} known => ?_, fun {r} present => ?_, fun past => ?_, Nat.le_refl _, rfl⟩
  · by_cases same : r.serial = p.serial
    · obtain rfl := numbered.eq_of_serial known member same
      exact ⟨q, (mem_putPool member goesOn.serial).2 (Or.inl rfl), goesOn⟩
    · exact ⟨r, (mem_putPool member goesOn.serial).2 (Or.inr ⟨known, same⟩), .refl r⟩
  · rcases (mem_putPool member goesOn.serial).1 present with rfl | ⟨known, -⟩
    · exact Or.inl ⟨p, member, goesOn⟩
    · exact Or.inl ⟨r, known, .refl r⟩
  · rwa [pastSerials_putPool]

/-- The pool of a pattern changes, and with it something that is no pool. -/
theorem Numbered.continues_swap (numbered : t.Numbered) {pattern : String}
    (found : t.pool? pattern = some p) (goesOn : p.GoesOn q)
    (router : u.router = (t.putPool q).router) (retired : u.retired = (t.putPool q).retired)
    (nextSerial : u.nextSerial = t.nextSerial) (inFlight : u.inFlight = t.inFlight) :
    t.Continues u :=
  (numbered.continues_putPool (mem_allPools_of_pool found) goesOn).trans
    (.of_same router retired nextSerial inFlight)

/-! ### Pools that come and go -/

/-- Adding a pool lets all pools go on, and the new one has a new number and nobody in it. -/
theorem continues_insertPool {l : Location} {added : Bool}
    (inserted : t.insertPool l = .ok (added, u)) : t.Continues u := by
  rcases insertPool_spec inserted with ⟨-, rfl⟩ | ⟨-, unused, p, built, rfl⟩
  · exact .refl _
  · obtain ⟨idle, serial⟩ := Pool.idle_of_build built
    have pools {x : Pool} : x ∈ (t.withPool l p).allPools ↔ x = p ∨ x ∈ t.allPools := by
      rw [allPools, allPools, List.mem_append, List.mem_append, ← or_assoc]
      exact or_congr_left (Dict.mem_values_insert unused)
    refine ⟨fun {r} known => ⟨r, pools.2 (Or.inr known), .refl r⟩, fun {r} present => ?_, id,
      Nat.le_succ _, rfl⟩
    rcases pools.1 present with rfl | known
    · exact Or.inr ⟨idle, serial.ge⟩
    · exact Or.inl ⟨r, known, .refl r⟩

/-- A pool that is put out of service goes on there. -/
theorem Numbered.continues_without (numbered : t.Numbered) {pattern : String}
    (found : t.pool? pattern = some p) : t.Continues (t.without pattern p) := by
  have before {x : Pool} : x ∈ t.allPools ↔
      x = p ∨ x ∈ (t.router.erase pattern).targets ∨ x ∈ t.retired := by
    rw [allPools, List.mem_append, ← or_assoc]
    exact or_congr_left (Dict.mem_values_erase found)
  have after {x : Pool} : x ∈ (t.without pattern p).allPools ↔
      x = p.shutdown ∨ x ∈ (t.router.erase pattern).targets ∨ x ∈ t.retired := by
    change x ∈ (t.router.erase pattern).targets ++ (t.retired ++ [p.shutdown]) ↔ _
    rw [← List.append_assoc, List.mem_append, List.mem_singleton, List.mem_append, or_comm]
  refine ⟨fun {r} known => ?_, fun {r} present => Or.inl ?_, fun past => ?_, Nat.le_refl _, rfl⟩
  · rcases before.1 known with rfl | other
    · exact ⟨r.shutdown, after.2 (Or.inl rfl), r.aside_shutdown.goesOn⟩
    · exact ⟨r, after.2 (Or.inr other), .refl r⟩
  · rcases after.1 present with rfl | other
    · exact ⟨p, before.2 (Or.inl rfl), p.aside_shutdown.goesOn⟩
    · exact ⟨r, before.2 (Or.inr other), .refl r⟩
  · have serials : (t.without pattern p).pastSerials = t.pastSerials ++ [p.serial] :=
      List.map_append
    rw [serials]
    refine past.append (List.nodup_singleton _) fun n gone here => ?_
    exact numbered.sound.serial_apart found (List.mem_singleton.1 here ▸ gone)

/-- When all pools are put out of service, all of them go on there. -/
theorem Numbered.continues_cleared (numbered : t.Numbered) : t.Continues t.cleared := by
  have pools : t.cleared.allPools = t.retired ++ t.router.targets.map Pool.shutdown := by
    rw [cleared, foldl_retire]
    rfl
  refine ⟨fun {p} known => ?_, fun {q} present => ?_, fun past => ?_, ?_, ?_⟩
  · rw [pools]
    rcases List.mem_append.1 known with live | gone
    · exact ⟨p.shutdown, List.mem_append.2 (Or.inr (List.mem_map_of_mem live)), p.aside_shutdown.goesOn⟩
    · exact ⟨p, List.mem_append.2 (Or.inl gone), .refl p⟩
  · refine Or.inl ?_
    rw [pools] at present
    rcases List.mem_append.1 present with gone | live
    · exact ⟨q, List.mem_append.2 (Or.inr gone), .refl q⟩
    · obtain ⟨p, here, rfl⟩ := List.mem_map.1 live
      exact ⟨p, List.mem_append.2 (Or.inl here), p.aside_shutdown.goesOn⟩
  · rw [pastSerials_cleared]
    -- The numbers that join were those of pools in service, which differ from all others.
    refine past.append ?_ ?_
    · rw [Router.targets, Dict.values, List.map_map]
      refine List.pairwise_map.2 (t.router.entries.ascending.imp_of_mem ?_)
      intro a b first second less same
      have patterns := numbered.sound.pattern_eq (Dict.get?_eq_some_iff.2 first)
        (Dict.get?_eq_some_iff.2 second) same
      exact String.lt_irrefl _ (patterns ▸ less)
    · rintro n gone here
      obtain ⟨p, live, rfl⟩ := List.mem_map.1 here
      obtain ⟨pattern, found⟩ := Dict.mem_values.1 live
      exact numbered.sound.serial_apart found gone
  · rw [cleared, foldl_retire]
  · rw [cleared, foldl_retire]

/-! ### Operations -/

/-- A limiter that was just built has nobody inside. -/
theorem idle_limiterOf {s : LimiterSetting} {instant : Nat} {limiter : Limiter}
    (built : limiterOf s instant = .ok limiter) : limiter.Idle := by
  rw [limiterOf, Limiter.build] at built
  cases named : LimiterKind.ofName s.kind with
  | error error =>
      rw [named] at built
      exact absurd built (by simp [Except.map, bind, Except.bind])
  | ok kind =>
      rw [named] at built
      obtain rfl := Except.ok.inj built
      have fresh := Limiter.idle_ofKind kind
      have rated := fresh.setRate s.volume s.speed instant
      split <;> split
      · exact rated
      · exact fresh
      · exact rated
      · exact fresh

/-- Setting a limiter lets all pools go on; who waits at the old limiter goes on waiting there. -/
theorem Numbered.continues_setLimiter (numbered : t.Numbered) {s : LimiterSetting} {instant : Nat}
    (changed : t.setLimiter s instant = .ok u) : t.Continues u := by
  obtain ⟨p, limiter, found, built, rfl⟩ := setLimiter_spec changed
  exact numbered.continues_swap found (p.goesOn_installLimiter s.path (idle_limiterOf built))
    rfl rfl rfl rfl

/-- Adding a host lets all pools go on. -/
theorem Numbered.continues_addHost (numbered : t.Numbered) {pattern raw key : String}
    (added : t.addHost pattern raw = .ok (key, u)) : t.Continues u := by
  obtain ⟨p, q, change, found, joined, rfl⟩ := addHost_spec added
  exact numbered.continues_swap found (Pool.aside_addHost joined).goesOn rfl rfl rfl rfl

/-- Changing a balancer lets all pools go on. -/
theorem Numbered.continues_changeBalancer (numbered : t.Numbered) {pattern mode : String}
    (changed : t.changeBalancer pattern mode = .ok u) : t.Continues u := by
  obtain ⟨p, q, found, built, rfl⟩ := changeBalancer_spec changed
  exact numbered.continues_swap found (Pool.aside_changeBalancer built).goesOn rfl rfl rfl rfl

/-- Removing a host lets all pools go on, whether its checks stop in time or not. -/
theorem Numbered.continues_removeHost (numbered : t.Numbered) (pattern host : String)
    (checksStop : Bool) : t.Continues (t.removeHost pattern host checksStop).2 := by
  rw [Table.removeHost]
  dsimp only
  split
  · exact .refl t
  · next p found =>
      split
      · exact numbered.continues_swap found (p.aside_removeHost _ checksStop).goesOn rfl rfl rfl rfl
      · exact .refl t

/-- Adding a pool gives it a number that no other pool has. -/
theorem Numbered.insertPool (numbered : t.Numbered) {l : Location} {added : Bool}
    (inserted : t.insertPool l = .ok (added, u)) : u.Numbered :=
  ⟨numbered.sound.of_insertPool inserted, (continues_insertPool inserted).past numbered.past⟩

/-- Setting a limiter keeps all numbers apart. -/
theorem Numbered.setLimiter (numbered : t.Numbered) {s : LimiterSetting} {instant : Nat}
    (changed : t.setLimiter s instant = .ok u) : u.Numbered :=
  ⟨numbered.sound.of_setLimiter changed, (numbered.continues_setLimiter changed).past numbered.past⟩

/-- A rebuild from a snapshot lets the pools go on that were there, out of service, and starts new
ones. -/
theorem Numbered.continues_rebuild (numbered : t.Numbered) (s : RoutingState) (instant : Nat) :
    t.Continues (t.rebuild s instant) := by
  refine (rebuild_rec (motive := fun v => v.Numbered ∧ t.Continues v) s instant
    ⟨numbered, .refl t⟩ (fun {v w l added} before _ inserted => ?_)
    fun {v w k} before changed => ?_).2
  · exact ⟨before.1.insertPool inserted, before.2.trans (continues_insertPool inserted)⟩
  · exact ⟨before.1.setLimiter changed, before.2.trans (before.1.continues_setLimiter changed)⟩

/-- A restore lets the pools go on that were there, and starts new ones. -/
theorem Numbered.continues_restore (numbered : t.Numbered) (s : RoutingState)
    (acl : Option AccessList) (instant : Nat) : t.Continues (t.restore s acl instant) := by
  have cleared := numbered.continues_cleared
  have bare : t.cleared.Numbered := ⟨numbered.sound.cleared, cleared.past numbered.past⟩
  have rebuilt := bare.continues_rebuild s instant
  exact (cleared.trans rebuilt).trans (.of_same rfl rfl rfl rfl)

end Table

/-- Whether a step is one of a check, and so none of a request. -/
def Traffic.IsCheck : Traffic → Prop
  | dispatch .. | dispatchTo .. | look .. | expire .. | finish .. => False
  | verdict .. | settleChecks .. | startProbe .. | endProbe .. => True

/-- Whether an operation is none of a request. -/
def Operation.IsChange : Operation → Prop
  | traffic event => event.IsCheck
  | _ => True

namespace Table

variable {t : Table}

/-- A step of a check changes at most the hosts of a pool and how they are checked. -/
theorem aside_check (t : Table) {event : Traffic} (check : event.IsCheck) :
    t.serve event = t ∨ ∃ p ∈ t.allPools, ∃ q, p.Aside q ∧ t.serve event = t.putPool q := by
  have through {change : Pool → Option Pool} (aside : ∀ p q, change p = some q → p.Aside q)
      (serial : Nat) :
      t.changePool serial change = t ∨
        ∃ p ∈ t.allPools, ∃ q, p.Aside q ∧ t.changePool serial change = t.putPool q := by
    rcases t.changePool_spec serial change with same | ⟨p, q, member, changed, swapped⟩
    · exact Or.inl same
    · exact Or.inr ⟨p, member, q, aside p q changed, swapped⟩
  cases event with
  | dispatch | dispatchTo | look | expire | finish => exact check.elim
  | verdict serial host reachable =>
      exact through (fun p q changed => Option.some.inj changed ▸ p.aside_recordProbe host _) serial
  | settleChecks serial now =>
      exact through (fun p q changed => Option.some.inj changed ▸ p.aside_settleChecks now) serial
  | startProbe serial check now =>
      refine through (fun p q changed => ?_) serial
      obtain ⟨⟨host, after⟩, started, rfl⟩ := Option.map_eq_some_iff.1 changed
      exact Pool.aside_startProbe started
  | endProbe serial check reachable =>
      refine through (fun p q changed => ?_) serial
      obtain ⟨⟨next, after⟩, ended, rfl⟩ := Option.map_eq_some_iff.1 changed
      exact Pool.aside_endProbe ended

/-- A step of a check lets all pools go on. -/
theorem Numbered.continues_check (numbered : t.Numbered) {event : Traffic} (check : event.IsCheck) :
    t.Continues (t.serve event) := by
  rcases t.aside_check check with same | ⟨p, member, q, aside, swapped⟩
  · rw [same]
    exact .refl t
  · rw [swapped]
    exact numbered.continues_putPool member aside.goesOn

/-- Whatever is done to a table, its pools go on for the requests at them. -/
theorem Numbered.continues (numbered : t.Numbered) {operation : Operation}
    (change : operation.IsChange) : t.Continues (t.perform operation) := by
  cases operation with
  | addPool l =>
      refine .attempt fun u made => ?_
      obtain ⟨⟨added, u⟩, answered, rfl⟩ := exists_of_map_ok made
      rw [Table.addPool] at answered
      obtain ⟨⟨fresh, v⟩, inserted, same⟩ := exists_of_map_ok answered
      obtain ⟨-, rfl⟩ := Prod.mk.inj same
      have continues := continues_insertPool inserted
      cases fresh with
      | true => exact continues.trans (.of_same rfl rfl rfl rfl)
      | false => exact continues
  | removePool pattern =>
      refine .attempt fun u removed => ?_
      obtain ⟨p, found, rfl⟩ := removePool_spec removed
      exact numbered.continues_without found
  | addHost pattern raw =>
      refine .attempt fun u made => ?_
      obtain ⟨⟨key, u⟩, added, rfl⟩ := exists_of_map_ok made
      exact numbered.continues_addHost added
  | removeHost pattern host checksStop =>
      exact numbered.continues_removeHost pattern host checksStop
  | changeBalancer pattern mode =>
      exact .attempt fun u changed => numbered.continues_changeBalancer changed
  | setLimiter s instant => exact .attempt fun u changed => numbered.continues_setLimiter changed
  | restore s acl instant => exact numbered.continues_restore s acl instant
  | shutdownPools => exact numbered.continues_cleared.trans (.of_same rfl rfl rfl rfl)
  | traffic event => exact numbered.continues_check change

/-- Whatever is done to the table but steps of requests keeps all numbers apart. -/
theorem Numbered.perform (numbered : t.Numbered) {operation : Operation}
    (change : operation.IsChange) : (t.perform operation).Numbered :=
  ⟨numbered.sound.perform operation, (numbered.continues change).past numbered.past⟩

theorem numbered_empty (settings : PoolSettings) (hostWait : Nat) (acl : AccessList) :
    ({ settings, hostWait, acl } : Table).Numbered :=
  ⟨sound_empty settings hostWait acl, List.nodup_nil⟩

end Table

end ClusterGateway
