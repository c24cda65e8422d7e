import ClusterGateway.Proofs.Pool.Limits
import ClusterGateway.Proofs.Route.Continuity

/-! # The limits of a table

Each pool in service is governed by the settings recorded for its pattern. A pool that is put out of
service loses its settings, but not its limiters: requests that still come to it are limited as they
were when it last was in service. So what is proved of a table refers to settings that were noted
for its pools, by their numbers.
-/

namespace ClusterGateway

namespace Table

variable {t u : Table} {p q : Pool} {pattern : String} {noted terms : Nat → List LimiterSetting}

/-! ### Swapping a pool -/

theorem pool?_putPool_self (found : t.pool? pattern = some p) (serial : q.serial = p.serial) :
    (t.putPool q).pool? pattern = some q := by
  rw [pool?_putPool_eq, found, Option.map_some, if_pos serial.symm]

/-- Putting a pool back changes the pool of no other pattern. -/
theorem Sound.pool?_putPool_of_ne (sound : t.Sound) (found : t.pool? pattern = some p)
    (serial : q.serial = p.serial) {other : String} (different : other ≠ pattern) :
    (t.putPool q).pool? other = t.pool? other := by
  rw [pool?_putPool_eq]
  cases there : t.pool? other with
  | none => rfl
  | some r =>
      rw [Option.map_some, if_neg]
      exact fun same => different (sound.pattern_eq there found (same.trans serial))

/-- A pool that is out of service after another one was put back was there before, or took the place
of that one. -/
theorem Numbered.mem_retired_putPool (numbered : t.Numbered) (member : p ∈ t.allPools)
    (serial : q.serial = p.serial) {x : Pool} (present : x ∈ (t.putPool q).retired) :
    x ∈ t.retired ∨ p ∈ t.retired ∧ x = q := by
  obtain ⟨r, gone, rfl⟩ := List.mem_map.1 present
  by_cases same : r.serial = q.serial
  · have here : r ∈ t.allPools := List.mem_append.2 (Or.inr gone)
    obtain rfl := numbered.eq_of_serial here member (same.trans serial)
    exact Or.inr ⟨gone, if_pos same⟩
  · rw [if_neg same]
    exact Or.inl gone

/-! ### The settings of a pool -/

/-- The settings of the pool with a number: those recorded for its pattern, or if it is out of
service, those that were noted. -/
def settingsOf (t : Table) (noted : Nat → List LimiterSetting) (serial : Nat) :
    List LimiterSetting :=
  match t.router.targets.find? (·.serial = serial) with
  | some p => t.limiterSettings p.pattern
  | none => noted serial

/-- The settings of the pools in service are noted. -/
def Notes (t : Table) (noted : Nat → List LimiterSetting) : Prop :=
  ∀ {pattern : String} {p : Pool}, t.pool? pattern = some p →
    noted p.serial = t.limiterSettings pattern

/-- A pool in service that is found by its number is the pool of some pattern, and has that
number. -/
theorem pool?_of_find {serial : Nat} (found : t.router.targets.find? (·.serial = serial) = some p) :
    p.serial = serial ∧ ∃ pattern, t.pool? pattern = some p :=
  ⟨serial_of_find found, Dict.mem_values.1 (List.mem_of_find?_eq_some found)⟩

/-- The settings that are recorded now are those to be noted for the pools in service. -/
theorem Sound.notes_settingsOf (sound : t.Sound) (noted : Nat → List LimiterSetting) :
    t.Notes (t.settingsOf noted) := by
  intro pattern p found
  have live : p ∈ t.router.targets := Dict.mem_values.2 ⟨pattern, found⟩
  rw [settingsOf]
  split
  · next r here =>
      obtain ⟨serial, other, there⟩ := pool?_of_find here
      rw [(sound.coherent.pools other r there).1, sound.pattern_eq there found serial]
  · next missing =>
      exact absurd (List.find?_eq_none.1 missing p live) (by simp)

/-- For a pool out of service the settings stay as they were noted. -/
theorem Sound.settingsOf_of_retired (sound : t.Sound) (gone : p ∈ t.retired) :
    t.settingsOf noted p.serial = noted p.serial := by
  rw [settingsOf]
  split
  · next r here =>
      obtain ⟨serial, other, there⟩ := pool?_of_find here
      exact absurd (serial ▸ List.mem_map_of_mem gone) (sound.serial_apart there)
  · rfl

/-! ### Pools under their settings -/

/-- Each pool in service is governed by the settings of its pattern, and each other one by those
noted for its number. -/
structure Enforces (t : Table) (noted terms : Nat → List LimiterSetting) : Prop where
  live : ∀ {pattern : String} {p : Pool}, t.pool? pattern = some p →
    p.Governed (t.limiterSettings pattern) terms
  gone : ∀ {p : Pool}, p ∈ t.retired → p.Governed (noted p.serial) terms

/-- Without pools there is nothing to be enforced. -/
theorem enforces_empty (settings : PoolSettings) (hostWait : Nat) (acl : AccessList)
    (noted terms : Nat → List LimiterSetting) :
    ({ settings, hostWait, acl } : Table).Enforces noted terms :=
  ⟨fun found => absurd found (by simp [pool?, Router.get?]),
    fun gone => absurd gone List.not_mem_nil⟩

/-- Whether settings are enforced depends on nothing but pools and settings. -/
theorem Enforces.of_same (enforces : t.Enforces noted terms) (router : u.router = t.router)
    (retired : u.retired = t.retired) (limiters : u.limiters = t.limiters) :
    u.Enforces noted terms := by
  refine ⟨fun {pattern p} found => ?_, fun {p} gone => enforces.gone (retired ▸ gone)⟩
  rw [limiterSettings, limiters]
  rw [pool?, router] at found
  exact enforces.live found

/-- An attempt keeps the settings enforced if the change does when it succeeds. -/
theorem Enforces.attempt {ε : Type} (enforces : t.Enforces noted terms) {result : Except ε Table}
    (kept : ∀ u, result = .ok u → u.Enforces noted terms) :
    (t.attempt result).Enforces noted terms := attempt_rec enforces kept

/-- Every pool, in service or not, is governed by the settings noted for its number. -/
theorem Enforces.governed (enforces : t.Enforces noted terms) (notes : t.Notes noted)
    (member : p ∈ t.allPools) : p.Governed (noted p.serial) terms := by
  rcases List.mem_append.1 member with live | gone
  · obtain ⟨pattern, found⟩ := Dict.mem_values.1 live
    rw [notes found]
    exact enforces.live found
  · exact enforces.gone gone

/-- The settings that pools have now may be noted. -/
theorem Enforces.refresh (enforces : t.Enforces noted terms) (sound : t.Sound) :
    t.Enforces (t.settingsOf noted) terms :=
  ⟨enforces.live, fun {p} gone => by
    rw [sound.settingsOf_of_retired gone]
    exact enforces.gone gone⟩

/-- Terms are noted under a ticket that nobody has. -/
theorem Enforces.note (enforces : t.Enforces noted terms) {ticket : Nat}
    (fresh : ∀ p ∈ t.allPools, ticket ∉ p.tickets) (agreed : List LimiterSetting) :
    t.Enforces noted (Function.update terms ticket agreed) :=
  ⟨fun found => (enforces.live found).note (fresh _ (mem_allPools_of_pool found)) agreed,
    fun gone => (enforces.gone gone).note (fresh _ (List.mem_append.2 (Or.inr gone))) agreed⟩

/-- A pool may be swapped for one that is governed by the same settings. -/
theorem Enforces.putPool (enforces : t.Enforces noted terms) (numbered : t.Numbered)
    (notes : t.Notes noted) (member : p ∈ t.allPools) (serial : q.serial = p.serial)
    (governed : q.Governed (noted p.serial) terms) : (t.putPool q).Enforces noted terms := by
  refine ⟨fun {pattern x} found => ?_, fun {x} present => ?_⟩
  · change x.Governed (t.limiterSettings pattern) terms
    rcases numbered.sound.pool?_putPool member serial found with before | ⟨here, rfl⟩
    · exact enforces.live before
    · rwa [notes here] at governed
  · rcases numbered.mem_retired_putPool member serial present with before | ⟨-, rfl⟩
    · exact enforces.gone before
    · rwa [serial]

/-- The pool of a pattern changes in its hosts or checks, and with it what is neither a pool nor a
setting. -/
theorem Enforces.swap (enforces : t.Enforces noted terms) (numbered : t.Numbered)
    (notes : t.Notes noted) (member : p ∈ t.allPools) (aside : p.Aside q)
    (router : u.router = (t.putPool q).router) (retired : u.retired = (t.putPool q).retired)
    (limiters : u.limiters = (t.putPool q).limiters) : u.Enforces noted terms :=
  (enforces.putPool numbered notes member aside.goesOn.serial
    ((enforces.governed notes member).aside aside)).of_same router retired limiters

/-! ### Pools that come and go -/

/-- A new pool has no limiters yet, and no settings are recorded for its pattern. -/
theorem Enforces.insertPool (enforces : t.Enforces noted terms) (sound : t.Sound) {l : Location}
    {added : Bool} (inserted : t.insertPool l = .ok (added, u)) : u.Enforces noted terms := by
  rcases insertPool_spec inserted with ⟨-, rfl⟩ | ⟨-, unused, p, built, rfl⟩
  · exact enforces
  · refine ⟨fun {pattern q} found => ?_, enforces.gone⟩
    change q.Governed (t.limiterSettings pattern) terms
    rw [pool?_withPool] at found
    split at found
    · next same =>
        subst same
        obtain rfl := Option.some.inj found
        rw [contains_router, sound.keyed] at unused
        rw [limiterSettings, sound.limiters_of_absent unused]
        exact Pool.governed_of_build built terms
    · exact enforces.live found

/-- A pool that is put out of service goes on under the settings that were noted for it. -/
theorem Enforces.without (enforces : t.Enforces noted terms) (notes : t.Notes noted)
    (found : t.pool? pattern = some p) : (t.without pattern p).Enforces noted terms := by
  refine ⟨fun {other q} present => ?_, fun {q} gone => ?_⟩
  · change (t.router.entries.erase pattern).get? other = some q at present
    change q.Governed (((t.limiters.erase pattern).get? other).getD []) terms
    rw [Dict.get?_erase] at present ⊢
    split at present
    · exact absurd present (by simp)
    · next different =>
        rw [if_neg different]
        exact enforces.live present
  · rcases List.mem_append.1 gone with before | last
    · exact enforces.gone before
    · obtain rfl := List.mem_singleton.1 last
      have governed := (enforces.live found).aside p.aside_shutdown
      exact (notes found).symm ▸ governed

/-- When all pools are put out of service, each goes on under the settings that were noted for
it. -/
theorem Enforces.cleared (enforces : t.Enforces noted terms) (notes : t.Notes noted) :
    t.cleared.Enforces noted terms := by
  have router : t.cleared.router = {} := by rw [Table.cleared, foldl_retire]
  have retired : t.cleared.retired = t.retired ++ t.router.targets.map Pool.shutdown := by
    rw [Table.cleared, foldl_retire]
  refine ⟨fun {pattern p} found => ?_, fun {q} gone => ?_⟩
  · rw [pool?, router] at found
    exact absurd found (by simp [Router.get?])
  · rw [retired] at gone
    rcases List.mem_append.1 gone with before | last
    · exact enforces.gone before
    · obtain ⟨p, live, rfl⟩ := List.mem_map.1 last
      obtain ⟨pattern, found⟩ := Dict.mem_values.1 live
      have governed := (enforces.live found).aside p.aside_shutdown
      exact (notes found).symm ▸ governed

/-! ### New settings -/

/-- A limiter that is set is enforced from then on, with the other settings of the pattern. -/
theorem Enforces.setLimiter (enforces : t.Enforces noted terms) (numbered : t.Numbered)
    {s : LimiterSetting} {instant : Nat} (changed : t.setLimiter s instant = .ok u) :
    u.Enforces noted terms := by
  obtain ⟨p, limiter, found, built, rfl⟩ := setLimiter_spec changed
  have sound := numbered.sound
  let q := p.installLimiter s.path limiter
  refine ⟨fun {pattern x} present => ?_, fun {x} present => ?_⟩
  · change (t.putPool q).pool? pattern = some x at present
    change x.Governed (((t.limiters.insert s.pattern _).get? pattern).getD []) terms
    rw [Dict.get?_insert]
    by_cases same : s.pattern = pattern
    · subst same
      rw [if_pos rfl]
      rw [pool?_putPool_self (q := q) found rfl] at present
      obtain rfl := Option.some.inj present
      have own := (sound.coherent.pools _ p found).1
      exact (enforces.live found).installLimiter own.symm (Limiter.enforces_of_built built)
    · rw [if_neg same]
      rw [sound.pool?_putPool_of_ne (q := q) found rfl (Ne.symm same)] at present
      exact enforces.live present
  · have live : p ∈ t.allPools := mem_allPools_of_pool found
    rcases numbered.mem_retired_putPool (q := q) live rfl present with before | ⟨gone, -⟩
    · exact enforces.gone before
    · exact absurd (List.mem_map_of_mem gone) (sound.serial_apart found)

/-- What is built from a state is limited as the state says, one location and one setting after the
other. -/
theorem Enforces.rebuild (enforces : t.Enforces noted terms) (numbered : t.Numbered)
    (s : RoutingState) (instant : Nat) : (t.rebuild s instant).Enforces noted terms := by
  refine (rebuild_rec (motive := fun v => v.Numbered ∧ v.Enforces noted terms) s instant
    ⟨numbered, enforces⟩ (fun {v w l added} before _ inserted => ?_)
    fun {v w k} before changed => ?_).2
  · exact ⟨before.1.insertPool inserted, before.2.insertPool before.1.sound inserted⟩
  · exact ⟨before.1.setLimiter changed, before.2.setLimiter before.1 changed⟩

/-- After a restore the settings of the snapshot are enforced, and the old pools go on under their
old ones. -/
theorem Enforces.restore (enforces : t.Enforces noted terms) (numbered : t.Numbered)
    (notes : t.Notes noted) (s : RoutingState) (acl : Option AccessList) (instant : Nat) :
    (t.restore s acl instant).Enforces noted terms := by
  have bare : t.cleared.Numbered :=
    ⟨numbered.sound.cleared, numbered.continues_cleared.past numbered.past⟩
  exact ((enforces.cleared notes).rebuild bare s instant).of_same rfl rfl rfl

/-! ### Operations -/

/-- Adding a pool keeps all settings enforced. -/
theorem Enforces.addPool (enforces : t.Enforces noted terms) (sound : t.Sound) {l : Location}
    {added : Bool} (answered : t.addPool l = .ok (added, u)) : u.Enforces noted terms := by
  rw [Table.addPool] at answered
  obtain ⟨⟨fresh, v⟩, inserted, same⟩ := exists_of_map_ok answered
  obtain ⟨-, rfl⟩ := Prod.mk.inj same
  have kept := enforces.insertPool sound inserted
  cases fresh with
  | true => exact kept.of_same rfl rfl rfl
  | false => exact kept

/-- Removing a host keeps all settings enforced. -/
theorem Enforces.removeHost (enforces : t.Enforces noted terms) (numbered : t.Numbered)
    (notes : t.Notes noted) (pattern host : String) (checksStop : Bool) :
    (t.removeHost pattern host checksStop).2.Enforces noted terms := by
  rw [Table.removeHost]
  dsimp only
  split
  · exact enforces
  · next p found =>
      split
      · exact enforces.swap numbered notes (mem_allPools_of_pool found)
          (p.aside_removeHost _ checksStop) rfl rfl rfl
      · exact enforces

/-- Whatever is done to a table, its pools are governed by the settings it has then. -/
theorem Enforces.perform (enforces : t.Enforces noted terms) (numbered : t.Numbered)
    (notes : t.Notes noted) {operation : Operation} (change : operation.IsChange) :
    (t.perform operation).Enforces noted terms := by
  cases operation with
  | addPool l =>
      refine enforces.attempt fun u made => ?_
      obtain ⟨⟨added, u⟩, answered, rfl⟩ := exists_of_map_ok made
      exact enforces.addPool numbered.sound answered
  | removePool pattern =>
      refine enforces.attempt fun u removed => ?_
      obtain ⟨p, found, rfl⟩ := removePool_spec removed
      exact enforces.without notes found
  | addHost pattern raw =>
      refine enforces.attempt fun u made => ?_
      obtain ⟨⟨key, u⟩, added, rfl⟩ := exists_of_map_ok made
      obtain ⟨p, q, change, found, joined, rfl⟩ := addHost_spec added
      exact enforces.swap numbered notes (mem_allPools_of_pool found) (Pool.aside_addHost joined)
        rfl rfl rfl
  | removeHost pattern host checksStop =>
      exact enforces.removeHost numbered notes pattern host checksStop
  | changeBalancer pattern mode =>
      refine enforces.attempt fun u changed => ?_
      obtain ⟨p, q, found, built, rfl⟩ := changeBalancer_spec changed
      exact enforces.swap numbered notes (mem_allPools_of_pool found) (Pool.aside_changeBalancer built)
        rfl rfl rfl
  | setLimiter s instant =>
      exact enforces.attempt fun u changed => enforces.setLimiter numbered changed
  | restore s acl instant => exact enforces.restore numbered notes s acl instant
  | shutdownPools => exact (enforces.cleared notes).of_same rfl rfl rfl
  | traffic event =>
      change (t.serve event).Enforces noted terms
      rcases t.aside_check change with same | ⟨p, member, q, aside, swapped⟩
      · exact same.symm ▸ enforces
      · exact enforces.swap numbered notes member aside (congrArg router swapped)
          (congrArg retired swapped) (congrArg limiters swapped)

end Table

end ClusterGateway
