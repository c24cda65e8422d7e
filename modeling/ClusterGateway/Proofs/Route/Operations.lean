import ClusterGateway.Proofs.Route.Coherence

/-! # What the operations make of a table

Each operation of the routing table keeps it sound and makes of its configuration what the log entry
for the operation does; an operation that is refused leaves a configuration of which the entry makes
nothing. The conditions under which an operation succeeds are told by the configuration, apart from
the removal of a host, which may also wait in vain for its checks.
-/

namespace ClusterGateway

namespace Table

variable {t u : Table} {pattern : String}

/-- What succeeds with a function of its result has succeeded before the function was applied. -/
theorem exists_of_map_ok {ε α β : Type} {result : Except ε α} {f : α → β} {b : β}
    (made : result.map f = .ok b) : ∃ a, result = .ok a ∧ f a = b := by
  cases result with
  | ok a => exact ⟨a, rfl, Except.ok.inj made⟩
  | error error => exact absurd made (by simp [Except.map])

/-- A change of a table, or its refusal, makes of the configuration what an entry does. -/
def Makes {ε : Type} (t : Table) (entry : LogEntry) : Except ε Table → Prop
  | .ok u => u.Sound ∧ u.acl = t.acl ∧ u.configuration = t.configuration.after entry
  | .error _ => t.configuration.after entry = t.configuration

/-- What is made of a table that changes no further in what counts is made of the later table as
well. -/
theorem Makes.steady {ε : Type} {entry : LogEntry} {v : Table}
    (made : t.Makes entry (.ok u : Except ε Table)) (steady : u.Steady v) :
    t.Makes entry (.ok v : Except ε Table) :=
  ⟨made.1.of_steady steady, steady.acl.trans made.2.1, steady.configuration.trans made.2.2⟩

/-- What holds of a table and of what a change makes of it holds whether the change can be made or
not. -/
theorem attempt_rec {motive : Table → Prop} {ε : Type} {result : Except ε Table} (before : motive t)
    (kept : ∀ u, result = .ok u → motive u) : motive (t.attempt result) := by
  cases result with
  | ok u => exact kept u rfl
  | error error => exact before

/-- A change that is attempted makes what it makes, or nothing. -/
theorem Sound.attempt {ε : Type} (sound : t.Sound) {entry : LogEntry} {result : Except ε Table}
    (made : t.Makes entry result) :
    (t.attempt result).Sound ∧ (t.attempt result).acl = t.acl ∧
      (t.attempt result).configuration = t.configuration.after entry := by
  cases result with
  | ok u => exact made
  | error e => exact ⟨sound, rfl, Eq.symm made⟩

theorem steady_countPools (t : Table) : t.Steady t.countPools := ⟨rfl, rfl, rfl, rfl, rfl, rfl⟩

/-! ### Pools -/

theorem contains_router (t : Table) (pattern : String) :
    t.router.contains pattern = t.outlines.contains pattern :=
  (Dict.contains_map _ t.router.entries pattern).symm

/-- A sound table has a pool for just the patterns that have a location. -/
theorem Sound.isSome_pool? (sound : t.Sound) (pattern : String) :
    (t.pool? pattern).isSome = t.locations.contains pattern := by
  rw [← sound.keyed, ← contains_router]
  rfl

/-- A location of a sound table has a pool. -/
theorem Sound.exists_pool (sound : t.Sound) (known : t.locations.contains pattern = true) :
    ∃ p, t.pool? pattern = some p :=
  Option.isSome_iff_exists.1 (sound.isSome_pool? pattern ▸ known)

theorem Sound.pool?_of_absent (sound : t.Sound) (absent : t.locations.contains pattern = false) :
    t.pool? pattern = none := by
  rw [← Option.isNone_iff_eq_none, ← Option.isSome_eq_false_iff, sound.isSome_pool?, absent]

theorem get?_of_absent (absent : t.locations.contains pattern = false) :
    t.locations.get? pattern = none := by
  rwa [Dict.contains, Option.isSome_eq_false_iff, Option.isNone_iff_eq_none] at absent

/-- The table with a pool in service that was built for a location. -/
def withPool (t : Table) (l : Location) (p : Pool) : Table :=
  { t with
    router := t.router.insert l.pattern p
    locations := t.locations.insert l.pattern l
    nextSerial := t.nextSerial + 1 }

/-- The checks on a new location come in this order: its pattern, its backends, whether the pattern
has a pool, and whether a pool can be built. -/
theorem insertPool_eq (t : Table) (l : Location) :
    t.insertPool l =
      match Pattern.check l.pattern with
      | .error fault => .error (.badLocation l.pattern (.pattern fault))
      | .ok () =>
        if l.proxyPass.isEmpty then .error (.badLocation l.pattern .noHosts)
        else if t.router.contains l.pattern then .ok (false, t)
        else
          match Pool.build t.nextSerial t.settings l with
          | .error error => .error (.pool error)
          | .ok p => .ok (true, t.withPool l p) := by
  rw [insertPool]
  cases Pattern.check l.pattern with
  | error fault => rfl
  | ok =>
      cases l.proxyPass.isEmpty with
      | true => rfl
      | false =>
          cases t.router.contains l.pattern with
          | true => rfl
          | false => cases Pool.build t.nextSerial t.settings l <;> rfl

/-- Building a pool for a location leaves a table with a pool for the pattern as it is, and else
registers a pool with the next number. -/
theorem insertPool_spec {l : Location} {added : Bool} (inserted : t.insertPool l = .ok (added, u)) :
    added = false ∧ u = t ∨
      added = true ∧ t.router.contains l.pattern = false ∧
        ∃ p, Pool.build t.nextSerial t.settings l = .ok p ∧ u = t.withPool l p := by
  rw [insertPool_eq] at inserted
  split at inserted
  · exact absurd inserted (by simp)
  · split at inserted
    · exact absurd inserted (by simp)
    · split at inserted
      · obtain ⟨rfl, rfl⟩ := Prod.mk.inj (Except.ok.inj inserted)
        exact Or.inl ⟨rfl, rfl⟩
      · next unused =>
          split at inserted
          · exact absurd inserted (by simp)
          · next p built =>
              obtain ⟨rfl, rfl⟩ := Prod.mk.inj (Except.ok.inj inserted)
              exact Or.inr ⟨rfl, Bool.eq_false_iff.2 unused, p, built, rfl⟩

/-- A new pool is that of its pattern, and the other patterns have the pools they had. -/
theorem pool?_withPool (t : Table) (l : Location) (p : Pool) (pattern : String) :
    (t.withPool l p).pool? pattern = if l.pattern = pattern then some p else t.pool? pattern :=
  Dict.get?_insert t.router.entries l.pattern pattern p

/-- A new pool brings its outline. -/
theorem outlines_withPool (t : Table) (l : Location) (p : Pool) :
    (t.withPool l p).outlines = t.outlines.insert l.pattern p.outline := by
  apply Dict.ext_get?
  intro other
  rw [get?_outlines, pool?_withPool, Dict.get?_insert, get?_outlines]
  split <;> rfl

/-- A new pool has an entry for its location. -/
theorem configuration_withPool {l : Location} (buildable : l.Buildable)
    (fresh : t.locations.contains l.pattern = false) (p : Pool) :
    (t.withPool l p).configuration = t.configuration.after (.createPool l) :=
  (if_pos ⟨buildable, fresh⟩).symm

/-- A table stays sound when it gets a pool for a free pattern that serves its location and has the
next number. -/
theorem Sound.withPool (sound : t.Sound) {l : Location} (buildable : l.Buildable)
    (fresh : t.locations.contains l.pattern = false) {p : Pool}
    (serial : p.outline.serial = t.nextSerial) (serves : p.outline.Serves l) :
    (t.withPool l p).Sound where
  configured := configuration_withPool buildable fresh p ▸ sound.configured.after _
  keyed other := by
    change _ = (t.locations.insert l.pattern l).contains other
    rw [outlines_withPool, Dict.contains_insert, Dict.contains_insert, sound.keyed]
  serves {other o k} found located := by
    change (t.locations.insert l.pattern l).get? other = some k at located
    rw [outlines_withPool, Dict.get?_insert] at found
    rw [Dict.get?_insert] at located
    split at found
    · next same =>
        rw [if_pos same] at located
        rwa [← Option.some.inj found, ← Option.some.inj located]
    · next different =>
        rw [if_neg different] at located
        exact sound.serves found located
  -- The new pool has the next number, which no pool has, in service or not.
  single {a b o q} first second same := by
    have old {a : String} {o : Outline} (found : t.outlines.get? a = some o) :
        o.serial ≠ p.outline.serial := serial ▸ (sound.numbered found).ne
    rw [outlines_withPool, Dict.get?_insert] at first second
    split at first <;> split at second
    · next here there => exact here.symm.trans there
    · exact absurd (same.symm.trans (congrArg Outline.serial (Option.some.inj first)).symm)
        (old second)
    · exact absurd (same.trans (congrArg Outline.serial (Option.some.inj second)).symm) (old first)
    · exact sound.single first second same
  apart {a o} found := by
    rw [outlines_withPool, Dict.get?_insert] at found
    split at found
    · rw [← Option.some.inj found, serial]
      exact fun gone => Nat.lt_irrefl _ (sound.past _ gone)
    · exact sound.apart found
  numbered {a o} found := by
    rw [outlines_withPool, Dict.get?_insert] at found
    split at found
    · rw [← Option.some.inj found, serial]
      exact Nat.lt_succ_self _
    · exact Nat.lt_succ_of_lt (sound.numbered found)
  past n gone := Nat.lt_succ_of_lt (sound.past n gone)

/-- A location that can be built gets its pool. -/
theorem Sound.insertPool_of_buildable (sound : t.Sound) {l : Location} (buildable : l.Buildable)
    (fresh : t.locations.contains l.pattern = false) :
    ∃ u, t.insertPool l = .ok (true, u) ∧
      t.Makes (.createPool l) (.ok u : Except RoutingError Table) := by
  obtain ⟨p, built, serial, pattern, mode, targets⟩ :=
    Pool.build_of_backends buildable.backends buildable.mode t.nextSerial t.settings
  have unused : t.router.contains l.pattern = false := by
    rw [contains_router, sound.keyed, fresh]
  refine ⟨t.withPool l p, by simp only [insertPool_eq, buildable.pattern, List.isEmpty_iff,
    buildable.hosts, ↓reduceIte, unused, Bool.false_eq_true, built], ?_⟩
  exact ⟨sound.withPool buildable fresh serial ⟨pattern, targets, mode⟩, rfl,
    configuration_withPool buildable fresh p⟩

/-- A pattern that has a pool keeps it. -/
theorem Sound.insertPool_of_known (sound : t.Sound) {l : Location}
    (pattern : Pattern.check l.pattern = .ok ()) (hosts : l.proxyPass ≠ [])
    (known : t.locations.contains l.pattern = true) : t.insertPool l = .ok (false, t) := by
  have used : t.router.contains l.pattern = true := by rw [contains_router, sound.keyed, known]
  simp only [insertPool_eq, pattern, List.isEmpty_iff, hosts, ↓reduceIte, used]

/-- A location that cannot be built is refused, unless its pattern has a pool already. -/
theorem insertPool_of_unbuildable {l : Location} (unbuildable : ¬ l.Buildable)
    (fresh : t.router.contains l.pattern = false) : ∃ error, t.insertPool l = .error error := by
  rw [insertPool_eq]
  cases pattern : Pattern.check l.pattern with
  | error fault => exact ⟨_, rfl⟩
  | ok =>
      dsimp only
      by_cases hosts : l.proxyPass = []
      · exact ⟨_, if_pos (by rw [hosts]; rfl)⟩
      · rw [if_neg (by simpa using hosts), fresh, if_neg Bool.false_ne_true]
        cases built : Pool.build t.nextSerial t.settings l with
        | error error => exact ⟨_, rfl⟩
        | ok p =>
            obtain ⟨backends, mode⟩ := Pool.of_build built
            exact absurd ⟨⟨pattern, backends, mode⟩, hosts⟩ unbuildable

/-- Building a pool for a location makes of the configuration what the entry for a new pool does,
also when it is refused. -/
theorem Sound.makes_insertPool (sound : t.Sound) (l : Location) :
    t.Makes (.createPool l) ((t.insertPool l).map (·.2)) := by
  by_cases known : t.locations.contains l.pattern = true
  · have nothing : t.configuration.after (.createPool l) = t.configuration :=
      if_neg fun fresh => absurd (known.symm.trans fresh.2) (by decide)
    have used : t.router.contains l.pattern = true := by rw [contains_router, sound.keyed, known]
    rw [insertPool_eq]
    cases Pattern.check l.pattern with
    | error fault => exact nothing
    | ok =>
        dsimp only
        split
        · exact nothing
        · exact ⟨sound, rfl, nothing.symm⟩
  · rw [Bool.not_eq_true] at known
    by_cases buildable : l.Buildable
    · obtain ⟨u, inserted, made⟩ := sound.insertPool_of_buildable buildable known
      rw [inserted]
      exact made
    · have unused : t.router.contains l.pattern = false := by
        rw [contains_router, sound.keyed, known]
      obtain ⟨error, refused⟩ := insertPool_of_unbuildable buildable unused
      rw [refused]
      exact if_neg fun fresh => buildable fresh.1

/-- Adding a pool makes of the configuration what its entry does. -/
theorem Sound.makes_addPool (sound : t.Sound) (l : Location) :
    t.Makes (.createPool l) ((t.addPool l).map (·.2)) := by
  have made := sound.makes_insertPool l
  rw [addPool]
  cases inserted : t.insertPool l with
  | error error =>
      rw [inserted] at made
      exact made
  | ok answer =>
      obtain ⟨added, u⟩ := answer
      rw [inserted] at made
      cases added with
      | true => exact made.steady (steady_countPools u)
      | false => exact made

/-- A table without a pattern, whose pool is put out of service. -/
def without (t : Table) (pattern : String) (p : Pool) : Table :=
  ({ t with
      router := t.router.erase pattern
      locations := t.locations.erase pattern
      limiters := t.limiters.erase pattern } : Table).countPools.retire p

/-- The removal of a pool that there is succeeds, and puts the pool out of service. -/
theorem removePool_of_pool {p : Pool} (found : t.pool? pattern = some p) :
    t.removePool pattern = .ok (t.without pattern p) := by
  rw [removePool, requirePool, found]
  rfl

/-- Only a pool that there is can be removed, and it is put out of service. -/
theorem removePool_spec (removed : t.removePool pattern = .ok u) :
    ∃ p, t.pool? pattern = some p ∧ u = t.without pattern p := by
  cases found : t.pool? pattern with
  | none =>
      rw [removePool, requirePool, found] at removed
      exact absurd removed (by simp [Except.map])
  | some p =>
      rw [removePool_of_pool found] at removed
      exact ⟨p, rfl, (Except.ok.inj removed).symm⟩

/-- A pool that is removed goes with its location and limiter settings. -/
theorem Sound.without (sound : t.Sound) {p : Pool} (found : t.pool? pattern = some p) :
    t.Makes (.removePool pattern) (.ok (t.without pattern p) : Except RoutingError Table) := by
  have here := get?_outlines_of_pool found
  have outlines : (t.without pattern p).outlines = t.outlines.erase pattern := by
    apply Dict.ext_get?
    intro other
    simp only [Table.outlines, Table.without, retire, countPools, Router.erase, Dict.get?_map,
      Dict.get?_erase]
    split <;> rfl
  have past : (t.without pattern p).pastSerials = t.pastSerials ++ [p.outline.serial] :=
    List.map_append
  -- Whatever the table still has it had before, under another pattern.
  have old {a : String} {o : Outline} (present : (t.without pattern p).outlines.get? a = some o) :
      pattern ≠ a ∧ t.outlines.get? a = some o := by
    rw [outlines, Dict.get?_erase] at present
    split at present
    · exact absurd present (by simp)
    · next different => exact ⟨different, present⟩
  refine ⟨⟨sound.configured.after (.removePool pattern), ?_, ?_, ?_, ?_, ?_, ?_⟩, rfl, rfl⟩
  · intro other
    rw [outlines, Dict.contains_erase, sound.keyed]
    exact (Dict.contains_erase t.locations pattern other).symm
  · intro other o l present located
    obtain ⟨different, known⟩ := old present
    change (t.locations.erase pattern).get? other = some l at located
    rw [Dict.get?_erase, if_neg different] at located
    exact sound.serves known located
  · exact fun first second => sound.single (old first).2 (old second).2
  · intro a o present gone
    obtain ⟨different, known⟩ := old present
    rw [past] at gone
    rcases List.mem_append.1 gone with gone | gone
    · exact sound.apart known gone
    · exact different (sound.single here known (List.mem_singleton.1 gone).symm)
  · exact fun present => sound.numbered (old present).2
  · intro n gone
    rw [past] at gone
    rcases List.mem_append.1 gone with gone | gone
    · exact sound.past n gone
    · exact List.mem_singleton.1 gone ▸ sound.numbered here

theorem Sound.limiters_of_absent (sound : t.Sound)
    (absent : t.locations.contains pattern = false) : t.limiters.get? pattern = none := by
  cases found : t.limiters.get? pattern with
  | none => rfl
  | some settings =>
      have known := sound.configured.limited found
      rw [show t.configuration.locations = t.locations from rfl, absent] at known
      exact absurd known (by decide)

theorem Sound.makes_removePool (sound : t.Sound) (pattern : String) :
    t.Makes (.removePool pattern) (t.removePool pattern) := by
  by_cases known : t.locations.contains pattern = true
  · obtain ⟨p, found⟩ := sound.exists_pool known
    rw [removePool_of_pool found]
    exact sound.without found
  · rw [Bool.not_eq_true] at known
    rw [removePool, requirePool, sound.pool?_of_absent known]
    change Configuration.mk (t.locations.erase pattern) (t.limiters.erase pattern) _ = _
    rw [Dict.erase_of_absent (get?_of_absent known),
      Dict.erase_of_absent (sound.limiters_of_absent known)]
    rfl

/-! ### Hosts and balancers -/

/-- Adding a host changes the pool of the pattern first, and then the backends of its location. -/
theorem addHost_spec {raw key : String} (added : t.addHost pattern raw = .ok (key, u)) :
    ∃ p q change, t.pool? pattern = some p ∧ p.addHost raw = .ok (key, q) ∧
      u = (t.putPool q).changeBackends pattern change := by
  rw [addHost, requirePool] at added
  cases found : t.pool? pattern with
  | none =>
      rw [found] at added
      exact absurd added (by simp [bind, Except.bind])
  | some p =>
      rw [found] at added
      cases joined : p.addHost raw with
      | error error =>
          simp only [bind, Except.bind, joined, Except.mapError] at added
          exact absurd added (by simp)
      | ok answer =>
          obtain ⟨host, q⟩ := answer
          simp only [bind, Except.bind, joined, Except.mapError] at added
          obtain ⟨rfl, rfl⟩ := Prod.mk.inj (Except.ok.inj added)
          exact ⟨p, q, _, rfl, joined, rfl⟩

/-- Changing a balancer changes the pool of the pattern first, and then the mode of its location. -/
theorem changeBalancer_spec {mode : String} (changed : t.changeBalancer pattern mode = .ok u) :
    ∃ p q, t.pool? pattern = some p ∧ p.changeBalancer mode = .ok q ∧
      u = { t.putPool q with
        locations := t.locations.modify pattern fun l => { l with balanceMode := mode } } := by
  rw [changeBalancer, requirePool] at changed
  cases found : t.pool? pattern with
  | none =>
      rw [found] at changed
      exact absurd changed (by simp [bind, Except.bind])
  | some p =>
      rw [found] at changed
      cases built : p.changeBalancer mode with
      | error error =>
          simp only [bind, Except.bind, built, Except.mapError] at changed
          exact absurd changed (by simp)
      | ok q =>
          simp only [bind, Except.bind, built, Except.mapError] at changed
          exact ⟨p, q, rfl, built, (Except.ok.inj changed).symm⟩

/-- The backends of a location with one more, unless one of them leads to the same host. -/
def joined (raw key : String) (l : Location) : Location :=
  { l with proxyPass :=
      if l.proxyPass.any (Backend.address? · = some key) then l.proxyPass
      else l.proxyPass ++ [raw] }

/-- Some backend leads to a host just if there is a first one that does. -/
theorem any_address_iff (backends : List String) (key : String) :
    backends.any (Backend.address? · = some key) = (Backend.firstAt? backends key).isSome := by
  rw [Bool.eq_iff_iff, Backend.isSome_firstAt?]
  simp

/-- A pool with one host more serves the location with that backend: if another backend leads to the
host, it goes on leading there. -/
theorem serves_joined {o : Outline} {l : Location} (serves : o.Serves l) {raw : String}
    {url : WebUrl} (read : Backend.parse raw = .ok url) :
    Outline.Serves
      { o with targets := if o.targets.contains url.address then o.targets
          else o.targets.insert url.address url } (joined raw url.address l) := by
  refine ⟨serves.pattern, fun key => ?_, serves.mode⟩
  have known : o.targets.contains url.address =
      l.proxyPass.any (Backend.address? · = some url.address) := by
    rw [any_address_iff, ← serves.targets]
    rfl
  simp only [joined, known]
  split
  · exact serves.targets key
  · next new =>
      rw [Dict.get?_insert, Backend.firstAt?_append read, serves.targets]
      split
      · next same =>
          subst same
          rw [any_address_iff, Bool.not_eq_true, Option.isSome_eq_false_iff,
            Option.isNone_iff_eq_none] at new
          rw [new]
          rfl
      · rw [Option.or_none]

/-- A backend can join any pool. -/
theorem Sound.addHost_of_pool (sound : t.Sound) {p : Pool} (found : t.pool? pattern = some p)
    {raw : String} {url : WebUrl} (read : Backend.parse raw = .ok url) :
    ∃ u, t.addHost pattern raw = .ok (url.address, u) ∧
      t.Makes (.addHost pattern raw) (.ok u : Except RoutingError Table) := by
  obtain ⟨q, added, outline⟩ := Pool.addHost_of_parse read p
  have address : Backend.address? raw = some url.address := by rw [Backend.address?, read]; rfl
  have after : t.configuration.after (.addHost pattern raw) =
      t.configuration.withLocation pattern (joined raw url.address) :=
    Configuration.after_addHost_of_address address _ _
  have kept := sound.update found (q := q) (by rw [outline]) (joined raw url.address)
    (after ▸ sound.configured.after _) fun l serves => by
      rw [outline, Pool.containsHost_eq]
      exact serves_joined serves read
  exact ⟨_, by rw [addHost, requirePool, found]; simp only [bind, Except.bind, added]; rfl,
    kept, rfl, after.symm⟩

theorem Sound.makes_addHost (sound : t.Sound) (pattern raw : String) :
    t.Makes (.addHost pattern raw) ((t.addHost pattern raw).map (·.2)) := by
  by_cases known : t.locations.contains pattern = true
  · obtain ⟨p, found⟩ := sound.exists_pool known
    cases read : Backend.parse raw with
    | ok url =>
        obtain ⟨u, added, made⟩ := sound.addHost_of_pool found read
        rw [added]
        exact made
    | error error =>
        rw [addHost, requirePool, found]
        simp only [bind, Except.bind, Pool.addHost_of_error read]
        change t.configuration.after _ = _
        rw [Configuration.after_addHost_of_none (by rw [Backend.address?, read]; rfl)]
  · rw [Bool.not_eq_true] at known
    rw [addHost, requirePool, sound.pool?_of_absent known]
    change t.configuration.after _ = _
    cases address : Backend.address? raw with
    | none => rw [Configuration.after_addHost_of_none address]
    | some key =>
        rw [Configuration.after_addHost_of_address address]
        exact congrArg (fun d => ({ t.configuration with locations := d } : Configuration))
          (Dict.modify_of_absent (get?_of_absent known) _)

/-- The location without the backends that lead to a host. -/
def parted (key : String) (l : Location) : Location :=
  { l with proxyPass := l.proxyPass.filter (Backend.address? · ≠ some key) }

/-- A pool that loses a host serves the location without the backends that lead to the host. -/
theorem serves_parted {o : Outline} {l : Location} (serves : o.Serves l) (key : String) :
    Outline.Serves { o with targets := o.targets.erase key } (parted key l) := by
  refine ⟨serves.pattern, fun other => ?_, serves.mode⟩
  rw [parted, Dict.get?_erase, Backend.firstAt?_filter, serves.targets]
  by_cases same : key = other
  · simp [same]
  · simp [same, Ne.symm same]

/-- A location none of whose backends leads to a host does not change when it parts with that
host. -/
theorem parted_of_absent {o : Outline} {l : Location} (serves : o.Serves l) {key : String}
    (absent : o.targets.contains key = false) : parted key l = l := by
  have others : l.proxyPass.filter (Backend.address? · ≠ some key) = l.proxyPass := by
    rw [List.filter_eq_self]
    intro raw member
    have none : (Backend.firstAt? l.proxyPass key).isSome = false := by
      rw [← serves.targets]
      exact absent
    rw [← any_address_iff, List.any_eq_false] at none
    simpa using none raw member
  rw [parted, others]

/-- Removing a host succeeds, or its checks go on for too long, or there is no such host. Whatever
the answer is, the host is gone afterwards. -/
theorem Sound.removeHost (sound : t.Sound) (pattern host : String) (checksStop : Bool) :
    (t.removeHost pattern host checksStop).2.Sound ∧
      (t.removeHost pattern host checksStop).2.acl = t.acl ∧
      (t.removeHost pattern host checksStop).2.configuration =
        t.configuration.after (.removeHost pattern host) := by
  have after : t.configuration.after (.removeHost pattern host) =
      t.configuration.withLocation pattern (parted ((Backend.address? host).getD host)) := rfl
  rw [after, Table.removeHost]
  generalize (Backend.address? host).getD host = key at *
  dsimp only
  cases found : t.pool? pattern with
  | none =>
      have absent : t.locations.get? pattern = none := by
        apply get?_of_absent
        rw [← sound.isSome_pool?, found]
        rfl
      exact ⟨sound, rfl, (congrArg
        (fun d => ({ t.configuration with locations := d } : Configuration))
        (Dict.modify_of_absent absent _)).symm⟩
  | some p =>
      have here := get?_outlines_of_pool found
      dsimp only
      split
      · next known =>
          have outline := Pool.outline_removeHost known checksStop
          refine ⟨?_, rfl, rfl⟩
          exact sound.update found (by rw [outline]) _ (after ▸ sound.configured.after _)
            fun l serves => outline ▸ serves_parted serves key
      · next absent =>
          rw [Bool.not_eq_true, Pool.containsHost_eq] at absent
          exact ⟨sound, rfl, (congrArg
            (fun d => ({ t.configuration with locations := d } : Configuration))
            (Dict.modify_of_same fun l located =>
              parted_of_absent (sound.serves here located) absent)).symm⟩

/-- The removal of a host from a pool fails only if the pool has no such host, or if its checks go
on for too long. -/
theorem removeHost_of_pool {p : Pool} (found : t.pool? pattern = some p) (host : String)
    (checksStop : Bool) :
    (t.removeHost pattern host checksStop).1 = .ok () ∨
      (t.removeHost pattern host checksStop).1 =
        .error (.pool (.hostNotFound pattern ((Backend.address? host).getD host))) ∨
      (t.removeHost pattern host checksStop).1 =
        .error (.pool (.checkStillRuns ((Backend.address? host).getD host))) := by
  rw [Table.removeHost, found]
  generalize (Backend.address? host).getD host = key
  dsimp only
  split
  · next known =>
      rw [Pool.containsHost] at known
      simp only [Pool.removeHost, known, ↓reduceIte]
      split
      · exact Or.inr (Or.inr rfl)
      · exact Or.inl rfl
  · exact Or.inr (Or.inl rfl)

/-- Any mode can be chosen for any pool. -/
theorem Sound.changeBalancer_of_pool (sound : t.Sound) {p : Pool}
    (found : t.pool? pattern = some p) {mode : String} (known : mode ∈ BalanceMode.names) :
    ∃ u, t.changeBalancer pattern mode = .ok u ∧
      t.Makes (.changeBalancer pattern mode) (.ok u : Except RoutingError Table) := by
  obtain ⟨m, named⟩ := BalanceMode.mem_names.1 known
  obtain ⟨q, changed, outline⟩ := Pool.changeBalancer_of_name p m
  rw [named] at changed
  have after : t.configuration.after (.changeBalancer pattern mode) =
      t.configuration.withLocation pattern fun l => { l with balanceMode := mode } := if_pos known
  have kept := sound.update found (q := q) (by rw [outline])
    (fun l => { l with balanceMode := mode }) (after ▸ sound.configured.after _)
    fun l serves => by
      rw [outline]
      exact ⟨serves.pattern, serves.targets, named⟩
  exact ⟨_, by rw [changeBalancer, requirePool, found]; simp only [bind, Except.bind, changed]; rfl,
    kept, rfl, after.symm⟩

theorem Sound.makes_changeBalancer (sound : t.Sound) (pattern mode : String) :
    t.Makes (.changeBalancer pattern mode) (t.changeBalancer pattern mode) := by
  by_cases listed : mode ∈ BalanceMode.names
  · by_cases known : t.locations.contains pattern = true
    · obtain ⟨p, found⟩ := sound.exists_pool known
      obtain ⟨u, changed, made⟩ := sound.changeBalancer_of_pool found listed
      rw [changed]
      exact made
    · rw [Bool.not_eq_true] at known
      rw [changeBalancer, requirePool, sound.pool?_of_absent known]
      refine (if_pos listed).trans ?_
      exact congrArg (fun d => ({ t.configuration with locations := d } : Configuration))
        (Dict.modify_of_absent (get?_of_absent known) _)
  · have nothing : t.configuration.after (.changeBalancer pattern mode) = t.configuration :=
      if_neg listed
    rw [changeBalancer, requirePool]
    cases t.pool? pattern with
    | none => exact nothing
    | some p =>
        obtain ⟨error, refused⟩ := Pool.changeBalancer_of_unknown listed p
        simp only [bind, Except.bind, refused]
        exact nothing

/-! ### Limiters -/

/-- Setting a limiter installs it in the pool, and records its setting in place of the one for the
same path. -/
theorem setLimiter_spec {s : LimiterSetting} {instant : Nat}
    (changed : t.setLimiter s instant = .ok u) :
    ∃ p limiter, t.pool? s.pattern = some p ∧ limiterOf s instant = .ok limiter ∧
      u = { t.putPool (p.installLimiter s.path limiter) with
        limiters := t.limiters.insert s.pattern
          ((t.limiterSettings s.pattern).filter (·.path ≠ s.path) ++ [s]) } := by
  rw [setLimiter, requirePool] at changed
  cases found : t.pool? s.pattern with
  | none =>
      rw [found] at changed
      exact absurd changed (by simp [bind, Except.bind])
  | some p =>
      rw [found] at changed
      cases built : limiterOf s instant with
      | error error =>
          simp only [bind, Except.bind, built, Except.mapError] at changed
          exact absurd changed (by simp)
      | ok limiter =>
          simp only [bind, Except.bind, built, Except.mapError] at changed
          exact ⟨p, limiter, rfl, rfl, (Except.ok.inj changed).symm⟩

/-- A setting of a known kind can be made into a limiter at any time. -/
theorem limiterOf_of_kind {s : LimiterSetting} (known : s.kind ∈ LimiterKind.names)
    (instant : Nat) : ∃ limiter, limiterOf s instant = .ok limiter := by
  obtain ⟨kind, named⟩ := LimiterKind.mem_names.1 known
  refine ⟨_, by rw [limiterOf, Limiter.build, LimiterKind.ofName_eq_ok_iff.2 named]; rfl⟩

/-- A setting of an unknown kind cannot be made into a limiter. -/
theorem limiterOf_of_unknown {s : LimiterSetting} (unknown : s.kind ∉ LimiterKind.names)
    (instant : Nat) : ∃ error, limiterOf s instant = .error error := by
  cases named : LimiterKind.ofName s.kind with
  | ok kind =>
      exact absurd (LimiterKind.mem_names.2 ⟨kind, LimiterKind.ofName_eq_ok_iff.1 named⟩) unknown
  | error error => exact ⟨error, by rw [limiterOf, Limiter.build, named]; rfl⟩

/-- Any path below the pattern of a pool can get a limiter. -/
theorem Sound.setLimiter_of_pool (sound : t.Sound) {s : LimiterSetting} {p : Pool}
    (found : t.pool? s.pattern = some p) (known : s.kind ∈ LimiterKind.names) (instant : Nat) :
    ∃ u, t.setLimiter s instant = .ok u ∧
      t.Makes (.setRateLimiter s) (.ok u : Except RoutingError Table) := by
  obtain ⟨limiter, built⟩ := limiterOf_of_kind known instant
  have member : p ∈ t.allPools :=
    List.mem_append.2 (Or.inl (Dict.mem_values.2 ⟨s.pattern, found⟩))
  have located : t.configuration.locations.contains s.pattern = true := by
    rw [show t.configuration.locations = t.locations from rfl, ← sound.isSome_pool?, found]
    rfl
  have after : t.configuration.after (.setRateLimiter s) = t.configuration.withSetting s :=
    if_pos ⟨located, known⟩
  have swapped := sound.of_steady
    (sound.steady_putPool (q := p.installLimiter s.path limiter) member rfl)
  have configured := after ▸ sound.configured.after (.setRateLimiter s)
  refine ⟨{ t.putPool (p.installLimiter s.path limiter) with
    limiters := t.limiters.insert s.pattern
      ((t.limiterSettings s.pattern).filter (·.path ≠ s.path) ++ [s]) }, ?_,
    ⟨configured, swapped.keyed, swapped.serves, swapped.single, swapped.apart, swapped.numbered,
      swapped.past⟩, rfl, after.symm⟩
  rw [setLimiter, requirePool, found]
  simp only [bind, Except.bind, built, Except.mapError]
  rfl

theorem Sound.makes_setLimiter (sound : t.Sound) (s : LimiterSetting) (instant : Nat) :
    t.Makes (.setRateLimiter s) (t.setLimiter s instant) := by
  by_cases listed : s.kind ∈ LimiterKind.names
  · by_cases known : t.locations.contains s.pattern = true
    · obtain ⟨p, found⟩ := sound.exists_pool known
      obtain ⟨u, changed, made⟩ := sound.setLimiter_of_pool found listed instant
      rw [changed]
      exact made
    · have absent := known
      rw [Bool.not_eq_true] at known
      rw [setLimiter, requirePool, sound.pool?_of_absent known]
      exact if_neg fun both => absent both.1
  · have nothing : t.configuration.after (.setRateLimiter s) = t.configuration :=
      if_neg fun both => listed both.2
    rw [setLimiter, requirePool]
    cases t.pool? s.pattern with
    | none => exact nothing
    | some p =>
        obtain ⟨error, refused⟩ := limiterOf_of_unknown listed instant
        simp only [bind, Except.bind, refused, Except.mapError]
        exact nothing

/-! ### All pools at once -/

/-- Pools that are put out of service one after another stand behind the earlier ones, each of them
shut down. -/
theorem foldl_retire (pools : List Pool) (t : Table) :
    pools.foldl retire t = { t with retired := t.retired ++ pools.map Pool.shutdown } := by
  induction pools generalizing t with
  | nil => simp
  | cons p pools ih =>
      rw [List.foldl_cons, ih, retire]
      simp

/-- When all pools are put out of service, their numbers come after those of the pools that were so
before. -/
theorem pastSerials_cleared (t : Table) :
    t.cleared.pastSerials = t.pastSerials ++ t.router.targets.map (·.serial) := by
  rw [cleared, foldl_retire, pastSerials, pastSerials, List.map_append, List.map_map]
  rfl

/-- A table all of whose pools are put out of service has nothing configured but its blocked
networks. -/
theorem configuration_cleared (t : Table) :
    t.cleared.configuration = { blocked := t.acl.records } := by
  rw [cleared, foldl_retire]
  rfl

theorem acl_cleared (t : Table) : t.cleared.acl = t.acl := by rw [cleared, foldl_retire]

/-- A table that is cleared is sound. -/
theorem Sound.cleared (sound : t.Sound) : t.cleared.Sound := by
  have outlines : t.cleared.outlines = ∅ := by rw [Table.cleared, foldl_retire]; rfl
  have locations : t.cleared.locations = ∅ := by rw [Table.cleared, foldl_retire]
  have next : t.cleared.nextSerial = t.nextSerial := by rw [Table.cleared, foldl_retire]
  have none {a : String} {o : Outline} (found : t.cleared.outlines.get? a = some o) : False := by
    rw [outlines] at found
    exact absurd found (by simp)
  refine ⟨configuration_cleared t ▸ Configuration.wellFormed_empty _, ?_, ?_, ?_, ?_, ?_, ?_⟩
  · intro pattern
    rw [outlines, locations]
    rfl
  · exact fun found => (none found).elim
  · exact fun found => (none found).elim
  · exact fun found => (none found).elim
  · exact fun found => (none found).elim
  · intro n gone
    rw [next]
    rw [pastSerials_cleared] at gone
    rcases List.mem_append.1 gone with gone | gone
    · exact sound.past n gone
    · obtain ⟨p, live, rfl⟩ := List.mem_map.1 gone
      obtain ⟨pattern, found⟩ := Dict.mem_values.1 live
      exact sound.numbered (get?_outlines_of_pool found)

/-- Shutting down all pools keeps a table sound: only their checks stop. -/
theorem Sound.shutdownPools (sound : t.Sound) : t.shutdownPools.Sound :=
  sound.cleared.of_steady (steady_countPools _)

/-! ### Rebuilding -/

/-- A rebuilding is a run of insertions of pools and of new limiters, in which what fails is left
out. What each of them keeps holds of the table that is rebuilt. -/
theorem rebuild_rec {motive : Table → Prop} (s : RoutingState) (instant : Nat) (start : motive t)
    (pool : ∀ {v w : Table} {l : Location} {added : Bool}, motive v → l ∈ s.locations.values →
      v.insertPool l = .ok (added, w) → motive w)
    (limiter : ∀ {v w : Table} {k : LimiterSetting}, motive v →
      v.setLimiter k instant = .ok w → motive w) : motive (t.rebuild s instant) := by
  have pools : motive (s.locations.values.foldl
      (fun t l => t.attempt ((t.insertPool l).map (·.2))) t) := by
    refine List.foldlRecOn _ _ start fun v before l member => attempt_rec before fun w made => ?_
    obtain ⟨⟨added, w⟩, inserted, rfl⟩ := exists_of_map_ok made
    exact pool before member inserted
  exact List.foldlRecOn _ _ pools fun v before e _ =>
    List.foldlRecOn _ _ before fun v before k _ =>
      attempt_rec before fun w changed => limiter before changed

/-- A table stays sound when a pool is built for a location. -/
theorem Sound.of_insertPool (sound : t.Sound) {l : Location} {added : Bool}
    (inserted : t.insertPool l = .ok (added, u)) : u.Sound := by
  have made := sound.makes_insertPool l
  rw [inserted] at made
  exact made.1

/-- A table stays sound when a limiter is set. -/
theorem Sound.of_setLimiter (sound : t.Sound) {s : LimiterSetting} {instant : Nat}
    (changed : t.setLimiter s instant = .ok u) : u.Sound := by
  have made := sound.makes_setLimiter s instant
  rw [changed] at made
  exact made.1

/-- Two tables that a fold starts with and ends with, and what it makes of the configuration. -/
structure Leads (t : Table) (c : Configuration) (u : Table) : Prop where
  sound : u.Sound
  acl : u.acl = t.acl
  configuration : u.configuration = c

/-- What two changes in a row lead to is what the second one leads to. -/
theorem Leads.trans {c d : Configuration} {v : Table} (first : t.Leads c u) (rest : u.Leads d v) :
    t.Leads d v :=
  ⟨rest.sound, rest.acl.trans first.acl, rest.configuration⟩

/-- An attempt leads to the configuration that the entry makes, whether the change succeeds or
not. -/
theorem Makes.leads {ε : Type} {entry : LogEntry} {result : Except ε Table}
    (made : t.Makes entry result) (sound : t.Sound) :
    t.Leads (t.configuration.after entry) (t.attempt result) := by
  obtain ⟨kept, acl, configuration⟩ := sound.attempt made
  exact ⟨kept, acl, configuration⟩

/-- Changes made one after the other lead where the changes of the configuration lead. -/
theorem Sound.foldl {α : Type} {f : Table → α → Table} {g : Configuration → α → Configuration}
    (step : ∀ {t : Table} (a : α), t.Sound → t.Leads (g t.configuration a) (f t a))
    (sound : t.Sound) (changes : List α) :
    t.Leads (changes.foldl g t.configuration) (changes.foldl f t) := by
  induction changes generalizing t with
  | nil => exact ⟨sound, rfl, rfl⟩
  | cons a changes ih =>
      have first := step a sound
      have rest := ih first.sound
      rw [first.configuration] at rest
      exact first.trans rest

/-- A table is rebuilt as its configuration is. -/
theorem Sound.rebuild (sound : t.Sound) (s : RoutingState) (instant : Nat) :
    t.Leads (t.configuration.rebuilt s) (t.rebuild s instant) := by
  have pools := sound.foldl (g := fun c l => c.after (.createPool l))
    (fun l kept => (kept.makes_insertPool l).leads kept) s.locations.values
  have limiters := pools.sound.foldl (g := Configuration.withLimiters)
    (fun e kept => kept.foldl (g := fun c l => c.after (.setRateLimiter l))
      (fun l known => (known.makes_setLimiter l instant).leads known)
      (e.2.filter (·.pattern = e.1))) s.limiters.entries
  rw [pools.configuration] at limiters
  exact pools.trans limiters

/-- A table stays sound when other networks are blocked. -/
theorem Sound.withAcl (sound : t.Sound) (acl : AccessList) : ({ t with acl } : Table).Sound := by
  obtain ⟨located, limited, filled, kept, single⟩ := sound.configured
  exact ⟨⟨located, limited, filled, kept, single⟩, sound.keyed, sound.serves, sound.single,
    sound.apart, sound.numbered, sound.past⟩

/-- A table that takes over a state is rebuilt from nothing, and blocks what it is given to block or
what it blocked before. -/
theorem Sound.restore (sound : t.Sound) (s : RoutingState) (acl : Option AccessList)
    (instant : Nat) :
    (t.restore s acl instant).Sound ∧ (t.restore s acl instant).acl = acl.getD t.acl ∧
      (t.restore s acl instant).configuration =
        Configuration.rebuilt { blocked := (acl.getD t.acl).records } s := by
  have rebuilt := sound.cleared.rebuild s instant
  rw [configuration_cleared] at rebuilt
  refine ⟨(rebuilt.sound.withAcl (acl.getD t.acl)).of_steady (steady_countPools _), rfl, ?_⟩
  have others := Configuration.rebuilt_withBlocked (acl.getD t.acl).records
    { blocked := t.acl.records } s
  rw [← rebuilt.configuration] at others
  exact others.symm

end Table

end ClusterGateway
