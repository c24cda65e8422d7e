import ClusterGateway.Proofs.Pool.Bare
import ClusterGateway.Proofs.Route.Continuity
import Mathlib.Data.List.Forall2
import Mathlib.Data.Option.Defs

/-! # Tables whose pools are alike

Two tables are alike if they differ in their pools at most, and if those that correspond are alike
in a sense of which we need to know little: what is done to the hosts and the checks of both keeps
them alike, and so does a limiter that both are given. Then whatever is done to both tables keeps
the tables alike, as long as it is none of a request.
-/

namespace ClusterGateway

/-! ### Related entries -/

section Related

variable {α β : Type} {R : α → β → Prop}

/-- The first elements that pass tests that agree on related elements are related. -/
theorem rel_find? {l : List α} {m : List β} (related : List.Forall₂ R l m) {f : α → Bool}
    {g : β → Bool} (agree : ∀ {a b}, R a b → f a = g b) :
    Option.Rel R (l.find? f) (m.find? g) := by
  induction related with
  | nil => exact .none
  | cons here _ ih =>
      rw [List.find?_cons, List.find?_cons, agree here]
      split
      · exact .some here
      · exact ih

theorem isSome_eq_of_rel {a : Option α} {b : Option β} (related : Option.Rel R a b) :
    a.isSome = b.isSome := by
  cases related <;> rfl

/-- Options that are related are both empty, or have values that are related. -/
theorem none_or_some_of_rel {a : Option α} {b : Option β} (related : Option.Rel R a b) :
    a = none ∧ b = none ∨ ∃ x y, a = some x ∧ b = some y ∧ R x y := by
  cases related with
  | none => exact Or.inl ⟨rfl, rfl⟩
  | some related => exact Or.inr ⟨_, _, rfl, rfl, related⟩

/-- The first of two options that has a value is related to the first of two others. -/
theorem rel_or {a c : Option α} {b d : Option β} (first : Option.Rel R a b)
    (second : Option.Rel R c d) : Option.Rel R (a.or c) (b.or d) := by
  cases first with
  | none => exact second
  | some related => exact .some related

/-- Functions that take related values to related ones do so below options. -/
theorem rel_map {γ δ : Type} {S : γ → δ → Prop} {f : α → γ} {g : β → δ} {a : Option α}
    {b : Option β} (related : Option.Rel R a b) (images : ∀ {x y}, R x y → S (f x) (g y)) :
    Option.Rel S (a.map f) (b.map g) := by
  cases related with
  | none => exact .none
  | some related => exact .some (images related)

/-- The first values that two related functions find along a list are related. -/
theorem rel_findSome? {κ : Type} {f : κ → Option α} {g : κ → Option β}
    (related : ∀ k, Option.Rel R (f k) (g k)) (l : List κ) :
    Option.Rel R (l.findSome? f) (l.findSome? g) := by
  induction l with
  | nil => exact .none
  | cons k l ih =>
      rw [List.findSome?_cons, List.findSome?_cons]
      rcases none_or_some_of_rel (related k) with ⟨none, none'⟩ | ⟨x, y, found, found', here⟩
      · rw [none, none']
        exact ih
      · rw [found, found']
        exact .some here

/-- Options with the same images are related by having them. -/
theorem rel_of_map_eq {f : α → β} {a b : Option α} (same : b.map f = a.map f) :
    Option.Rel (fun x y => f y = f x) a b := by
  cases a <;> cases b
  · exact .none
  · exact absurd same (by simp)
  · exact absurd same (by simp)
  · exact .some (Option.some.inj same)

/-- Two attempts fail with the same error, or both succeed. -/
theorem errors_or_oks_of_map_eq {ε : Type} {f : α → β} {a b : Except ε α}
    (same : b.map f = a.map f) :
    (∃ error, a = .error error ∧ b = .error error) ∨
      ∃ x y, a = .ok x ∧ b = .ok y ∧ f y = f x := by
  cases a <;> cases b
  · obtain rfl := Except.error.inj same
    exact Or.inl ⟨_, rfl, rfl⟩
  · exact absurd same (by simp [Except.map])
  · exact absurd same (by simp [Except.map])
  · exact Or.inr ⟨_, _, rfl, rfl, Except.ok.inj same⟩

namespace Dict

/-- The values of a dictionary stand in the order of its keys. -/
theorem values_eq_filterMap (d : Dict α) : d.values = d.keys.filterMap d.get? := by
  rw [values, keys, List.filterMap_map]
  symm
  calc d.entries.filterMap (d.get? ∘ Prod.fst)
      = d.entries.filterMap (some ∘ Prod.snd) :=
        List.filterMap_congr fun e member => get?_eq_some_iff.2 member
    _ = d.entries.map Prod.snd := by rw [List.filterMap_eq_map]

/-- Dictionaries with related values at every key have related lists of values. -/
theorem forall₂_values {d : Dict α} {e : Dict β}
    (related : ∀ key, Option.Rel R (d.get? key) (e.get? key)) :
    List.Forall₂ R d.values e.values := by
  have keys : d.keys = e.keys := keys_eq_of_contains fun key => isSome_eq_of_rel (related key)
  rw [values_eq_filterMap, values_eq_filterMap, keys]
  refine List.rel_filterMap (R := Eq) ?_ (List.forall₂_refl e.keys)
  rintro key _ rfl
  exact related key

end Dict

end Related

/-! ### Pools that are alike -/

/-- A relation of pools that outlasts what is done to them apart from requests. New pools have the
number `base` or a later one. -/
structure Lasting (R : Pool → Pool → Prop) (base : Nat) : Prop where
  bare : ∀ {p q}, R p q → q.bare = p.bare
  stocked : ∀ {p q}, R p q → p.Stocked
  aside : ∀ {p q r s}, R p q → p.Aside r → q.Aside s → s.bare = r.bare → r.Stocked → R r s
  install : ∀ {p q}, R p q → ∀ path limiter,
    R (p.installLimiter path limiter) (q.installLimiter path limiter)
  build : ∀ {serial settings l p}, Pool.build serial settings l = .ok p → base ≤ serial → R p p

namespace Table

/-- Two tables whose pools are alike. -/
structure Alike (R : Pool → Pool → Prop) (t u : Table) : Prop where
  settings : u.settings = t.settings
  locations : u.locations = t.locations
  limiters : u.limiters = t.limiters
  acl : u.acl = t.acl
  stopping : u.stopping = t.stopping
  nextSerial : u.nextSerial = t.nextSerial
  pools : ∀ pattern, Option.Rel R (t.pool? pattern) (u.pool? pattern)
  retired : List.Forall₂ R t.retired u.retired

variable {R S : Pool → Pool → Prop} {base : Nat} {t u : Table} {p q : Pool}

theorem Alike.targets (alike : t.Alike R u) : List.Forall₂ R t.router.targets u.router.targets :=
  Dict.forall₂_values alike.pools

theorem Alike.allPools (alike : t.Alike R u) : List.Forall₂ R t.allPools u.allPools :=
  List.rel_append alike.targets alike.retired

/-- Tables whose pools are alike route a path alike. -/
theorem Alike.route (alike : t.Alike R u) (path : String) :
    Option.Rel (fun m n => R m.target n.target ∧ n.path = m.path) (t.router.route path)
      (u.router.route path) := by
  have matched {pattern rest : String} :
      Option.Rel (fun m n : RouteMatch Pool => R m.target n.target ∧ n.path = m.path)
        ((t.router.get? pattern).map fun target => ⟨pattern, target, rest⟩)
        ((u.router.get? pattern).map fun target => ⟨pattern, target, rest⟩) :=
    rel_map (alike.pools pattern) fun related => ⟨related, rfl⟩
  refine rel_or ?_ (rel_or (rel_findSome? (fun cut => matched) _) matched)
  rw [Router.matchWhole, Router.matchWhole]
  split
  · exact .none
  · exact matched

theorem Alike.checkClient (alike : t.Alike R u) (client : IpAddress) :
    u.checkClient client = t.checkClient client := by
  rw [Table.checkClient, Table.checkClient, alike.stopping, alike.acl]

/-- Tables that are alike in one relation are alike in every weaker one. -/
theorem Alike.imp (alike : t.Alike R u) (implies : ∀ {x y}, R x y → S x y) : t.Alike S u :=
  ⟨alike.settings, alike.locations, alike.limiters, alike.acl, alike.stopping, alike.nextSerial,
    fun pattern => by
      have image := rel_map (f := id) (g := id) (alike.pools pattern) implies
      rwa [Option.map_id_apply, Option.map_id_apply] at image,
    alike.retired.imp fun _ _ => implies⟩

/-- Corresponding pools are swapped, and the other pools are alike in another sense. -/
theorem Alike.putPool (alike : t.Alike R u) (bare : ∀ {x y}, R x y → y.bare = x.bare)
    (others : ∀ {x y}, R x y → x.serial ≠ p.serial → S x y) (serial : q.serial = p.serial)
    (swapped : S p q) : (t.putPool p).Alike S (u.putPool q) := by
  have swap {x y : Pool} (related : R x y) :
      S (if x.serial = p.serial then p else x) (if y.serial = q.serial then q else y) := by
    have same := Pool.serial_eq_of_bare (bare related)
    rw [serial, same]
    split
    · exact swapped
    · next different => exact others related different
  refine ⟨alike.settings, alike.locations, alike.limiters, alike.acl, alike.stopping,
    alike.nextSerial, fun pattern => ?_, ?_⟩
  · rw [pool?_putPool_eq, pool?_putPool_eq]
    have here := alike.pools pattern
    generalize t.pool? pattern = a, u.pool? pattern = b at here
    cases here with
    | none => exact .none
    | some related => exact .some (swap related)
  · exact List.forall₂_map_left_iff.2 (List.forall₂_map_right_iff.2
      (alike.retired.imp fun x y related => swap related))

variable (lasting : Lasting R base)

include lasting

/-- Putting related pools back leaves tables alike. -/
theorem Alike.change (alike : t.Alike R u) (related : R p q) :
    (t.putPool p).Alike R (u.putPool q) :=
  alike.putPool lasting.bare (fun related _ => related)
    (Pool.serial_eq_of_bare (lasting.bare related)) related

/-! ### Pools that come and go -/

/-- The pool of a location is built for both tables or for neither. -/
theorem Alike.insertPool (alike : t.Alike R u) (early : base ≤ t.nextSerial) (l : Location) :
    (∃ error, t.insertPool l = .error error ∧ u.insertPool l = .error error) ∨
      ∃ added v w, t.insertPool l = .ok (added, v) ∧ u.insertPool l = .ok (added, w) ∧
        v.Alike R w := by
  have known : u.router.contains l.pattern = t.router.contains l.pattern :=
    (isSome_eq_of_rel (alike.pools l.pattern)).symm
  rw [insertPool_eq, insertPool_eq, known, alike.nextSerial, alike.settings]
  cases Pattern.check l.pattern with
  | error fault => exact Or.inl ⟨_, rfl, rfl⟩
  | ok =>
      cases l.proxyPass.isEmpty with
      | true => exact Or.inl ⟨_, rfl, rfl⟩
      | false =>
          cases t.router.contains l.pattern with
          | true => exact Or.inr ⟨_, _, _, rfl, rfl, alike⟩
          | false =>
              cases built : Pool.build t.nextSerial t.settings l with
              | error error => exact Or.inl ⟨_, rfl, rfl⟩
              | ok p =>
                  have new := lasting.build built early
                  refine Or.inr ⟨_, _, _, rfl, rfl, { alike with
                    locations := congrArg (Dict.insert · l.pattern l) alike.locations
                    nextSerial := congrArg (· + 1) alike.nextSerial
                    pools := fun pattern => ?_ }⟩
                  rw [pool?_withPool, pool?_withPool]
                  split
                  · exact .some new
                  · exact alike.pools pattern

omit lasting in
theorem Alike.countPools (alike : t.Alike R u) : t.countPools.Alike R u.countPools :=
  ⟨alike.settings, alike.locations, alike.limiters, alike.acl, alike.stopping, alike.nextSerial,
    alike.pools, alike.retired⟩

/-- A pool can be added to both of two alike tables or to neither, and leaves them alike: the new
pools are built from the same location under the same number. -/
theorem Alike.addPool (alike : t.Alike R u) (early : base ≤ t.nextSerial) (l : Location) :
    (t.attempt ((t.addPool l).map (·.2))).Alike R (u.attempt ((u.addPool l).map (·.2))) := by
  rw [Table.addPool, Table.addPool]
  rcases alike.insertPool lasting early l with
    ⟨error, failed, failed'⟩ | ⟨added, v, w, inserted, inserted', after⟩
  · rw [failed, failed']
    exact alike
  · rw [inserted, inserted']
    cases added with
    | true => exact after.countPools
    | false => exact after

/-- Putting related pools out of service leaves tables alike, the numbers of the pools out of
service included. -/
theorem Alike.retire (alike : t.Alike R u) (related : R p q) :
    (t.retire p).Alike R (u.retire q) := by
  have stocked : p.shutdown.Stocked := fun host member => lasting.stocked related host member
  have bare : q.shutdown.bare = p.shutdown.bare := by
    rw [← Pool.bare_shutdown, ← Pool.bare_shutdown, lasting.bare related]
  have shut : R p.shutdown q.shutdown :=
    lasting.aside related p.aside_shutdown q.aside_shutdown bare stocked
  exact ⟨alike.settings, alike.locations, alike.limiters, alike.acl, alike.stopping,
    alike.nextSerial, alike.pools, List.rel_append alike.retired (.cons shut .nil)⟩

/-- A pool can be removed from both of two alike tables or from neither, and leaves them alike. -/
theorem Alike.removePool (alike : t.Alike R u) (pattern : String) :
    (t.attempt (t.removePool pattern)).Alike R (u.attempt (u.removePool pattern)) := by
  rcases none_or_some_of_rel (alike.pools pattern) with
    ⟨none, none'⟩ | ⟨p, q, found, known, related⟩
  · rw [Table.removePool, Table.removePool, requirePool, requirePool, none, none']
    exact alike
  · rw [removePool_of_pool found, removePool_of_pool known]
    refine Alike.retire lasting ⟨alike.settings, ?_, ?_, alike.acl, alike.stopping,
      alike.nextSerial, fun other => ?_, alike.retired⟩ related
    · exact congrArg (Dict.erase · pattern) alike.locations
    · exact congrArg (Dict.erase · pattern) alike.limiters
    · have there := alike.pools other
      change Option.Rel R ((t.router.entries.erase pattern).get? other)
        ((u.router.entries.erase pattern).get? other)
      rw [Dict.get?_erase, Dict.get?_erase]
      split
      · exact .none
      · exact there

/-- Putting all pools out of service leaves tables alike. -/
theorem Alike.cleared (alike : t.Alike R u) : t.cleared.Alike R u.cleared := by
  have folded {pools others : List Pool} (related : List.Forall₂ R pools others) {v w : Table}
      (same : v.Alike R w) :
      (pools.foldl Table.retire v).Alike R (others.foldl Table.retire w) := by
    induction related generalizing v w with
    | nil => exact same
    | cons related _ ih => exact ih (same.retire lasting related)
  exact folded alike.targets ⟨alike.settings, rfl, rfl, alike.acl, alike.stopping,
    alike.nextSerial, fun _ => .none, alike.retired⟩

/-! ### Hosts and limiters -/

omit lasting in
/-- The same change of a location leaves tables alike. -/
theorem Alike.modifyLocation (alike : t.Alike R u) (pattern : String)
    (change : Location → Location) :
    ({ t with locations := t.locations.modify pattern change } : Table).Alike R
      { u with locations := u.locations.modify pattern change } :=
  ⟨alike.settings, congrArg (Dict.modify · pattern change) alike.locations, alike.limiters,
    alike.acl, alike.stopping, alike.nextSerial, alike.pools, alike.retired⟩

/-- A host can be added at both of two alike tables or at neither, and leaves them alike: both pools
get the same host, which changes no limiter and no request that waits. -/
theorem Alike.addHost (alike : t.Alike R u) (pattern raw : String) :
    (t.attempt ((t.addHost pattern raw).map (·.2))).Alike R
      (u.attempt ((u.addHost pattern raw).map (·.2))) := by
  rw [Table.addHost, Table.addHost, requirePool, requirePool]
  rcases none_or_some_of_rel (alike.pools pattern) with
    ⟨none, none'⟩ | ⟨p, q, found, known, related⟩
  · rw [none, none']
    exact alike
  · rw [found, known]
    have same : (q.addHost raw).map (fun added => (added.1, added.2.bare)) =
        (p.addHost raw).map fun added => (added.1, added.2.bare) := by
      rw [← Pool.bare_addHost, ← Pool.bare_addHost, lasting.bare related]
    rcases errors_or_oks_of_map_eq same with
      ⟨error, failed, failed'⟩ | ⟨⟨key, r⟩, ⟨key', s⟩, added, added', alike'⟩
    · simp only [bind, Except.bind, failed, failed', Except.mapError]
      exact alike
    · obtain ⟨rfl, bare⟩ := Prod.mk.inj alike'
      simp only [bind, Except.bind, added, added', Except.mapError]
      exact (alike.change lasting (lasting.aside related (Pool.aside_addHost added)
        (Pool.aside_addHost added') bare
        ((lasting.stocked related).addHost added))).modifyLocation pattern _

/-- Removing a host leaves tables alike, whether its checks stop in time or not. -/
theorem Alike.removeHost (alike : t.Alike R u) (pattern host : String) (checksStop : Bool) :
    (t.removeHost pattern host checksStop).2.Alike R (u.removeHost pattern host checksStop).2 := by
  rw [Table.removeHost, Table.removeHost]
  dsimp only
  generalize (Backend.address? host).getD host = key
  rcases none_or_some_of_rel (alike.pools pattern) with
    ⟨none, none'⟩ | ⟨p, q, found, known, related⟩
  · rw [none, none']
    exact alike
  · rw [found, known]
    have bare := lasting.bare related
    have here : q.containsHost key = p.containsHost key := by
      rw [Pool.containsHost, Pool.hosts_eq_of_bare bare, Pool.containsHost]
    have removed : (q.removeHost key checksStop).2.bare = (p.removeHost key checksStop).2.bare := by
      have whole := q.bare_removeHost key checksStop
      rw [bare, p.bare_removeHost key checksStop] at whole
      exact (Prod.mk.inj whole).2.symm
    dsimp only
    rw [here]
    split
    · exact (alike.modifyLocation pattern _).change lasting
        (lasting.aside related (p.aside_removeHost key checksStop)
          (q.aside_removeHost key checksStop) removed
          ((lasting.stocked related).removeHost key checksStop))
    · exact alike

/-- A balancer can be changed at both of two alike tables or at neither, and leaves them alike. -/
theorem Alike.changeBalancer (alike : t.Alike R u) (pattern mode : String) :
    (t.attempt (t.changeBalancer pattern mode)).Alike R
      (u.attempt (u.changeBalancer pattern mode)) := by
  rw [Table.changeBalancer, Table.changeBalancer, requirePool, requirePool]
  rcases none_or_some_of_rel (alike.pools pattern) with
    ⟨none, none'⟩ | ⟨p, q, found, known, related⟩
  · rw [none, none']
    exact alike
  · rw [found, known]
    have same : (q.changeBalancer mode).map Pool.bare = (p.changeBalancer mode).map Pool.bare := by
      rw [← Pool.bare_changeBalancer, ← Pool.bare_changeBalancer, lasting.bare related]
    rcases errors_or_oks_of_map_eq same with
      ⟨error, failed, failed'⟩ | ⟨r, s, changed, changed', bare⟩
    · simp only [bind, Except.bind, failed, failed', Except.mapError]
      exact alike
    · simp only [bind, Except.bind, changed, changed', Except.mapError]
      exact (alike.change lasting (lasting.aside related (Pool.aside_changeBalancer changed)
        (Pool.aside_changeBalancer changed') bare
        (Pool.stocked_changeBalancer changed))).modifyLocation pattern _

/-- A limiter can be set at both of two alike tables or at neither, and leaves them alike: both
pools get the same new limiter. -/
theorem Alike.setLimiter (alike : t.Alike R u) (s : LimiterSetting) (instant : Nat) :
    (t.attempt (t.setLimiter s instant)).Alike R (u.attempt (u.setLimiter s instant)) := by
  rw [Table.setLimiter, Table.setLimiter, requirePool, requirePool]
  rcases none_or_some_of_rel (alike.pools s.pattern) with
    ⟨none, none'⟩ | ⟨p, q, found, known, related⟩
  · rw [none, none']
    exact alike
  · rw [found, known]
    cases limiterOf s instant with
    | error error => exact alike
    | ok limiter =>
        have put := alike.change lasting (lasting.install related s.path limiter)
        refine ⟨put.settings, put.locations, ?_, put.acl, put.stopping, put.nextSerial, put.pools,
          put.retired⟩
        change Dict.insert u.limiters s.pattern _ = Dict.insert t.limiters s.pattern _
        rw [limiterSettings, limiterSettings, alike.limiters]

/-! ### All pools at once -/

/-- A rebuild from the same snapshot leaves tables alike. -/
theorem Alike.rebuild (alike : t.Alike R u) (early : base ≤ t.nextSerial) (s : RoutingState)
    (instant : Nat) : (t.rebuild s instant).Alike R (u.rebuild s instant) := by
  -- Between two insertions, the numbers of new pools have not gone down.
  have pools : (s.locations.values.foldl
        (fun t l => t.attempt ((t.insertPool l).map (·.2))) t).Alike R
      (s.locations.values.foldl (fun t l => t.attempt ((t.insertPool l).map (·.2))) u) :=
    (List.foldl_rel (r := fun v w : Table => v.Alike R w ∧ base ≤ v.nextSerial) ⟨alike, early⟩
      fun l _ v w ⟨same, next⟩ => by
        rcases same.insertPool lasting next l with
          ⟨error, failed, failed'⟩ | ⟨added, x, y, inserted, inserted', after⟩
        · rw [failed, failed']
          exact ⟨same, next⟩
        · rw [inserted, inserted']
          exact ⟨after, next.trans (continues_insertPool inserted).nextSerial⟩).1
  exact List.foldl_rel pools fun e _ v w same => List.foldl_rel same fun k _ v w same =>
    same.setLimiter lasting k instant

/-- A restore of the same snapshot leaves tables alike. -/
theorem Alike.restore (alike : t.Alike R u) (early : base ≤ t.nextSerial) (s : RoutingState)
    (acl : Option AccessList) (instant : Nat) :
    (t.restore s acl instant).Alike R (u.restore s acl instant) := by
  have next : base ≤ t.cleared.nextSerial := by
    rw [Table.cleared, foldl_retire]
    exact early
  have rebuilt := (alike.cleared lasting).rebuild lasting next s instant
  exact ⟨rebuilt.settings, rebuilt.locations, rebuilt.limiters, congrArg acl.getD alike.acl,
    rebuilt.stopping, rebuilt.nextSerial, rebuilt.pools, rebuilt.retired⟩

/-! ### Checks -/

/-- Looking for the same number at alike tables finds related pools, or none at either. -/
theorem Alike.poolBySerial? (alike : t.Alike R u) (serial : Nat) :
    Option.Rel R (t.poolBySerial? serial) (u.poolBySerial? serial) :=
  rel_find? alike.allPools fun related => by
    rw [Pool.serial_eq_of_bare (lasting.bare related)]

/-- Changing the pools with the same number in ways that keep them related leaves tables alike. -/
theorem Alike.changePool (alike : t.Alike R u) (serial : Nat) {change : Pool → Option Pool}
    (changed : ∀ {p q}, R p q → Option.Rel R (change p) (change q)) :
    (t.changePool serial change).Alike R (u.changePool serial change) := by
  rw [Table.changePool, Table.changePool]
  rcases none_or_some_of_rel (alike.poolBySerial? lasting serial) with
    ⟨none, none'⟩ | ⟨p, q, found, known, related⟩
  · rw [none, none']
    exact alike
  · rw [found, known]
    rcases none_or_some_of_rel (changed related) with ⟨none, none'⟩ | ⟨r, s, there, there', after⟩
    · rw [Option.bind_some, Option.bind_some, none, none']
      exact alike
    · rw [Option.bind_some, Option.bind_some, there, there']
      exact alike.change lasting after

/-- A step of a check leaves tables alike. -/
theorem Alike.serve (alike : t.Alike R u) {event : Traffic} (checks : event.IsCheck) :
    (t.serve event).Alike R (u.serve event) := by
  cases event with
  | dispatch | dispatchTo | look | expire | finish => exact checks.elim
  | verdict serial host reachable =>
      refine alike.changePool lasting serial fun {p q} related => .some ?_
      refine lasting.aside related (p.aside_recordProbe host reachable)
        (q.aside_recordProbe host reachable) ?_
        ((lasting.stocked related).recordProbe host reachable)
      rw [← Pool.bare_recordProbe, ← Pool.bare_recordProbe, lasting.bare related]
  | settleChecks serial now =>
      refine alike.changePool lasting serial fun {p q} related => .some ?_
      refine lasting.aside related (p.aside_settleChecks now) (q.aside_settleChecks now) ?_
        fun host member => lasting.stocked related host member
      rw [← Pool.bare_settleChecks, ← Pool.bare_settleChecks, lasting.bare related]
  | startProbe serial check now =>
      refine alike.changePool lasting serial fun {p q} related => ?_
      have same : (q.startProbe check now).map (fun started => (started.1, started.2.bare)) =
          (p.startProbe check now).map fun started => (started.1, started.2.bare) := by
        rw [← Pool.bare_startProbe, ← Pool.bare_startProbe, lasting.bare related]
      rcases none_or_some_of_rel (rel_of_map_eq same) with
        ⟨none, none'⟩ | ⟨⟨host, r⟩, ⟨host', s⟩, started, started', bare⟩
      · rw [none, none']
        exact .none
      · rw [started, started']
        exact .some (lasting.aside related (Pool.aside_startProbe started)
          (Pool.aside_startProbe started') (Prod.mk.inj bare).2
          ((lasting.stocked related).startProbe started))
  | endProbe serial check reachable =>
      refine alike.changePool lasting serial fun {p q} related => ?_
      have same : (q.endProbe check reachable).map (fun ended => (ended.1, ended.2.bare)) =
          (p.endProbe check reachable).map fun ended => (ended.1, ended.2.bare) := by
        rw [← Pool.bare_endProbe, ← Pool.bare_endProbe, lasting.bare related]
      rcases none_or_some_of_rel (rel_of_map_eq same) with
        ⟨none, none'⟩ | ⟨⟨next, r⟩, ⟨next', s⟩, ended, ended', bare⟩
      · rw [none, none']
        exact .none
      · rw [ended, ended']
        exact .some (lasting.aside related (Pool.aside_endProbe ended)
          (Pool.aside_endProbe ended') (Prod.mk.inj bare).2
          ((lasting.stocked related).endProbe ended))

/-- Whatever is done to two tables that are alike, other than for a request, they stay alike. -/
theorem Alike.perform (alike : t.Alike R u) (early : base ≤ t.nextSerial) {operation : Operation}
    (change : operation.IsChange) : (t.perform operation).Alike R (u.perform operation) := by
  cases operation with
  | addPool l => exact alike.addPool lasting early l
  | removePool pattern => exact alike.removePool lasting pattern
  | addHost pattern raw => exact alike.addHost lasting pattern raw
  | removeHost pattern host checksStop => exact alike.removeHost lasting pattern host checksStop
  | changeBalancer pattern mode => exact alike.changeBalancer lasting pattern mode
  | setLimiter s instant => exact alike.setLimiter lasting s instant
  | restore s acl instant => exact alike.restore lasting early s acl instant
  | shutdownPools => exact (alike.cleared lasting).countPools
  | traffic event => exact alike.serve lasting change

end Table

end ClusterGateway
