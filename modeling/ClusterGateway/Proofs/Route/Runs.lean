import ClusterGateway.Proofs.Route.Operations

/-! # Runs of a routing table

A run performs operations on an empty table in any order: those that operators and snapshots cause,
and in between the steps of requests and of checks. After every run the router, the locations and
the limiter settings agree, and so does every pool with its location.
-/

namespace ClusterGateway

/-- A step of a request or of a check. A pool is referred to by its number, since a request may go
on with a pool that is out of service. -/
inductive Traffic where
  /-- A request for a path comes. -/
  | dispatch (ticket : Nat) (path : String) (client : IpAddress) (instant : Nat)
  /-- A request comes that has been routed to a pool already. -/
  | dispatchTo (serial ticket : Nat) (path : String) (client : IpAddress) (instant : Nat)
  /-- A woken request looks for a permit again. -/
  | look (ticket instant : Nat)
  /-- The time of a waiting request is over. -/
  | expire (ticket : Nat)
  /-- A request is done and gives its guard back. -/
  | finish (guard : Guard)
  /-- A pool learns whether a host can be reached. -/
  | verdict (serial : Nat) (host : String) (reachable : Bool)
  /-- The check loops of a pool begin and end. -/
  | settleChecks (serial now : Nat)
  /-- A check loop starts a probe. -/
  | startProbe (serial check now : Nat)
  /-- A check loop takes in the verdict of its probe. -/
  | endProbe (serial check : Nat) (reachable : Bool)
deriving DecidableEq, Repr

namespace Table

variable {t : Table}

/-- Changes the pool with a number, if there is one and it changes. -/
def changePool (t : Table) (serial : Nat) (change : Pool → Option Pool) : Table :=
  (((t.poolBySerial? serial).bind change).map t.putPool).getD t

/-- Lets a step of a request or of a check happen; a step that is not possible changes nothing. -/
def serve (t : Table) : Traffic → Table
  | .dispatch ticket path client instant => (t.dispatch ticket path client instant).2
  | .dispatchTo serial ticket path client instant =>
    match t.poolBySerial? serial with
    | some p => (t.dispatchTo p ticket path client instant).2
    | none => t
  | .look ticket instant => ((t.look ticket instant).map (·.2)).getD t
  | .expire ticket => ((t.expire ticket).map (·.2)).getD t
  | .finish guard => (t.finish guard).2
  | .verdict serial host reachable => t.changePool serial fun p => p.recordProbe host reachable
  | .settleChecks serial now => t.changePool serial fun p => (p.settleChecks now).2
  | .startProbe serial check now =>
    t.changePool serial fun p => (p.startProbe check now).map (·.2)
  | .endProbe serial check reachable =>
    t.changePool serial fun p => (p.endProbe check reachable).map (·.2)

/-! ### Requests and checks keep the configuration -/

/-- What is found for a path is the pool of a pattern. -/
theorem pool?_of_route {path : String} {m : RouteMatch Pool}
    (found : t.router.route path = some m) : t.pool? m.pattern = some m.target := by
  rw [Router.route, Option.or_eq_some_iff, Option.or_eq_some_iff] at found
  rcases found with whole | ⟨-, cut | ⟨-, root⟩⟩
  · rw [Router.matchWhole] at whole
    split at whole
    · exact absurd whole (by simp)
    · obtain ⟨p, present, rfl⟩ := Option.map_eq_some_iff.1 whole
      exact present
  · obtain ⟨parts, _, matched⟩ := List.exists_of_findSome?_eq_some cut
    obtain ⟨p, present, rfl⟩ := Option.map_eq_some_iff.1 matched
    exact present
  · obtain ⟨p, present, rfl⟩ := Option.map_eq_some_iff.1 root
    exact present

/-- A request for a path is routed to a pool of the table. -/
theorem mem_allPools_of_route {path : String} {m : RouteMatch Pool}
    (found : t.router.route path = some m) : m.target ∈ t.allPools :=
  List.mem_append.2 (Or.inl (Dict.mem_values.2 ⟨m.pattern, pool?_of_route found⟩))

theorem serial_of_find {pools : List Pool} {serial : Nat} {p : Pool}
    (found : pools.find? (·.serial = serial) = some p) : p.serial = serial := by
  simpa using List.find?_some found

theorem mem_allPools_of_serial {serial : Nat} {p : Pool} (found : t.poolBySerial? serial = some p) :
    p ∈ t.allPools := List.mem_of_find?_eq_some found

/-- What two steady steps leave alone is left alone by both together. -/
theorem Steady.trans {u v : Table} (first : t.Steady u) (second : u.Steady v) : t.Steady v :=
  ⟨second.outlines.trans first.outlines, second.past.trans first.past,
    second.nextSerial.trans first.nextSerial, second.locations.trans first.locations,
    second.limiters.trans first.limiters, second.acl.trans first.acl⟩

theorem steady_settle (t : Table) (turn : Turn) : t.Steady (t.settle turn) := by
  rw [settle]
  split <;> exact ⟨rfl, rfl, rfl, rfl, rfl, rfl⟩

theorem steady_refuse (t : Table) (error : DispatchError) : t.Steady (t.refuse error).2 :=
  ⟨rfl, rfl, rfl, rfl, rfl, rfl⟩

/-- A request that comes to a pool leaves outlines and configuration as they are. -/
theorem Sound.steady_take (sound : t.Sound) {p : Pool} (member : p ∈ t.allPools) (ticket : Nat)
    (path client : String) (instant : Nat) :
    t.Steady (t.take p ticket path client instant).2 := by
  have swapped := sound.steady_putPool member (p.outline_acquire ticket path client instant)
  have entered : t.Steady (({ t with inFlight := t.inFlight + 1 } : Table).putPool
      (p.acquire ticket path client instant).2) :=
    ⟨swapped.outlines, swapped.past, swapped.nextSerial, swapped.locations, swapped.limiters,
      swapped.acl⟩
  exact entered.trans (steady_settle _ _)

/-- A request for a path is refused at once or comes to a pool. -/
theorem dispatch_spec (t : Table) (ticket : Nat) (path : String) (client : IpAddress)
    (instant : Nat) :
    (∃ error, t.dispatch ticket path client instant = t.refuse error) ∨
      ∃ p ∈ t.allPools, ∃ rest,
        t.dispatch ticket path client instant = t.take p ticket rest client.text instant := by
  rw [Table.dispatch, resolve]
  cases found : t.router.route path with
  | none => exact Or.inl ⟨_, rfl⟩
  | some m =>
      cases t.checkClient client with
      | error error => exact Or.inl ⟨error, rfl⟩
      | ok => exact Or.inr ⟨m.target, mem_allPools_of_route found, m.path, rfl⟩

/-- A request for a pool is refused at the table, or comes to the pool. -/
theorem dispatchTo_spec (t : Table) (p : Pool) (ticket : Nat) (path : String) (client : IpAddress)
    (instant : Nat) :
    (∃ error, t.dispatchTo p ticket path client instant = t.refuse error) ∨
      t.dispatchTo p ticket path client instant = t.take p ticket path client.text instant := by
  rw [Table.dispatchTo]
  cases t.checkClient client with
  | error error => exact Or.inl ⟨error, rfl⟩
  | ok => exact Or.inr rfl

/-- A waiting request has its turn at a pool at which it waits. -/
theorem resume_spec {step : Pool → Option (Turn × Pool)} {ticket : Nat} {result : Turn × Table}
    (resumed : t.resume step ticket = some result) :
    ∃ p turn q, t.allPools.find? (fun p => (p.waiter? ticket).isSome) = some p ∧
      step p = some (turn, q) ∧ result = (turn, (t.putPool q).settle turn) := by
  simp only [resume, Option.bind_eq_bind, Option.bind_eq_some_iff] at resumed
  obtain ⟨p, found, ⟨turn, q⟩, stepped, whole⟩ := resumed
  exact ⟨p, turn, q, found, stepped, (Option.some.inj whole).symm⟩

/-- A turn of a waiting request leaves outlines and configuration as they are, if it keeps the
outline of its pool. -/
theorem Sound.steady_resume (sound : t.Sound) {step : Pool → Option (Turn × Pool)}
    (keeps : ∀ p turn q, step p = some (turn, q) → q.outline = p.outline) (ticket : Nat) :
    t.Steady (((t.resume step ticket).map (·.2)).getD t) := by
  cases resumed : t.resume step ticket with
  | none => exact Steady.refl t
  | some result =>
      obtain ⟨p, turn, q, found, stepped, rfl⟩ := resume_spec resumed
      exact (sound.steady_putPool (List.mem_of_find?_eq_some found)
        (keeps p turn q stepped)).trans (steady_settle _ _)

/-- Changing the pool with a number changes nothing, or puts back a pool that was changed. -/
theorem changePool_spec (t : Table) (serial : Nat) (change : Pool → Option Pool) :
    t.changePool serial change = t ∨
      ∃ p q, p ∈ t.allPools ∧ change p = some q ∧ t.changePool serial change = t.putPool q := by
  rw [changePool]
  cases found : t.poolBySerial? serial with
  | none => exact Or.inl rfl
  | some p =>
      rw [Option.bind_some]
      cases changed : change p with
      | none => exact Or.inl rfl
      | some q => exact Or.inr ⟨p, q, mem_allPools_of_serial found, changed, rfl⟩

/-- A change of one pool that keeps its outline leaves outlines and configuration as they are. -/
theorem Sound.steady_changePool (sound : t.Sound) {change : Pool → Option Pool}
    (keeps : ∀ p q, change p = some q → q.outline = p.outline) (serial : Nat) :
    t.Steady (t.changePool serial change) := by
  rcases t.changePool_spec serial change with same | ⟨p, q, member, changed, swapped⟩
  · rw [same]
    exact Steady.refl t
  · rw [swapped]
    exact sound.steady_putPool member (keeps p q changed)

/-- No step of a request or of a check changes the configuration or the outline of a pool. -/
theorem Sound.steady_serve (sound : t.Sound) (event : Traffic) : t.Steady (t.serve event) := by
  cases event with
  | dispatch ticket path client instant =>
      rw [serve]
      rcases t.dispatch_spec ticket path client instant with
        ⟨error, whole⟩ | ⟨p, member, rest, whole⟩ <;> rw [whole]
      · exact steady_refuse t error
      · exact sound.steady_take member _ _ _ _
  | dispatchTo serial ticket path client instant =>
      rw [serve]
      split
      · next p found =>
          rcases t.dispatchTo_spec p ticket path client instant with ⟨error, whole⟩ | whole <;>
            rw [whole]
          · exact steady_refuse t error
          · exact sound.steady_take (mem_allPools_of_serial found) _ _ _ _
      · exact Steady.refl t
  | look ticket instant => exact sound.steady_resume (fun _ _ _ => Pool.outline_look) ticket
  | expire ticket => exact sound.steady_resume (fun _ _ _ => Pool.outline_expire) ticket
  | finish guard =>
      rw [serve, Table.finish]
      split
      · exact ⟨rfl, rfl, rfl, rfl, rfl, rfl⟩
      · next p found =>
          have swapped := sound.steady_putPool (mem_allPools_of_serial found)
            (p.outline_giveBack guard.limiter)
          exact ⟨swapped.outlines, swapped.past, swapped.nextSerial, swapped.locations,
            swapped.limiters, swapped.acl⟩
  | verdict serial host reachable =>
      refine sound.steady_changePool (fun p q changed => ?_) serial
      exact Option.some.inj changed ▸ p.outline_recordProbe host reachable
  | settleChecks serial now =>
      refine sound.steady_changePool (fun p q changed => ?_) serial
      exact Option.some.inj changed ▸ p.outline_settleChecks now
  | startProbe serial check now =>
      refine sound.steady_changePool (fun p q changed => ?_) serial
      obtain ⟨⟨host, after⟩, started, rfl⟩ := Option.map_eq_some_iff.1 changed
      exact Pool.outline_startProbe started
  | endProbe serial check reachable =>
      refine sound.steady_changePool (fun p q changed => ?_) serial
      obtain ⟨⟨next, after⟩, ended, rfl⟩ := Option.map_eq_some_iff.1 changed
      exact Pool.outline_endProbe ended

end Table

/-- Whatever can happen to a routing table. -/
inductive Operation where
  | addPool (location : Location)
  | removePool (pattern : String)
  | addHost (pattern raw : String)
  /-- A host leaves a pool; its checks may fail to stop in time. -/
  | removeHost (pattern host : String) (checksStop : Bool)
  | changeBalancer (pattern mode : String)
  | setLimiter (setting : LimiterSetting) (instant : Nat)
  /-- The table takes over a state, and with it other blocked networks if there are any. -/
  | restore (state : RoutingState) (acl : Option AccessList) (instant : Nat)
  | shutdownPools
  | traffic (event : Traffic)

namespace Table

variable {t : Table}

/-- Performs an operation; one that is refused changes nothing. -/
def perform (t : Table) : Operation → Table
  | .addPool l => t.attempt ((t.addPool l).map (·.2))
  | .removePool pattern => t.attempt (t.removePool pattern)
  | .addHost pattern raw => t.attempt ((t.addHost pattern raw).map (·.2))
  | .removeHost pattern host checksStop => (t.removeHost pattern host checksStop).2
  | .changeBalancer pattern mode => t.attempt (t.changeBalancer pattern mode)
  | .setLimiter s instant => t.attempt (t.setLimiter s instant)
  | .restore s acl instant => t.restore s acl instant
  | .shutdownPools => t.shutdownPools
  | .traffic event => t.serve event

/-- Performs operations one after another. -/
def run (t : Table) (operations : List Operation) : Table := operations.foldl perform t

/-- A table without pools is sound, whatever else it holds. -/
theorem sound_bare (t : Table) :
    ({ t with router := {}, locations := ∅, limiters := ∅, retired := [] } : Table).Sound := by
  have none {a : String} {o : Outline}
      (found : ({ t with router := {}, locations := ∅, limiters := ∅, retired := [] } :
        Table).outlines.get? a = some o) : False :=
    absurd found (by simp [outlines])
  exact ⟨Configuration.wellFormed_empty _, fun _ => rfl, fun found => (none found).elim,
    fun found => (none found).elim, fun found => (none found).elim, fun found => (none found).elim,
    fun _ gone => absurd gone List.not_mem_nil⟩

theorem sound_empty (settings : PoolSettings) (hostWait : Nat) (acl : AccessList) :
    ({ settings, hostWait, acl } : Table).Sound := sound_bare { settings, hostWait, acl }

/-- Every operation keeps a table sound. -/
theorem Sound.perform (sound : t.Sound) (operation : Operation) : (t.perform operation).Sound := by
  cases operation with
  | addPool l => exact (sound.attempt (sound.makes_addPool l)).1
  | removePool pattern => exact (sound.attempt (sound.makes_removePool pattern)).1
  | addHost pattern raw => exact (sound.attempt (sound.makes_addHost pattern raw)).1
  | removeHost pattern host checksStop => exact (sound.removeHost pattern host checksStop).1
  | changeBalancer pattern mode => exact (sound.attempt (sound.makes_changeBalancer pattern mode)).1
  | setLimiter s instant => exact (sound.attempt (sound.makes_setLimiter s instant)).1
  | restore s acl instant => exact (sound.restore s acl instant).1
  | shutdownPools => exact sound.shutdownPools
  | traffic event => exact sound.of_steady (sound.steady_serve event)

/-- Every run keeps a table sound. -/
theorem Sound.run (sound : t.Sound) (operations : List Operation) : (t.run operations).Sound := by
  induction operations generalizing t with
  | nil => exact sound
  | cons operation operations ih => exact ih (sound.perform operation)

/-! ### Coherence -/

/-- A pool does what a location says. -/
structure Agrees (p : Pool) (l : Location) : Prop where
  /-- The pool serves the location's pattern. -/
  pattern : p.pattern = l.pattern
  /-- The hosts of the pool are the addresses of the location's backends. -/
  hosts : ∀ key, key ∈ p.hosts.keys ↔ key ∈ l.addresses
  /-- Requests for a host go to the first backend with its address. -/
  targets : ∀ key h, p.hosts.get? key = some h →
    ∃ raw, l.proxyPass.find? (Backend.address? · = some key) = some raw ∧
      Backend.parse raw = .ok h.target
  /-- The pool chooses its hosts in the location's mode. -/
  mode : p.balancer.mode.name = l.balanceMode

/-- The parts of a table tell the same. -/
structure Coherent (t : Table) : Prop where
  /-- Router and locations have the same patterns. -/
  patterns : t.router.patterns = t.locations.keys
  /-- Only patterns of the router have limiter settings. -/
  limited : ∀ pattern ∈ t.limiters.keys, pattern ∈ t.router.patterns
  /-- Every pool agrees with the location under its pattern, and both have that pattern. -/
  pools : ∀ pattern p, t.router.get? pattern = some p →
    p.pattern = pattern ∧
      ∃ l, t.locations.get? pattern = some l ∧ l.pattern = pattern ∧ Agrees p l
  /-- Limiter settings have the pattern under which they lie, and no two have the same path. -/
  limiters : ∀ pattern settings, t.limiters.get? pattern = some settings →
    (∀ s ∈ settings, s.pattern = pattern) ∧ (settings.map (·.path)).Nodup

/-- A pool whose outline serves a location agrees with the location. -/
theorem agrees_of_serves {p : Pool} {l : Location} (serves : p.outline.Serves l) : Agrees p l := by
  have targets (key : String) :
      (p.hosts.get? key).map (·.target) = Backend.firstAt? l.proxyPass key := by
    rw [← serves.targets]
    exact (Pool.get?_targetsOf p.hosts key).symm
  refine ⟨serves.pattern, fun key => ?_, fun key h found => ?_, serves.mode⟩
  · rw [Dict.mem_keys, Dict.contains, Location.mem_addresses, ← Backend.isSome_firstAt?,
      ← targets key, Option.isSome_map]
  · have first := targets key
    rw [found, Option.map_some, Backend.firstAt?] at first
    obtain ⟨raw, named, read⟩ := Option.bind_eq_some_iff.1 first.symm
    refine ⟨raw, named, ?_⟩
    cases parsed : Backend.parse raw with
    | ok url =>
        rw [parsed] at read
        rw [Option.some.inj read]
    | error error =>
        rw [parsed] at read
        exact absurd read (by simp [Except.toOption])

/-- A sound table is coherent. -/
theorem Sound.coherent (sound : t.Sound) : t.Coherent := by
  have keys : t.router.patterns = t.locations.keys :=
    Dict.keys_eq_of_contains fun pattern => (contains_router t pattern).trans (sound.keyed pattern)
  refine ⟨keys, fun pattern member => ?_, fun pattern p found => ?_, fun pattern settings found =>
    ⟨fun s member => (sound.configured.kept found s member).1, sound.configured.single found⟩⟩
  · obtain ⟨settings, found⟩ := Dict.contains_iff.1 (Dict.mem_keys.1 member)
    rw [keys, Dict.mem_keys]
    exact sound.configured.limited found
  · have here := get?_outlines_of_pool found
    have known : t.locations.contains pattern = true := by
      rw [← sound.keyed, Dict.contains, here]
      rfl
    obtain ⟨l, located⟩ := Dict.contains_iff.1 known
    have serves := sound.serves here located
    have named := (sound.configured.located located).1
    exact ⟨serves.pattern.trans named, l, located, named, agrees_of_serves serves⟩

/-- After every run from an empty table its parts tell the same. -/
theorem coherent_run (settings : PoolSettings) (hostWait : Nat) (acl : AccessList)
    (operations : List Operation) :
    (({ settings, hostWait, acl } : Table).run operations).Coherent :=
  ((sound_empty settings hostWait acl).run operations).coherent

end Table

end ClusterGateway
