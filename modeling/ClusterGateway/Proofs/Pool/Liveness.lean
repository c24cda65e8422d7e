import ClusterGateway.Pool.Admission
import ClusterGateway.Proofs.Balance.Presence
import ClusterGateway.Proofs.Pool.Life
import Mathlib.Logic.Function.Basic

/-! # Requests go to hosts that are alive

A host is alive if the last verdict on it since it was added is good, or if there was none. Whatever
happens to a pool, its balancer chooses among just these hosts, none of them twice, and a request
that has its permit gets one of them with the target under which it was added; it is turned away
only if there is no such host. On a ring that takes a hash that keeps label texts apart.
-/

namespace ClusterGateway

/-! ### Balancers -/

namespace Balancer

variable {b : Balancer}

/-- A host that comes is chosen among once. -/
theorem nodup_add (nodup : b.hosts.Nodup) (host : String) : (b.add host).hosts.Nodup := by
  cases b with
  | turns r => exact RoundRobin.nodup_add nodup host
  | ring r => exact Dict.keys_nodup _

/-- A host that goes leaves no other one twice. -/
theorem nodup_remove (nodup : b.hosts.Nodup) (host : String) : (b.remove host).hosts.Nodup := by
  cases b with
  | turns r => exact nodup.filter _
  | ring r => exact Dict.keys_nodup _

/-- Whatever hosts a new balancer is given, it chooses among each once. -/
theorem nodup_ofHosts (mode : BalanceMode) (replicas : Nat) (given : List String) :
    (ofHosts mode replicas given).hosts.Nodup := by
  have added (hosts : List String) {b : Balancer} (nodup : b.hosts.Nodup) :
      (hosts.foldl add b).hosts.Nodup := by
    induction hosts generalizing b with
    | nil => exact nodup
    | cons host hosts ih => exact ih (nodup_add nodup host)
  cases mode with
  | roundRobin => exact added given List.nodup_nil
  | consistentHash => exact added given (Dict.keys_nodup _)

/-- If a balancer is a ring, each of its hosts owns a point. -/
def Rooted (replicas : Nat) (b : Balancer) : Prop :=
  ∀ r, b = ring r → r.Rooted ∧ r.replicas = replicas

section Rooted

variable {replicas : Nat} {given : List String}

/-- A host that comes owns a point of its own, and leaves the others theirs. -/
theorem Rooted.add (rooted : b.Rooted replicas) (legible : Ring.Legible replicas given)
    (known : ∀ other ∈ b.hosts, other ∈ given) {host : String} (member : host ∈ given) :
    (b.add host).Rooted replicas := by
  rintro r same
  cases b with
  | turns _ => exact absurd same (by simp [Balancer.add])
  | ring s =>
      obtain ⟨before, rfl⟩ := rooted s rfl
      obtain rfl := Balancer.ring.inj same
      exact ⟨before.add legible (fun other there => known other (Dict.mem_keys.2 there)) member,
        Ring.replicas_add s host⟩

/-- A host that goes leaves the others their points. -/
theorem Rooted.remove (rooted : b.Rooted replicas) (host : String) :
    (b.remove host).Rooted replicas := by
  rintro r same
  cases b with
  | turns _ => exact absurd same (by simp [Balancer.remove])
  | ring s =>
      obtain ⟨before, rfl⟩ := rooted s rfl
      obtain rfl := Balancer.ring.inj same
      exact ⟨before.remove host, Ring.replicas_remove s host⟩

/-- Hosts that come one after another all own points. -/
theorem Rooted.foldl_add (rooted : b.Rooted replicas) (legible : Ring.Legible replicas given)
    (known : ∀ other ∈ b.hosts, other ∈ given) {hosts : List String}
    (members : ∀ host ∈ hosts, host ∈ given) : (hosts.foldl Balancer.add b).Rooted replicas := by
  induction hosts generalizing b with
  | nil => exact rooted
  | cons host hosts ih =>
      have member : host ∈ given := members host List.mem_cons_self
      refine ih (rooted.add legible known member) (fun other there => ?_)
        fun other there => members other (List.mem_cons_of_mem host there)
      rw [mem_hosts_add] at there
      rcases there with rfl | there
      · exact member
      · exact known other there

/-- On a new ring each host owns a point, if the hash keeps label texts apart. -/
theorem rooted_ofHosts (mode : BalanceMode) (replicas : Nat) {hosts : List String}
    (legible : Ring.Legible (max replicas 1) given) (members : ∀ host ∈ hosts, host ∈ given) :
    (ofHosts mode replicas hosts).Rooted (max replicas 1) := by
  cases mode with
  | roundRobin =>
      exact Rooted.foldl_add (fun r same => absurd same (by simp)) legible
        (fun other there => absurd there List.not_mem_nil) members
  | consistentHash =>
      refine Rooted.foldl_add (fun r same => ?_) legible
        (fun other there => absurd there List.not_mem_nil) members
      obtain rfl := Balancer.ring.inj same
      exact ⟨Ring.rooted_empty replicas, rfl⟩

/-- A balancer that knows a host chooses one that it knows, and without hosts it refuses. -/
theorem balance_spec (rooted : ∀ r, b = ring r → r.Rooted) (key : String) :
    (∃ host after, b.balance key = .ok (host, after) ∧ host ∈ b.hosts) ∨
      b.balance key = .error .noHost ∧ b.hosts = [] := by
  cases b with
  | turns r =>
      rw [balance]
      by_cases bare : r.hosts = []
      · exact Or.inr ⟨by rw [RoundRobin.balance_of_nil bare], bare⟩
      · obtain ⟨host, after, turn, member⟩ := RoundRobin.exists_balance bare
        exact Or.inl ⟨host, turns after, by rw [turn], member⟩
  | ring r =>
      have sound := rooted r rfl
      rw [balance]
      cases chosen : r.balance key with
      | some host =>
          exact Or.inl ⟨host, ring r, rfl,
            Dict.mem_keys.2 (sound.toSound.contains_of_balance chosen)⟩
      | none =>
          refine Or.inr ⟨rfl, List.eq_nil_iff_forall_not_mem.2 fun host member => ?_⟩
          obtain ⟨other, found⟩ := sound.exists_balance (Dict.mem_keys.1 member) key
          exact absurd (chosen.symm.trans found) (by simp)

end Rooted

end Balancer

namespace Pool

/-! ### The balancer of a pool -/

variable {settings : PoolSettings} {given : String → Prop} {p : Pool}

/-- No host stands twice in the balancer of a pool that arises. -/
theorem Arises.nodup_hosts (arises : p.Arises settings given) : p.balancer.hosts.Nodup := by
  refine (arises.keeps (stands_balancer (·.hosts.Nodup) ?_ ?_ ?_ ?_)).2
  · intro b c same nodup
    rwa [← Balancer.hosts_rewound, same, Balancer.hosts_rewound]
  · exact fun mode hosts _ => Balancer.nodup_ofHosts mode settings.replicas hosts
  · exact fun nodup _ host _ => Balancer.nodup_add nodup host
  · exact fun nodup host => Balancer.nodup_remove nodup host

/-- Each host of a ring owns a point if the hash keeps apart what the pool was given. -/
theorem Arises.rooted {hosts : List String} (arises : p.Arises settings (· ∈ hosts))
    (legible : Ring.Legible (max settings.replicas 1) hosts) :
    p.balancer.Rooted (max settings.replicas 1) := by
  refine (arises.keeps (stands_balancer (Balancer.Rooted _) ?_ ?_ ?_ ?_)).2
  · intro b c same rooted r ring
    rw [ring] at same
    exact rooted r (Balancer.rewound_eq_ring_iff.1 same.symm)
  · exact fun mode order members => Balancer.rooted_ofHosts mode settings.replicas legible members
  · exact fun rooted known host member => rooted.add legible known member
  · exact fun rooted host => rooted.remove host

end Pool

/-! ### What happens to a pool -/

/-- What can happen to a pool. A verdict may be that of a check or come from elsewhere. -/
inductive PoolEvent where
  | addHost (raw : String)
  | removeHost (host : String) (checksStop : Bool)
  | changeBalancer (mode : String)
  | recordProbe (host : String) (reachable : Bool)
  | installLimiter (path : String) (limiter : Limiter)
  | acquire (ticket : Nat) (path client : String) (instant : Nat)
  | look (ticket instant : Nat)
  | expire (ticket : Nat)
  | giveBack (number : Nat)
  | shutdown

/-- The host that an event may add. -/
def PoolEvent.added? : PoolEvent → Option String
  | addHost raw => Backend.address? raw
  | _ => none

namespace Pool

variable {settings : PoolSettings} {p : Pool}

/-- What becomes of a pool; a refused change leaves it as it is. -/
def undergo (p : Pool) : PoolEvent → Pool
  | .addHost raw =>
    match p.addHost raw with
    | .ok (_, after) => after
    | .error _ => p
  | .removeHost host checksStop => (p.removeHost host checksStop).2
  | .changeBalancer mode =>
    match p.changeBalancer mode with
    | .ok after => after
    | .error _ => p
  | .recordProbe host reachable => p.recordProbe host reachable
  | .installLimiter path limiter => p.installLimiter path limiter
  | .acquire ticket path client instant => (p.acquire ticket path client instant).2
  | .look ticket instant =>
    match p.look ticket instant with
    | some (_, after) => after
    | none => p
  | .expire ticket =>
    match p.expire ticket with
    | some (_, after) => after
    | none => p
  | .giveBack number => (p.giveBack number).2
  | .shutdown => p.shutdown

/-- A host is added under the address of its backend. -/
theorem address?_of_addHost {q : Pool} {raw key : String} (added : p.addHost raw = .ok (key, q)) :
    Backend.address? raw = some key := by
  rw [addHost] at added
  split at added
  next => exact absurd added (by simp)
  next target read =>
    refine Backend.address?_eq_some_iff.2 ⟨target, read, ?_⟩
    dsimp only at added
    split at added
    · exact (Prod.mk.inj (Except.ok.inj added)).1
    · exact (Prod.mk.inj (Except.ok.inj added)).1

/-- A pool that arises goes on to do so, if the hosts that come are among those given. -/
theorem Arises.undergo {given : String → Prop} (arises : p.Arises settings given)
    {event : PoolEvent} (known : ∀ host ∈ event.added?, given host) :
    (p.undergo event).Arises settings given := by
  cases event with
  | addHost raw =>
      rw [Pool.undergo]
      split
      next key after added =>
        exact arises.addHost added (known key (address?_of_addHost added))
      next => exact arises
  | removeHost host checksStop => exact arises.removeHost host checksStop
  | changeBalancer mode =>
      rw [Pool.undergo]
      split
      next after changed => exact arises.changeBalancer changed
      next => exact arises
  | recordProbe host reachable => exact arises.recordProbe host reachable
  | installLimiter path limiter => exact arises.installLimiter path limiter
  | acquire ticket path client instant => exact arises.acquire ticket path client instant
  | look ticket instant =>
      rw [Pool.undergo]
      split
      next turn after looked => exact arises.look looked
      next => exact arises
  | expire ticket =>
      rw [Pool.undergo]
      split
      next turn after expired => exact arises.expire expired
      next => exact arises
  | giveBack number => exact arises.giveBack number
  | shutdown => exact arises.shutdown

/-- A pool that arises does so after any events that bring only hosts among those given. -/
theorem Arises.run {given : String → Prop} (arises : p.Arises settings given)
    {events : List PoolEvent} (known : ∀ host ∈ events.filterMap PoolEvent.added?, given host) :
    (events.foldl Pool.undergo p).Arises settings given := by
  induction events generalizing p with
  | nil => exact arises
  | cons event events ih =>
      refine ih (arises.undergo fun host added => ?_) fun host member => ?_
      · exact known host (List.mem_filterMap.2 ⟨event, List.mem_cons_self, added⟩)
      · obtain ⟨other, there, added⟩ := List.mem_filterMap.1 member
        exact known host (List.mem_filterMap.2 ⟨other, List.mem_cons_of_mem event there, added⟩)

end Pool

/-! ### What a host has been told -/

/-- The time of a host in a pool, from when it was added. -/
structure Stay where
  /-- The target under which the host was added. -/
  target : WebUrl
  /-- The verdicts on the host since then, the latest last. -/
  verdicts : List Bool := []

/-- A host is alive if the latest verdict says so, or if there is none. -/
def Stay.alive (stay : Stay) : Bool := stay.verdicts.getLast?.getD true

/-- The stays of the hosts of a new pool. -/
def Location.stays (l : Location) (host : String) : Option Stay :=
  (Backend.firstAt? l.proxyPass host).map fun target => { target }

/-- The stays of hosts after something has happened. -/
def PoolEvent.record (stays : String → Option Stay) : PoolEvent → String → Option Stay
  | addHost raw =>
    match Backend.parse raw with
    | .ok target =>
      if (stays target.address).isSome then stays
      else Function.update stays target.address (some { target })
    | .error _ => stays
  | removeHost host _ => Function.update stays host none
  | recordProbe host reachable =>
    Function.update stays host
      ((stays host).map fun stay => { stay with verdicts := stay.verdicts ++ [reachable] })
  | _ => stays

namespace Pool

variable {p : Pool} {stays : String → Option Stay}

/-- The target of a host and whether it is alive, if it is part of the pool. -/
def registered (p : Pool) (host : String) : Option (WebUrl × Bool) :=
  (p.hosts.get? host).map fun h => (h.target, h.alive)

/-- The hosts of a pool are those that stay, with their targets, and alive as they were told. -/
def Tracks (p : Pool) (stays : String → Option Stay) : Prop :=
  ∀ host, p.registered host = (stays host).map fun stay => (stay.target, stay.alive)

theorem registered_of_hosts {q : Pool} (same : q.hosts = p.hosts) : q.registered = p.registered := by
  funext host
  rw [registered, same, registered]

/-- A pool has just the hosts that stay. -/
theorem Tracks.containsHost (tracks : p.Tracks stays) (host : String) :
    p.hosts.contains host = (stays host).isSome := by
  have present := congrArg Option.isSome (tracks host)
  rwa [registered, Option.isSome_map, Option.isSome_map] at present

/-- Changing what one host is registered with changes its stay alone. -/
theorem Tracks.of_registered {q : Pool} (tracks : p.Tracks stays) {host : String}
    {stay : Option Stay}
    (changed : ∀ other, q.registered other = if host = other then
      stay.map fun stay => (stay.target, stay.alive) else p.registered other) :
    q.Tracks (Function.update stays host stay) := by
  intro other
  rw [changed]
  by_cases same : host = other
  · subst same
    rw [if_pos rfl, Function.update_self]
  · rw [if_neg same, Function.update_of_ne (Ne.symm same), tracks]

/-- Starting to check a host changes nothing about how it is registered. -/
theorem registered_startCheck (p : Pool) (host : String) :
    (p.startCheck host).registered = p.registered := by
  funext other
  rw [startCheck]
  split
  · rfl
  · simp only [registered, Dict.get?_modify]
    split
    · rw [Option.map_map]
      rfl
    · rfl

/-- In a new pool the hosts of the location begin their stays. -/
theorem tracks_of_build {serial : Nat} {settings : PoolSettings} {l : Location}
    (built : build serial settings l = .ok p) : p.Tracks l.stays := by
  obtain ⟨backends, mode⟩ := of_build built
  obtain ⟨q, again, -, -, -, targets⟩ := build_of_backends backends mode serial settings
  obtain rfl := Except.ok.inj (built.symm.trans again)
  obtain ⟨-, order, -, -, alive, -⟩ := build_spec built
  intro host
  have target := targets host
  have state := alive host
  rw [outline, get?_targetsOf] at target
  rw [isAlive] at state
  rw [registered, Location.stays, ← target]
  cases found : p.hosts.get? host with
  | none => rfl
  | some h =>
      rw [found] at state
      split at state
      next =>
        have up : h.alive = true := Option.some.inj state
        simp [up, Stay.alive]
      next => exact absurd state (by simp)

/-- A host that comes begins its stay with its target, unless it stays already. -/
theorem Tracks.addHost (tracks : p.Tracks stays) (raw : String) :
    (p.undergo (.addHost raw)).Tracks (PoolEvent.record stays (.addHost raw)) := by
  rw [undergo, Pool.addHost, PoolEvent.record]
  cases Backend.parse raw with
  | error error => exact tracks
  | ok target =>
      dsimp only
      rw [tracks.containsHost]
      by_cases known : (stays target.address).isSome = true
      · rw [if_pos known, if_pos known]
        exact tracks
      · rw [if_neg known, if_neg known]
        refine tracks.of_registered fun other => ?_
        rw [registered_startCheck, registered, Dict.get?_insert]
        split <;> rfl

/-- A host that goes ends its stay. -/
theorem Tracks.removeHost (tracks : p.Tracks stays) (host : String) (checksStop : Bool) :
    (p.removeHost host checksStop).2.Tracks (Function.update stays host none) := by
  refine tracks.of_registered fun other => ?_
  rw [Pool.removeHost]
  split
  next =>
    rw [registered, Dict.get?_erase]
    split <;> rfl
  next unknown =>
    split
    next same =>
      subst same
      rw [registered, Option.not_isSome_iff_eq_none.1 unknown]
      rfl
    next => rfl

/-- A verdict adds itself to the stay of its host. -/
theorem Tracks.recordProbe (tracks : p.Tracks stays) (host : String) (reachable : Bool) :
    (p.undergo (.recordProbe host reachable)).Tracks
      (PoolEvent.record stays (.recordProbe host reachable)) := by
  refine tracks.of_registered fun other => ?_
  have here := tracks host
  rw [registered] at here
  rw [undergo, Pool.recordProbe]
  cases found : p.hosts.get? host with
  | none =>
      rw [found] at here
      dsimp only
      split
      next same =>
        subst same
        rw [registered, found, Option.map_eq_none_iff.1 here.symm]
        rfl
      next => rfl
  | some h =>
      rw [found] at here
      obtain ⟨stay, there, told⟩ := Option.map_eq_some_iff.1 here.symm
      obtain ⟨target, alive⟩ := Prod.mk.inj told
      rw [there]
      dsimp only
      by_cases news : h.alive = reachable
      · rw [if_pos news]
        split
        next same =>
          subst same
          simp [registered, found, Stay.alive, target, news]
        next => rfl
      · rw [if_neg news, registered, Dict.get?_insert]
        split
        next same => simp [Stay.alive, target]
        next => rfl

/-- Every event does to the pool what its record does to the stays. -/
theorem Tracks.undergo (tracks : p.Tracks stays) (event : PoolEvent) :
    (p.undergo event).Tracks (event.record stays) := by
  have kept {q : Pool} (same : q.standing = p.standing) : q.Tracks stays := fun host => by
    rw [registered_of_hosts (congrArg Standing.hosts same), tracks host]
  cases event with
  | addHost raw => exact tracks.addHost raw
  | removeHost host checksStop => exact tracks.removeHost host checksStop
  | changeBalancer mode =>
      rw [Pool.undergo]
      split
      next after changed =>
        obtain ⟨balancer, -, rfl⟩ := changeBalancer_spec changed
        exact tracks
      next => exact tracks
  | recordProbe host reachable => exact tracks.recordProbe host reachable
  | installLimiter path limiter => exact kept (standing_installLimiter p path limiter)
  | acquire ticket path client instant => exact kept (standing_acquire p ticket path client instant)
  | look ticket instant =>
      rw [Pool.undergo]
      split
      next turn after looked => exact kept (standing_look looked)
      next => exact tracks
  | expire ticket =>
      rw [Pool.undergo]
      split
      next turn after expired => exact kept (standing_expire expired)
      next => exact tracks
  | giveBack number => exact kept (standing_giveBack p number)
  | shutdown => exact kept (standing_shutdown p)

/-- Any events do to the pool what their records do to the stays. -/
theorem Tracks.run (tracks : p.Tracks stays) (events : List PoolEvent) :
    (events.foldl Pool.undergo p).Tracks (events.foldl PoolEvent.record stays) := by
  induction events generalizing p stays with
  | nil => exact tracks
  | cons event events ih => exact ih (tracks.undergo event)

/-! ### Requests that have their permit -/

/-- What a pool must be like for its requests to get hosts that are alive. -/
structure Ready (p : Pool) : Prop where
  chosen : ∀ host, host ∈ p.balancer.hosts ↔ p.isAlive host = some true
  rooted : ∀ r, p.balancer = .ring r → r.Rooted

/-- How a request that has its permit is answered: with a host that is alive and its target, and
only for want of such a host with a refusal. -/
def Answers (p : Pool) (admission : Admission) : Prop :=
  (∃ guard, admission = .granted guard ∧ p.registered guard.host = some (guard.target, true)) ∨
    admission = .refused (.noHost p.pattern) ∧ ∀ host, p.isAlive host ≠ some true

/-- A host is alive or not as the pool says of it. -/
theorem isAlive_eq_some_iff {host : String} {alive : Bool} :
    p.isAlive host = some alive ↔ ∃ h, p.hosts.get? host = some h ∧ h.alive = alive :=
  Option.map_eq_some_iff

/-- A request is served according to the hosts and the balancer, however the limiters stand. -/
theorem Ready.serve (ready : p.Ready) (q : Pool) (hosts : q.hosts = p.hosts)
    (balancer : q.balancer = p.balancer) (pattern : q.pattern = p.pattern) (path client : String)
    (number : Nat) : p.Answers (q.serve path client number).1.admission := by
  rw [Pool.serve, choose, balancer]
  rcases Balancer.balance_spec ready.rooted client with ⟨host, after, turn, member⟩ | ⟨turn, nobody⟩
  · obtain ⟨h, found, alive⟩ := isAlive_eq_some_iff.1 ((ready.chosen host).1 member)
    rw [turn, hosts]
    simp only [found, Option.map_some]
    refine Or.inl ⟨_, rfl, ?_⟩
    rw [registered, found, Option.map_some, alive]
  · rw [turn]
    dsimp only
    refine Or.inr ⟨?_, fun host alive => ?_⟩
    · rw [giveBack]
      split <;> exact congrArg (fun name => Admission.refused (.noHost name)) pattern
    · have member := (ready.chosen host).2 alive
      rw [nobody] at member
      exact absurd member List.not_mem_nil

/-- Whether a request that comes gets its permit at once. -/
def permits (p : Pool) (ticket : Nat) (path : String) (instant : Nat) : Bool :=
  let (number, p) := p.limiterFor path
  match p.limiters[number]? with
  | none => false
  | some l => if l.timeout = 0 then (l.take? instant).isSome else (l.attempt ticket instant).1

/-- Whether a request that waits gets its permit when it looks again. -/
def permitsAgain (p : Pool) (ticket instant : Nat) : Bool :=
  ((p.waiter? ticket).bind fun w => p.limiters[w.limiter]?).any fun l =>
    (l.attempt ticket instant).1

/-- A request without a permit is refused for that, or it waits. -/
def Defers (p : Pool) (path : String) (admission : Admission) : Prop :=
  admission = .refused (p.throttled path) ∨ ∃ time, admission = .waiting time

/-- A request that comes is answered according to the hosts alive if it has its permit, and
otherwise waits or is throttled. -/
theorem Ready.acquire (ready : p.Ready) (ticket : Nat) (path client : String) (instant : Nat) :
    p.permits ticket path instant = true ∧
        p.Answers (p.acquire ticket path client instant).1.admission ∨
      p.permits ticket path instant = false ∧
        p.Defers path (p.acquire ticket path client instant).1.admission := by
  -- Giving the path a limiter, if it has none, does not change who may be chosen.
  have alike : (p.limiterFor path).2.hosts = p.hosts ∧ (p.limiterFor path).2.balancer = p.balancer ∧
      (p.limiterFor path).2.pattern = p.pattern := by
    rw [limiterFor]
    split <;> exact ⟨rfl, rfl, rfl⟩
  rw [permits, Pool.acquire]
  generalize p.limiterFor path = found at *
  obtain ⟨number, q⟩ := found
  obtain ⟨hosts, balancer, pattern⟩ := alike
  have refusal : q.throttled path = p.throttled path := by rw [throttled, throttled, pattern]
  dsimp only
  cases q.limiters[number]? with
  | none => exact Or.inr ⟨rfl, Or.inl (by rw [refusal])⟩
  | some l =>
      dsimp only
      by_cases prompt : l.timeout = 0
      · rw [if_pos prompt, if_pos prompt]
        cases l.take? instant with
        | none => exact Or.inr ⟨rfl, Or.inl (by rw [refusal])⟩
        | some taken =>
            exact Or.inl ⟨rfl, ready.serve (q.putLimiter number taken) hosts balancer pattern path
              client number⟩
      · rw [if_neg prompt, if_neg prompt]
        generalize l.attempt ticket instant = attempted
        obtain ⟨entered, after⟩ := attempted
        cases entered with
        | true =>
            exact Or.inl ⟨rfl, ready.serve (q.putLimiter number after) hosts balancer pattern path
              client number⟩
        | false => exact Or.inr ⟨rfl, Or.inr ⟨l.timeout, rfl⟩⟩

/-- A request that looks again is answered according to the hosts alive if it has its permit, and
otherwise waits on. -/
theorem Ready.look (ready : p.Ready) {ticket instant : Nat} {turn : Turn} {after : Pool}
    (looked : p.look ticket instant = some (turn, after)) :
    p.permitsAgain ticket instant = true ∧ p.Answers turn.admission ∨
      p.permitsAgain ticket instant = false ∧ ∃ time, turn.admission = .waiting time := by
  obtain ⟨w, l, left, waits, known, outcome⟩ := look_spec looked
  have permit : p.permitsAgain ticket instant = (l.attempt ticket instant).1 := by
    rw [permitsAgain, waits, Option.bind_some, known]
    rfl
  rw [permit]
  rcases outcome with ⟨tried, whole⟩ | ⟨tried, rfl, -⟩
  · have answered := ready.serve ((p.putLimiter w.limiter left).dismiss ticket) rfl rfl rfl
      w.path w.client w.limiter
    rw [whole] at answered
    exact Or.inl ⟨congrArg Prod.fst tried, answered⟩
  · exact Or.inr ⟨congrArg Prod.fst tried, l.timeout, rfl⟩

/-- After everything that can happen to a pool its balancer chooses among just the hosts that are
alive, none of them twice; the hosts are those that stay, with the targets under which they were
added, and alive as the latest verdict says; and a request that gets its permit is given a host that
is alive with its target, unless there is none. -/
theorem liveness_of_run {serial : Nat} {settings : PoolSettings} {l : Location}
    (built : build serial settings l = .ok p) (events : List PoolEvent) :
    let q := events.foldl undergo p
    let stays := events.foldl PoolEvent.record l.stays
    let given := l.addresses ++ events.filterMap PoolEvent.added?
    q.balancer.hosts.Nodup ∧
    (∀ host, host ∈ q.balancer.hosts ↔ q.isAlive host = some true) ∧
    (∀ host, q.registered host = (stays host).map fun stay => (stay.target, stay.alive)) ∧
    ((∀ r, q.balancer = .ring r → Ring.Legible (max settings.replicas 1) given) →
      (∀ ticket path client instant,
        q.permits ticket path instant = true ∧
            q.Answers (q.acquire ticket path client instant).1.admission ∨
          q.permits ticket path instant = false ∧
            q.Defers path (q.acquire ticket path client instant).1.admission) ∧
      ∀ ticket instant turn after, q.look ticket instant = some (turn, after) →
        q.permitsAgain ticket instant = true ∧ q.Answers turn.admission ∨
          q.permitsAgain ticket instant = false ∧ ∃ time, turn.admission = .waiting time) := by
  intro q stays given
  have arises : q.Arises settings (· ∈ given) :=
    Arises.run (Arises.build built fun key member => List.mem_append_left _ member)
      fun host member => List.mem_append_right _ member
  have chosen := arises.balanced.chosen
  refine ⟨arises.nodup_hosts, chosen, (tracks_of_build built).run events, fun legible => ?_⟩
  have ready : q.Ready :=
    ⟨chosen, fun r ring => (arises.rooted (legible r ring) r ring).1⟩
  exact ⟨ready.acquire, fun ticket instant turn after looked => ready.look looked⟩

/-- Of two hosts on a ring one goes down, a third comes, the ring is built anew, and the second goes
and comes back. -/
def ringLife : List PoolEvent :=
  [.recordProbe "[::1]:80" false, .addHost "http://[::3]:80", .changeBalancer "consistent-hash",
   .removeHost "[::2]:80" false, .recordProbe "[::2]:80" false, .addHost "http://[::2]:80"]

/-- On a ring of two hosts a request that comes after these events is given a host that is alive. -/
theorem liveness_of_run_ringLife :
    ∃ p, build 0 { replicas := 2 }
        ⟨"/a", ["http://[::1]:80", "http://[::2]:80"], "consistent-hash"⟩ = .ok p ∧
      (ringLife.foldl undergo p).isAlive "[::1]:80" = some false ∧
      (ringLife.foldl undergo p).isAlive "[::2]:80" = some true ∧
      ∃ guard, ((ringLife.foldl undergo p).acquire 0 "/x" "10.0.0.1" 0).1.admission =
          .granted guard ∧
        (ringLife.foldl undergo p).registered guard.host = some (guard.target, true) := by
  have shape : (build 0 { replicas := 2 }
      ⟨"/a", ["http://[::1]:80", "http://[::2]:80"], "consistent-hash"⟩).toOption.map (fun p =>
        ((ringLife.foldl undergo p).isAlive "[::1]:80", (ringLife.foldl undergo p).isAlive "[::2]:80",
          (ringLife.foldl undergo p).permits 0 "/x" 0)) = some (some false, some true, true) := by
    decide +kernel
  have legible : Ring.Legible (max 2 1)
      (Location.addresses ⟨"/a", ["http://[::1]:80", "http://[::2]:80"], "consistent-hash"⟩ ++
        ringLife.filterMap PoolEvent.added?) := by decide +kernel
  cases built : build 0 { replicas := 2 }
      ⟨"/a", ["http://[::1]:80", "http://[::2]:80"], "consistent-hash"⟩ with
  | error error =>
      rw [built] at shape
      exact absurd shape (by simp [Except.toOption])
  | ok p =>
      rw [built] at shape
      obtain ⟨down, rest⟩ := Prod.mk.inj (Option.some.inj shape)
      obtain ⟨up, permit⟩ := Prod.mk.inj rest
      obtain ⟨-, -, -, requests⟩ := liveness_of_run built ringLife
      refine ⟨p, rfl, down, up, ?_⟩
      rcases (requests fun _ _ => legible).1 0 "/x" "10.0.0.1" 0 with ⟨-, answer⟩ | ⟨none, -⟩
      · rcases answer with granted | ⟨-, nobody⟩
        · exact granted
        · exact absurd up (nobody "[::2]:80")
      · exact absurd (permit.symm.trans none) (by decide)

end Pool

end ClusterGateway
