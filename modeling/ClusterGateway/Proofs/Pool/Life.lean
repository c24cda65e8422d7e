import ClusterGateway.Proofs.Balance.Ring
import ClusterGateway.Proofs.Pool.Outline

/-! # The life of a pool

A pool is built from a location. Then its hosts and its balancer are changed, limiters are
installed, requests and checks come, and at last it is shut down. Its balancer chooses among just
the hosts that are alive. On its ring a host that shares no point with the others that were given
owns all its points, so the ring is complete if each host on it is such a host.
-/

namespace ClusterGateway

namespace Balancer

/-- The balancer as it was before any turn was taken. -/
def rewound : Balancer → Balancer
  | turns r => turns { r with turns := 0 }
  | ring r => ring r

@[simp] theorem hosts_rewound (b : Balancer) : b.rewound.hosts = b.hosts := by cases b <;> rfl

/-- A rewound balancer is a ring just if the balancer is this ring, because a ring takes no
turns. -/
theorem rewound_eq_ring_iff {b : Balancer} {r : Ring} : b.rewound = ring r ↔ b = ring r := by
  cases b <;> simp [rewound]

/-- Choosing a host changes a balancer at most in whose turn it is. -/
theorem rewound_balance {b after : Balancer} {key host : String}
    (chosen : b.balance key = .ok (host, after)) : after.rewound = b.rewound := by
  cases b with
  | turns r =>
      simp only [balance, RoundRobin.balance] at chosen
      generalize r.hosts[r.turns.toNat % r.hosts.length]? = turn at chosen
      cases turn with
      | none => exact absurd chosen (by simp)
      | some other =>
          obtain ⟨_, rfl⟩ := Prod.mk.inj (Except.ok.inj chosen)
          rfl
  | ring r =>
      simp only [balance] at chosen
      split at chosen
      · obtain ⟨_, rfl⟩ := Prod.mk.inj (Except.ok.inj chosen)
        rfl
      · exact absurd chosen (by simp)

/-- A host that comes is chosen among, besides the others. -/
theorem mem_hosts_add (b : Balancer) (host other : String) :
    other ∈ (b.add host).hosts ↔ other = host ∨ other ∈ b.hosts := by
  cases b with
  | turns r =>
      simp only [add, hosts, RoundRobin.add]
      split
      · next known => exact ⟨Or.inr, fun either => either.elim (fun same => same ▸ known) id⟩
      · rw [List.mem_append, List.mem_singleton, or_comm]
  | ring r =>
      simp only [add, hosts, Dict.mem_keys, Ring.contains_add, Bool.or_eq_true, decide_eq_true_eq]
      exact or_congr_left eq_comm

/-- A host that goes is not chosen among any more, and the others still are. -/
theorem mem_hosts_remove (b : Balancer) (host other : String) :
    other ∈ (b.remove host).hosts ↔ other ≠ host ∧ other ∈ b.hosts := by
  cases b with
  | turns r =>
      simp only [remove, hosts, RoundRobin.remove, List.mem_filter, decide_eq_true_eq]
      exact and_comm
  | ring r =>
      simp only [remove, hosts, Dict.mem_keys, Ring.contains_remove, Bool.and_eq_true,
        Bool.not_eq_true', decide_eq_false_iff_not]
      exact and_congr_left fun _ => not_congr eq_comm

/-- Hosts that come one after another are all chosen among. -/
theorem mem_hosts_foldl_add (added : List String) (b : Balancer) (other : String) :
    other ∈ (added.foldl add b).hosts ↔ other ∈ added ∨ other ∈ b.hosts := by
  induction added generalizing b with
  | nil => simp
  | cons host added ih =>
      rw [List.foldl_cons, ih, mem_hosts_add, List.mem_cons, or_assoc, or_left_comm]

/-- A new balancer chooses among the hosts it is given. -/
theorem mem_hosts_ofHosts (mode : BalanceMode) (replicas : Nat) (given : List String)
    (other : String) : other ∈ (ofHosts mode replicas given).hosts ↔ other ∈ given := by
  cases mode <;>
    simp only [ofHosts, mem_hosts_foldl_add] <;> simp [hosts, Ring.empty, Dict.contains]

/-- If the balancer is a ring, it is complete and has so many label texts for each host. -/
def Rounded (replicas : Nat) (b : Balancer) : Prop :=
  ∀ r, b = ring r → r.Complete ∧ r.replicas = replicas

/-- No host that may be given shares a point with this one, on a ring with so many label texts for
each. -/
def Alone (replicas : Nat) (given : String → Prop) (host : String) : Prop :=
  ∀ rival, given rival → rival ≠ host → Ring.Apart replicas host rival

/-- If the balancer is a ring, then every host on it that is alone with its points owns them all. -/
structure Entitled (replicas : Nat) (given : String → Prop) (b : Balancer) : Prop where
  sound : ∀ r, b = ring r → r.Sound ∧ r.replicas = replicas
  whole : ∀ r, b = ring r → ∀ host ∈ b.hosts, Alone replicas given host → r.Whole host

section Entitled

variable {replicas : Nat} {given : String → Prop} {b : Balancer}

/-- A host that comes takes points only from hosts with which it shares them. -/
theorem Entitled.add (entitled : b.Entitled replicas given) {host : String} (known : given host) :
    (b.add host).Entitled replicas given := by
  cases b with
  | turns _ => exact ⟨fun r same => absurd same (by simp [Balancer.add]),
      fun r same => absurd same (by simp [Balancer.add])⟩
  | ring s =>
      obtain ⟨sound, rfl⟩ := entitled.sound s rfl
      constructor
      · rintro r same
        obtain rfl := Balancer.ring.inj same
        exact ⟨sound.add host, Ring.replicas_add s host⟩
      · rintro r same other member alone
        obtain rfl := Balancer.ring.inj same
        rcases (mem_hosts_add (ring s) host other).1 member with rfl | before
        · by_cases present : s.hosts.contains other = true
          · exact (entitled.whole s rfl other (Dict.mem_keys.2 present) alone).add sound (Or.inl rfl)
          · exact sound.whole_add (Bool.not_eq_true _ ▸ present)
        · refine (entitled.whole s rfl other before alone).add sound ?_
          by_cases itself : host = other
          · exact Or.inl itself
          · exact Or.inr (alone host known itself)

/-- A host that goes takes no points from the others. -/
theorem Entitled.remove (entitled : b.Entitled replicas given) (host : String) :
    (b.remove host).Entitled replicas given := by
  cases b with
  | turns _ => exact ⟨fun r same => absurd same (by simp [Balancer.remove]),
      fun r same => absurd same (by simp [Balancer.remove])⟩
  | ring s =>
      obtain ⟨sound, rfl⟩ := entitled.sound s rfl
      constructor
      · rintro r same
        obtain rfl := Balancer.ring.inj same
        exact ⟨sound.remove host, Ring.replicas_remove s host⟩
      · rintro r same other member alone
        obtain rfl := Balancer.ring.inj same
        obtain ⟨different, before⟩ := (mem_hosts_remove (ring s) host other).1 member
        exact (entitled.whole s rfl other before alone).remove sound different

/-- Hosts that come one after another take points only from hosts with which they share them. -/
theorem Entitled.foldl_add (entitled : b.Entitled replicas given) {added : List String}
    (known : ∀ host ∈ added, given host) : (added.foldl Balancer.add b).Entitled replicas given := by
  induction added generalizing b with
  | nil => exact entitled
  | cons host added ih =>
      exact ih (entitled.add (known host List.mem_cons_self))
        fun other member => known other (List.mem_cons_of_mem host member)

/-- A new ring gives every host that is alone with its points all of them. -/
theorem entitled_ofHosts (mode : BalanceMode) (replicas : Nat) {hosts : List String}
    (known : ∀ host ∈ hosts, given host) :
    (ofHosts mode replicas hosts).Entitled (max replicas 1) given := by
  refine Entitled.foldl_add ?_ known
  cases mode with
  | roundRobin =>
      exact ⟨fun r same => absurd same (by simp), fun r same => absurd same (by simp)⟩
  | consistentHash =>
      constructor
      · intro r same
        obtain rfl := Balancer.ring.inj same
        exact ⟨Ring.sound_empty replicas, rfl⟩
      · intro r _ host member
        exact absurd member List.not_mem_nil

/-- A ring is complete if each host on it is alone with its points. -/
theorem Entitled.rounded (entitled : b.Entitled replicas given)
    (alone : ∀ host ∈ b.hosts, Alone replicas given host) : b.Rounded replicas := by
  rintro r rfl
  obtain ⟨sound, same⟩ := entitled.sound r rfl
  refine ⟨⟨sound, fun host present => ?_⟩, same⟩
  have member : host ∈ (ring r).hosts := Dict.mem_keys.2 present
  exact entitled.whole r rfl host member (alone host member)

end Entitled

end Balancer

/-! ### What requests and limiters leave alone -/

/-- What of a pool its hosts and probes determine. -/
structure Standing where
  pattern : String
  settings : PoolSettings
  hosts : Dict Host
  balancer : Balancer

namespace Pool

/-- The standing of a pool, in which it does not count whose turn it is. -/
def standing (p : Pool) : Standing where
  pattern := p.pattern
  settings := p.settings
  hosts := p.hosts
  balancer := p.balancer.rewound

@[simp] theorem standing_installLimiter (p : Pool) (path : String) (limiter : Limiter) :
    (p.installLimiter path limiter).standing = p.standing := rfl

@[simp] theorem standing_shutdown (p : Pool) : p.shutdown.standing = p.standing := rfl

@[simp] theorem standing_settleChecks (p : Pool) (now : Nat) :
    (p.settleChecks now).2.standing = p.standing := rfl

@[simp] theorem standing_giveBack (p : Pool) (number : Nat) :
    (p.giveBack number).2.standing = p.standing := by
  rw [giveBack]
  split <;> rfl

@[simp] theorem standing_choose (p : Pool) (client : String) :
    (p.choose client).2.standing = p.standing := by
  rw [choose]
  split
  · rfl
  · next chosen =>
      simp only [standing]
      rw [Balancer.rewound_balance chosen]

@[simp] theorem standing_serve (p : Pool) (path client : String) (number : Nat) :
    (p.serve path client number).2.standing = p.standing := by
  have kept := p.standing_choose client
  rw [serve]
  split
  · next after chosen =>
      rw [chosen] at kept
      exact kept
  · next after chosen =>
      rw [chosen] at kept
      exact (standing_giveBack after number).trans kept

@[simp] theorem standing_acquire (p : Pool) (ticket : Nat) (path client : String) (instant : Nat) :
    (p.acquire ticket path client instant).2.standing = p.standing := by
  have kept : (p.limiterFor path).2.standing = p.standing := by
    rw [limiterFor]
    split <;> rfl
  cases limited : p.limiterFor path with
  | mk number r =>
      rw [limited] at kept
      rcases acquire_spec limited ticket client instant with
        whole | ⟨l, after, -, ⟨-, whole⟩ | ⟨-, whole⟩⟩ <;> rw [whole]
      · exact kept
      · exact (standing_serve _ path client number).trans kept
      · exact kept

/-- A request that looks again leaves what hosts and probes determine alone. -/
theorem standing_look {p after : Pool} {ticket instant : Nat} {turn : Turn}
    (looked : p.look ticket instant = some (turn, after)) : after.standing = p.standing := by
  obtain ⟨w, l, left, -, -, ⟨-, whole⟩ | ⟨-, -, rfl⟩⟩ := look_spec looked
  · have kept := standing_serve ((p.putLimiter w.limiter left).dismiss ticket) w.path w.client
      w.limiter
    rwa [whole] at kept
  · rfl

/-- A request whose time is over leaves what hosts and probes determine alone. -/
theorem standing_expire {p after : Pool} {ticket : Nat} {turn : Turn}
    (expired : p.expire ticket = some (turn, after)) : after.standing = p.standing := by
  obtain ⟨w, l, -, -, -, rfl⟩ := expire_spec expired
  rfl

/-- A probe that starts leaves what hosts and verdicts determine alone. -/
theorem standing_startProbe {p after : Pool} {check now : Nat} {host : String}
    (started : p.startProbe check now = some (host, after)) : after.standing = p.standing := by
  obtain ⟨checks, rfl⟩ := startProbe_spec started
  rfl

/-! ### Everything that happens to a pool -/

/-- The pools that arise with these settings, if `given` holds of every host that they are given. -/
inductive Arises (settings : PoolSettings) (given : String → Prop) : Pool → Prop where
  | build {serial : Nat} {l : Location} {p : Pool} (built : build serial settings l = .ok p)
      (known : ∀ key ∈ l.addresses, given key) : Arises settings given p
  | addHost {p q : Pool} {raw key : String} (before : Arises settings given p)
      (added : p.addHost raw = .ok (key, q)) (known : given key) : Arises settings given q
  | removeHost {p : Pool} (before : Arises settings given p) (host : String) (checksStop : Bool) :
      Arises settings given (p.removeHost host checksStop).2
  | changeBalancer {p q : Pool} {mode : String} (before : Arises settings given p)
      (changed : p.changeBalancer mode = .ok q) : Arises settings given q
  | recordProbe {p : Pool} (before : Arises settings given p) (host : String) (reachable : Bool) :
      Arises settings given (p.recordProbe host reachable)
  | installLimiter {p : Pool} (before : Arises settings given p) (path : String)
      (limiter : Limiter) : Arises settings given (p.installLimiter path limiter)
  | acquire {p : Pool} (before : Arises settings given p) (ticket : Nat) (path client : String)
      (instant : Nat) : Arises settings given (p.acquire ticket path client instant).2
  | look {p q : Pool} {ticket instant : Nat} {turn : Turn} (before : Arises settings given p)
      (looked : p.look ticket instant = some (turn, q)) : Arises settings given q
  | expire {p q : Pool} {ticket : Nat} {turn : Turn} (before : Arises settings given p)
      (expired : p.expire ticket = some (turn, q)) : Arises settings given q
  | giveBack {p : Pool} (before : Arises settings given p) (number : Nat) :
      Arises settings given (p.giveBack number).2
  | settleChecks {p : Pool} (before : Arises settings given p) (now : Nat) :
      Arises settings given (p.settleChecks now).2
  | startProbe {p q : Pool} {check now : Nat} {host : String} (before : Arises settings given p)
      (started : p.startProbe check now = some (host, q)) : Arises settings given q
  | endProbe {p q : Pool} {check next : Nat} {reachable : Bool} (before : Arises settings given p)
      (ended : p.endProbe check reachable = some (next, q)) : Arises settings given q
  | shutdown {p : Pool} (before : Arises settings given p) : Arises settings given p.shutdown

/-- A property of standings that building, hosts, balancers and probes establish and keep. -/
structure Stands (settings : PoolSettings) (given : String → Prop) (holds : Pool → Prop) :
    Prop where
  alike : ∀ {p q : Pool}, q.standing = p.standing → holds p → holds q
  build : ∀ {serial : Nat} {l : Location} {p : Pool}, Pool.build serial settings l = .ok p →
    (∀ key ∈ l.addresses, given key) → holds p
  addHost : ∀ {p q : Pool} {raw key : String}, holds p → p.addHost raw = .ok (key, q) →
    given key → holds q
  removeHost : ∀ {p : Pool}, holds p → ∀ host checksStop, holds (p.removeHost host checksStop).2
  changeBalancer : ∀ {p q : Pool} {mode : String}, holds p → p.changeBalancer mode = .ok q →
    holds q
  recordProbe : ∀ {p : Pool}, holds p → ∀ host reachable, holds (p.recordProbe host reachable)

variable {settings : PoolSettings} {given : String → Prop} {p : Pool}

/-- What stands holds of every pool that arises. -/
theorem Arises.keeps {holds : Pool → Prop} (stands : Stands settings given holds)
    (arises : p.Arises settings given) : holds p := by
  induction arises with
  | build built known => exact stands.build built known
  | addHost _ added known ih => exact stands.addHost ih added known
  | removeHost _ host checksStop ih => exact stands.removeHost ih host checksStop
  | changeBalancer _ changed ih => exact stands.changeBalancer ih changed
  | recordProbe _ host reachable ih => exact stands.recordProbe ih host reachable
  | installLimiter _ path limiter ih => exact stands.alike (standing_installLimiter _ _ _) ih
  | acquire _ ticket path client instant ih => exact stands.alike (standing_acquire _ _ _ _ _) ih
  | look _ looked ih => exact stands.alike (standing_look looked) ih
  | expire _ expired ih => exact stands.alike (standing_expire expired) ih
  | giveBack _ number ih => exact stands.alike (standing_giveBack _ _) ih
  | settleChecks _ now ih => exact stands.alike (standing_settleChecks _ _) ih
  | startProbe _ started ih => exact stands.alike (standing_startProbe started) ih
  | endProbe _ ended ih =>
      obtain ⟨checks, host, rfl⟩ := endProbe_spec ended
      exact stands.recordProbe (stands.alike (by rfl) ih) host _
  | shutdown _ ih => exact stands.alike (standing_shutdown _) ih

/-! ### The hosts that are alive -/

/-- The liveness of hosts, by host. -/
def liveness (p : Pool) : Dict Bool := p.hosts.map fun _ h => h.alive

theorem get?_liveness (p : Pool) (host : String) : p.liveness.get? host = p.isAlive host :=
  Dict.get?_map _ p.hosts host

/-- The hosts alive are those that are listed so. -/
theorem mem_aliveHosts {host : String} : host ∈ p.aliveHosts ↔ p.isAlive host = some true := by
  rw [aliveHosts, isAlive, Dict.keys, List.mem_map, Option.map_eq_some_iff]
  constructor
  · rintro ⟨⟨key, h⟩, member, rfl⟩
    obtain ⟨present, alive⟩ := List.mem_filter.1 member
    exact ⟨h, Dict.get?_eq_some_iff.2 present, alive⟩
  · rintro ⟨h, found, alive⟩
    exact ⟨(host, h), List.mem_filter.2 ⟨Dict.get?_eq_some_iff.1 found, alive⟩, rfl⟩

@[simp] theorem isAlive_startCheck (p : Pool) (host other : String) :
    (p.startCheck host).isAlive other = p.isAlive other := by
  rw [startCheck]
  split
  · rfl
  · simp only [isAlive, Dict.get?_modify]
    split
    · rw [Option.map_map]
      rfl
    · rfl

@[simp] theorem settings_startCheck (p : Pool) (host : String) :
    (p.startCheck host).settings = p.settings := by
  rw [startCheck]
  split <;> rfl

@[simp] theorem balancer_startCheck (p : Pool) (host : String) :
    (p.startCheck host).balancer = p.balancer := by
  rw [startCheck]
  split <;> rfl

/-- What is told by the hosts and by the balancer: the balancer chooses among the hosts that are
alive, each of which was given. -/
structure Balanced (settings : PoolSettings) (given : String → Prop) (p : Pool) : Prop where
  settings : p.settings = settings
  known : ∀ host, (p.isAlive host).isSome = true → given host
  chosen : ∀ host, host ∈ p.balancer.hosts ↔ p.isAlive host = some true

/-- The balancer chooses among hosts that were given. -/
theorem Balanced.given_of_chosen (balanced : p.Balanced settings given) {host : String}
    (member : host ∈ p.balancer.hosts) : given host :=
  balanced.known host (by rw [(balanced.chosen host).1 member]; rfl)

/-- The hosts alive were given. -/
theorem Balanced.given_of_alive (balanced : p.Balanced settings given) {host : String}
    (member : host ∈ p.aliveHosts) : given host :=
  balanced.known host (by rw [mem_aliveHosts.1 member]; rfl)

/-- What is told by the hosts and by the balancer depends on the standing of the pool alone. -/
theorem Balanced.of_standing {q : Pool} (balanced : p.Balanced settings given)
    (same : q.standing = p.standing) : q.Balanced settings given := by
  simp only [standing, Standing.mk.injEq] at same
  obtain ⟨-, settings, hosts, balancer⟩ := same
  have alive (host : String) : q.isAlive host = p.isAlive host := by rw [isAlive, hosts]; rfl
  have chosen : q.balancer.hosts = p.balancer.hosts := by
    rw [← Balancer.hosts_rewound, balancer, Balancer.hosts_rewound]
  exact ⟨settings.trans balanced.settings, fun host => alive host ▸ balanced.known host,
    fun host => by rw [chosen, alive, balanced.chosen]⟩

/-- The hosts that are gathered from backends are alive, and are listed with their addresses. -/
theorem foldlM_gather_spec {backends : List String} {found after : Dict Host × List String}
    (done : backends.foldlM gather found = .ok after)
    (alive : ∀ key, (found.1.get? key).map (·.alive) = if key ∈ found.2 then some true else none) :
    (∀ key, (after.1.get? key).map (·.alive) = if key ∈ after.2 then some true else none) ∧
      ∀ key ∈ after.2, key ∈ found.2 ∨ key ∈ backends.filterMap Backend.address? := by
  induction backends generalizing found with
  | nil =>
      obtain rfl := Except.ok.inj done
      exact ⟨alive, fun key member => Or.inl member⟩
  | cons raw backends ih =>
      rw [List.foldlM_cons, gather] at done
      cases read : Backend.parse raw with
      | error error =>
          rw [read] at done
          exact absurd done (by simp [bind, Except.bind])
      | ok url =>
          have address : Backend.address? raw = some url.address := by
            rw [Backend.address?, read]
            rfl
          rw [read] at done
          rw [List.filterMap_cons, address]
          dsimp only at done ⊢
          -- A backend whose host is there already adds nothing; else its host comes last.
          split at done
          · obtain ⟨kept, listed⟩ := ih done alive
            exact ⟨kept, fun key member => (listed key member).imp_right (List.mem_cons_of_mem _)⟩
          · obtain ⟨kept, listed⟩ := ih done fun key => by
              rw [Dict.get?_insert]
              by_cases same : url.address = key
              · simp [same]
              · simp [same, alive key, Ne.symm same]
            refine ⟨kept, fun key member => ?_⟩
            rcases listed key member with earlier | later
            · rcases List.mem_append.1 earlier with earlier | here
              · exact Or.inl earlier
              · exact Or.inr (List.mem_cons.2 (Or.inl (List.mem_singleton.1 here)))
            · exact Or.inr (List.mem_cons_of_mem _ later)

/-- What is built has the settings, and all its hosts are alive and stand in its new balancer. -/
theorem build_spec {serial : Nat} {l : Location} (built : build serial settings l = .ok p) :
    ∃ (mode : BalanceMode) (order : List String),
      p.settings = settings ∧ p.balancer = Balancer.ofHosts mode settings.replicas order ∧
      (∀ key, p.isAlive key = if key ∈ order then some true else none) ∧
      ∀ key ∈ order, key ∈ l.addresses := by
  obtain ⟨hosts, order, balancer, gathered, chosen, rfl⟩ := stages_of_build built
  obtain ⟨mode, -, rfl⟩ := Balancer.build_eq_ok_iff.1 chosen
  obtain ⟨alive, listed⟩ := foldlM_gather_spec gathered fun key => by simp
  have checked (keys : List String) (q : Pool) :
      (keys.foldl startCheck q).settings = q.settings ∧
        (keys.foldl startCheck q).balancer = q.balancer ∧
        ∀ key, (keys.foldl startCheck q).isAlive key = q.isAlive key := by
    induction keys generalizing q with
    | nil => exact ⟨rfl, rfl, fun _ => rfl⟩
    | cons key keys ih =>
        obtain ⟨settings, balancer, alive⟩ := ih (q.startCheck key)
        exact ⟨settings.trans (settings_startCheck q key),
          balancer.trans (balancer_startCheck q key),
          fun other => (alive other).trans (isAlive_startCheck q key other)⟩
  obtain ⟨kept, same, live⟩ := checked hosts.keys
    { serial, pattern := l.pattern, hosts, settings
      balancer := Balancer.ofHosts mode settings.replicas order }
  refine ⟨mode, order, kept, same, fun key => (live key).trans (alive key), fun key member => ?_⟩
  rw [Location.addresses, List.mem_eraseDups]
  exact (listed key member).resolve_left List.not_mem_nil

/-- A host that is added is there already, or comes alive. -/
theorem addHost_spec {q : Pool} {raw key : String} (added : p.addHost raw = .ok (key, q)) :
    q = p ∨ q.settings = p.settings ∧ q.balancer = p.balancer.add key ∧
      ∀ host, q.isAlive host = if key = host then some true else p.isAlive host := by
  rw [addHost] at added
  split at added
  · exact absurd added (by simp)
  · next url _ =>
      dsimp only at added
      split at added
      · obtain ⟨-, rfl⟩ := Prod.mk.inj (Except.ok.inj added)
        exact Or.inl rfl
      · obtain ⟨rfl, rfl⟩ := Prod.mk.inj (Except.ok.inj added)
        refine Or.inr ⟨settings_startCheck _ _, balancer_startCheck _ _, fun host => ?_⟩
        rw [isAlive_startCheck, isAlive, isAlive, Dict.get?_insert]
        split <;> rfl

/-- A host that is removed is gone from the pool and from the balancer. -/
theorem removeHost_spec (p : Pool) (host : String) (checksStop : Bool) :
    (p.removeHost host checksStop).2 = p ∨
      (p.removeHost host checksStop).2.settings = p.settings ∧
      (p.removeHost host checksStop).2.balancer = p.balancer.remove host ∧
      ∀ other, (p.removeHost host checksStop).2.isAlive other =
        if host = other then none else p.isAlive other := by
  rw [removeHost]
  split
  · refine Or.inr ⟨?_, rfl, fun other => ?_⟩
    · rw [stopCheck]
      split <;> rfl
    · simp only [isAlive, Dict.get?_erase]
      split <;> rfl
  · exact Or.inl rfl

/-- A verdict that is news moves the host in or out of the balancer. -/
theorem recordProbe_spec (p : Pool) (host : String) (reachable : Bool) :
    p.recordProbe host reachable = p ∨
      (p.isAlive host).isSome = true ∧
      (p.recordProbe host reachable).settings = p.settings ∧
      (p.recordProbe host reachable).balancer =
        (if reachable then p.balancer.add host else p.balancer.remove host) ∧
      ∀ other, (p.recordProbe host reachable).isAlive other =
        if host = other then some reachable else p.isAlive other := by
  rw [recordProbe]
  split
  · exact Or.inl rfl
  · next h found =>
      split
      · exact Or.inl rfl
      · refine Or.inr ⟨by rw [isAlive, found]; rfl, rfl, rfl, fun other => ?_⟩
        simp only [isAlive, Dict.get?_insert]
        split <;> rfl

/-- A balancer that is changed is built anew from the hosts alive, and nothing else changes. -/
theorem changeBalancer_spec {q : Pool} {mode : String} (changed : p.changeBalancer mode = .ok q) :
    ∃ balancer, Balancer.build mode p.settings.replicas p.aliveHosts = .ok balancer ∧
      q = { p with balancer } := by
  rw [changeBalancer] at changed
  split at changed
  · next built => exact ⟨_, built, (Except.ok.inj changed).symm⟩
  · exact absurd changed (by simp)

/-- In every pool that is built and goes on, the balancer chooses among the hosts alive. -/
theorem stands_balanced (settings : PoolSettings) (given : String → Prop) :
    Stands settings given (Balanced settings given) where
  alike same balanced := balanced.of_standing same
  build built known := by
    obtain ⟨mode, order, kept, balancer, alive, listed⟩ := build_spec built
    refine ⟨kept, fun host present => ?_, fun host => ?_⟩
    · rw [alive] at present
      split at present
      · next member => exact known host (listed host member)
      · exact absurd present (by simp)
    · rw [balancer, Balancer.mem_hosts_ofHosts, alive]
      simp
  addHost balanced added known := by
    rcases addHost_spec added with rfl | ⟨settings, balancer, alive⟩
    · exact balanced
    · refine ⟨settings.trans balanced.settings, fun host present => ?_, fun host => ?_⟩
      · rw [alive] at present
        split at present
        · next same => exact same ▸ known
        · exact balanced.known host present
      · rw [balancer, Balancer.mem_hosts_add, balanced.chosen, alive]
        split
        · next same => simp [same]
        · next different => simp [Ne.symm different]
  removeHost {p} balanced host checksStop := by
    rcases p.removeHost_spec host checksStop with same | ⟨settings, balancer, alive⟩
    · rw [same]
      exact balanced
    · refine ⟨settings.trans balanced.settings, fun other present => ?_, fun other => ?_⟩
      · rw [alive] at present
        split at present
        · exact absurd present (by simp)
        · exact balanced.known other present
      · rw [balancer, Balancer.mem_hosts_remove, balanced.chosen, alive]
        split
        · next same => simp [same]
        · next different => simp [Ne.symm different]
  changeBalancer balanced changed := by
    obtain ⟨balancer, built, rfl⟩ := changeBalancer_spec changed
    obtain ⟨mode, -, rfl⟩ := Balancer.build_eq_ok_iff.1 built
    refine ⟨balanced.settings, balanced.known, fun host => ?_⟩
    rw [Balancer.mem_hosts_ofHosts]
    exact mem_aliveHosts
  -- A verdict puts a host on the balancer or takes it off, just as the host comes to life or dies.
  recordProbe {p} balanced host reachable := by
    rcases p.recordProbe_spec host reachable with same | ⟨present, settings, balancer, alive⟩
    · rw [same]
      exact balanced
    · refine ⟨settings.trans balanced.settings, fun other there => ?_, fun other => ?_⟩
      · rw [alive] at there
        split at there
        · next same => exact same ▸ balanced.known host present
        · exact balanced.known other there
      · rw [balancer, alive]
        cases reachable with
        | true =>
            rw [if_pos rfl, Balancer.mem_hosts_add, balanced.chosen]
            split
            · next same => simp [same]
            · next different => simp [Ne.symm different]
        | false =>
            rw [if_neg (by decide), Balancer.mem_hosts_remove, balanced.chosen]
            split
            · next same => simp [same]
            · next different => simp [Ne.symm different]

/-- In every pool that arises the balancer chooses among the hosts that are alive. -/
theorem Arises.balanced (arises : p.Arises settings given) : p.Balanced settings given :=
  arises.keeps (stands_balanced settings given)

/-! ### The ring of a pool -/

/-- A property of balancers stands if new balancers have it and if it is kept by hosts that come and
go; all of them are among the hosts that are given. -/
theorem stands_balancer (holds : Balancer → Prop)
    (alike : ∀ {b c : Balancer}, c.rewound = b.rewound → holds b → holds c)
    (ofHosts : ∀ mode {hosts : List String}, (∀ host ∈ hosts, given host) →
      holds (Balancer.ofHosts mode settings.replicas hosts))
    (add : ∀ {b : Balancer}, holds b → (∀ other ∈ b.hosts, given other) → ∀ {host}, given host →
      holds (b.add host))
    (remove : ∀ {b : Balancer}, holds b → ∀ host, holds (b.remove host)) :
    Stands settings given fun p => p.Balanced settings given ∧ holds p.balancer where
  alike {p q} same both :=
    ⟨both.1.of_standing same, alike (congrArg Standing.balancer same) both.2⟩
  build {serial l p} built known := by
    obtain ⟨mode, order, -, balancer, -, listed⟩ := build_spec built
    refine ⟨(stands_balanced settings given).build built known, ?_⟩
    rw [balancer]
    exact ofHosts mode fun host member => known host (listed host member)
  addHost both added known := by
    refine ⟨(stands_balanced settings given).addHost both.1 added known, ?_⟩
    rcases addHost_spec added with rfl | ⟨-, balancer, -⟩
    · exact both.2
    · rw [balancer]
      exact add both.2 (fun _ => both.1.given_of_chosen) known
  removeHost {p} both host checksStop := by
    refine ⟨(stands_balanced settings given).removeHost both.1 host checksStop, ?_⟩
    rcases p.removeHost_spec host checksStop with same | ⟨-, balancer, -⟩
    · rw [same]
      exact both.2
    · rw [balancer]
      exact remove both.2 host
  changeBalancer both changed := by
    refine ⟨(stands_balanced settings given).changeBalancer both.1 changed, ?_⟩
    obtain ⟨balancer, built, rfl⟩ := changeBalancer_spec changed
    obtain ⟨mode, -, rfl⟩ := Balancer.build_eq_ok_iff.1 built
    rw [both.1.settings]
    exact ofHosts mode fun _ => both.1.given_of_alive
  recordProbe {p} both host reachable := by
    refine ⟨(stands_balanced settings given).recordProbe both.1 host reachable, ?_⟩
    rcases p.recordProbe_spec host reachable with same | ⟨present, -, balancer, -⟩
    · rw [same]
      exact both.2
    · rw [balancer]
      split
      · exact add both.2 (fun _ => both.1.given_of_chosen) (both.1.known host present)
      · exact remove both.2 host

/-- On the ring of every pool that arises, a host that is alone with its points owns them all. -/
theorem Arises.entitled (arises : p.Arises settings given) :
    p.balancer.Entitled (max settings.replicas 1) given := by
  refine (arises.keeps (stands_balancer (Balancer.Entitled _ given) ?_ ?_ ?_ ?_)).2
  · intro b c same entitled
    have rings (r : Ring) : c = .ring r → b = .ring r := fun ring => by
      rw [← Balancer.rewound_eq_ring_iff, ← same, Balancer.rewound_eq_ring_iff]
      exact ring
    have hosts : c.hosts = b.hosts := by
      rw [← Balancer.hosts_rewound, same, Balancer.hosts_rewound]
    exact ⟨fun r ring => entitled.sound r (rings r ring),
      fun r ring host member => entitled.whole r (rings r ring) host (hosts ▸ member)⟩
  · exact fun mode hosts known => Balancer.entitled_ofHosts mode settings.replicas known
  · exact fun entitled _ _ known => entitled.add known
  · exact fun entitled host => entitled.remove host

end Pool

end ClusterGateway
