import ClusterGateway.Proofs.Pool.Permits

/-! # A pool without its requests

Take away from a pool its limiters, the requests that wait, and whose turn it is: what is left are
its hosts, how they are chosen among and how they are checked. Whatever is done to a pool other than
for a request does the same to what is left as to the whole.
-/

namespace ClusterGateway

namespace Balancer

/-- Adding a host does not depend on whose turn it is. -/
@[simp] theorem rewound_add (b : Balancer) (host : String) :
    (b.add host).rewound = b.rewound.add host := by
  cases b with
  | turns r =>
      simp only [add, rewound, RoundRobin.add]
      split <;> rfl
  | ring r => rfl

@[simp] theorem rewound_remove (b : Balancer) (host : String) :
    (b.remove host).rewound = b.rewound.remove host := by
  cases b <;> rfl

theorem mode_rewound (b : Balancer) : b.rewound.mode = b.mode := by
  cases b <;> rfl

/-- A new balancer has taken no turn yet. -/
@[simp] theorem rewound_ofHosts (mode : BalanceMode) (replicas : Nat) (hosts : List String) :
    (ofHosts mode replicas hosts).rewound = ofHosts mode replicas hosts := by
  have added (hosts : List String) {b : Balancer} (fresh : b.rewound = b) :
      (hosts.foldl add b).rewound = hosts.foldl add b := by
    induction hosts generalizing b with
    | nil => exact fresh
    | cons host hosts ih => exact ih (by rw [rewound_add, fresh])
  cases mode <;> exact added hosts rfl

end Balancer

namespace Pool

/-- A pool without limiters and waiting requests, and before any turn was taken. -/
def bare (p : Pool) : Pool :=
  { p with balancer := p.balancer.rewound, limiters := [], installed := ∅, waiting := [] }

variable {p q : Pool}

theorem serial_eq_of_bare (same : q.bare = p.bare) : q.serial = p.serial :=
  show q.bare.serial = p.bare.serial by rw [same]

theorem pattern_eq_of_bare (same : q.bare = p.bare) : q.pattern = p.pattern :=
  show q.bare.pattern = p.bare.pattern by rw [same]

theorem hosts_eq_of_bare (same : q.bare = p.bare) : q.hosts = p.hosts :=
  show q.bare.hosts = p.bare.hosts by rw [same]

/-- Pools that are bare alike have balancers that differ at most in whose turn it is. -/
theorem rewound_eq_of_bare (same : q.bare = p.bare) : q.balancer.rewound = p.balancer.rewound :=
  show q.bare.balancer = p.bare.balancer by rw [same]

/-- Pools that are bare alike balance in one mode. -/
theorem mode_eq_of_bare (same : q.bare = p.bare) : q.balancer.mode = p.balancer.mode := by
  rw [← Balancer.mode_rewound, rewound_eq_of_bare same, Balancer.mode_rewound]

theorem outline_eq_of_bare (same : q.bare = p.bare) : q.outline = p.outline := by
  rw [outline, outline, serial_eq_of_bare same, pattern_eq_of_bare same, hosts_eq_of_bare same,
    mode_eq_of_bare same]

/-! ### Changes of hosts, checks and balancers -/

@[simp] theorem aliveHosts_bare (p : Pool) : p.bare.aliveHosts = p.aliveHosts := rfl

/-- Starting to check a host has nothing to do with limiters and requests. -/
theorem bare_startCheck (p : Pool) (host : String) :
    p.bare.startCheck host = (p.startCheck host).bare := by
  by_cases unchecked : p.settings.checkInterval.isNone = true <;>
    simp [startCheck, bare, unchecked]

theorem bare_addHost (p : Pool) (raw : String) :
    p.bare.addHost raw = (p.addHost raw).map fun added => (added.1, added.2.bare) := by
  rw [addHost, addHost]
  cases Backend.parse raw with
  | error error => rfl
  | ok target =>
      by_cases present : p.hosts.contains target.address = true
      · simp [bare, present, Except.map]
      · have joined := bare_startCheck { p with
          hosts := p.hosts.insert target.address { target }
          balancer := p.balancer.add target.address } target.address
        simp only [bare, Balancer.rewound_add] at joined
        simp [bare, present, Except.map, joined]

theorem bare_stopCheck (p : Pool) (host : String) :
    p.bare.stopCheck host = (p.stopCheck host).bare := by
  cases checked : (p.hosts.get? host).bind (·.check) <;> simp [stopCheck, bare, checked]

theorem bare_removeHost (p : Pool) (host : String) (checksStop : Bool) :
    p.bare.removeHost host checksStop =
      ((p.removeHost host checksStop).1, (p.removeHost host checksStop).2.bare) := by
  have checked : p.bare.isChecked host = p.isChecked host := rfl
  by_cases present : p.hosts.contains host = true
  · have here : p.bare.hosts.contains host = true := present
    rw [removeHost, removeHost, if_pos present, if_pos here, checked, bare_stopCheck]
    simp [bare]
  · have absent : ¬ p.bare.hosts.contains host = true := present
    rw [removeHost, removeHost, if_neg present, if_neg absent]
    rfl

theorem bare_recordProbe (p : Pool) (host : String) (reachable : Bool) :
    p.bare.recordProbe host reachable = (p.recordProbe host reachable).bare := by
  have hosts : p.bare.hosts = p.hosts := rfl
  rw [recordProbe, recordProbe, hosts]
  cases p.hosts.get? host with
  | none => rfl
  | some h =>
      by_cases same : h.alive = reachable
      · simp [same]
      · cases reachable <;> simp [same, bare]

theorem bare_changeBalancer (p : Pool) (mode : String) :
    p.bare.changeBalancer mode = (p.changeBalancer mode).map bare := by
  have settings : p.bare.settings = p.settings := rfl
  rw [changeBalancer, changeBalancer, aliveHosts_bare, settings]
  cases built : Balancer.build mode p.settings.replicas p.aliveHosts with
  | error error => rfl
  | ok balancer =>
      obtain ⟨mode, -, rfl⟩ := Balancer.build_eq_ok_iff.1 built
      simp [Except.map, bare]

theorem bare_shutdown (p : Pool) : p.bare.shutdown = p.shutdown.bare := rfl

theorem bare_settleChecks (p : Pool) (now : Nat) :
    (p.bare.settleChecks now).2 = (p.settleChecks now).2.bare := rfl

theorem bare_startProbe (p : Pool) (check now : Nat) :
    p.bare.startProbe check now =
      (p.startProbe check now).map fun started => (started.1, started.2.bare) := by
  simp only [startProbe, bare]
  cases p.checks[check]? with
  | none => rfl
  | some l =>
      dsimp only [Option.bind_eq_bind, Option.bind_some]
      split
      · split <;> rfl
      · rfl

theorem bare_endProbe (p : Pool) (check : Nat) (reachable : Bool) :
    p.bare.endProbe check reachable =
      (p.endProbe check reachable).map fun ended => (ended.1, ended.2.bare) := by
  simp only [endProbe]
  have loops : p.bare.checks = p.checks := rfl
  rw [loops]
  cases p.checks[check]? with
  | none => rfl
  | some l =>
      dsimp only [Option.bind_eq_bind, Option.bind_some]
      split
      · rw [Option.map_some, ← bare_recordProbe]
        rfl
      · rfl

/-! ### Hosts to choose among -/

/-- Choosing a host changes a pool at most in whose turn it is. -/
theorem bare_choose (p : Pool) (client : String) : (p.choose client).2.bare = p.bare := by
  rw [choose]
  split
  · rfl
  · next chosen =>
      simp only [bare]
      rw [Balancer.rewound_balance chosen]

/-- Only hosts of the pool are chosen. -/
def Stocked (p : Pool) : Prop := ∀ host ∈ p.balancer.hosts, (p.isAlive host).isSome = true

/-- Whether only hosts of the pool are chosen can be told from the bare pool. -/
theorem Stocked.of_bare (stocked : p.Stocked) (same : q.bare = p.bare) : q.Stocked := by
  intro host member
  rw [← Balancer.hosts_rewound, rewound_eq_of_bare same, Balancer.hosts_rewound] at member
  rw [isAlive, hosts_eq_of_bare same]
  exact stocked host member

/-- A host that comes is one of the pool before it is chosen. -/
theorem Stocked.addHost (stocked : p.Stocked) {raw key : String}
    (added : p.addHost raw = .ok (key, q)) : q.Stocked := by
  rcases addHost_spec added with rfl | ⟨-, balancer, alive⟩
  · exact stocked
  · intro host member
    rw [alive]
    split
    · rfl
    · next other =>
        rw [balancer, Balancer.mem_hosts_add] at member
        exact stocked host (member.resolve_left (Ne.symm other))

/-- A host that goes is not chosen any more. -/
theorem Stocked.removeHost (stocked : p.Stocked) (host : String) (checksStop : Bool) :
    (p.removeHost host checksStop).2.Stocked := by
  rcases p.removeHost_spec host checksStop with same | ⟨-, balancer, alive⟩
  · rwa [same]
  · intro other member
    rw [balancer, Balancer.mem_hosts_remove] at member
    rw [alive, if_neg member.1.symm]
    exact stocked other member.2

/-- A verdict lets only a host of the pool be chosen. -/
theorem Stocked.recordProbe (stocked : p.Stocked) (host : String) (reachable : Bool) :
    (p.recordProbe host reachable).Stocked := by
  rcases p.recordProbe_spec host reachable with same | ⟨-, -, balancer, alive⟩
  · rwa [same]
  · intro other member
    rw [alive]
    split
    · rfl
    · next different =>
        rw [balancer] at member
        split at member
        · rw [Balancer.mem_hosts_add] at member
          exact stocked other (member.resolve_left (Ne.symm different))
        · rw [Balancer.mem_hosts_remove] at member
          exact stocked other member.2

/-- A new balancer chooses among the hosts alive, so among those of the pool. -/
theorem stocked_changeBalancer {mode : String} (changed : p.changeBalancer mode = .ok q) :
    q.Stocked := by
  obtain ⟨balancer, built, rfl⟩ := changeBalancer_spec changed
  obtain ⟨mode, -, rfl⟩ := Balancer.build_eq_ok_iff.1 built
  intro host member
  rw [Balancer.mem_hosts_ofHosts, mem_aliveHosts] at member
  exact Option.isSome_iff_exists.2 ⟨true, member⟩

/-- A probe that starts changes neither the hosts nor the balancer. -/
theorem Stocked.startProbe (stocked : p.Stocked) {check now : Nat} {host : String}
    (started : p.startProbe check now = some (host, q)) : q.Stocked := by
  obtain ⟨checks, rfl⟩ := startProbe_spec started
  exact stocked

theorem Stocked.endProbe (stocked : p.Stocked) {check next : Nat} {reachable : Bool}
    (ended : p.endProbe check reachable = some (next, q)) : q.Stocked := by
  obtain ⟨checks, host, rfl⟩ := endProbe_spec ended
  exact Stocked.recordProbe (p := { p with checks }) stocked host reachable

/-- In a pool that was built only its hosts are chosen. -/
theorem stocked_of_build {serial : Nat} {settings : PoolSettings} {l : Location}
    (built : build serial settings l = .ok p) : p.Stocked := by
  obtain ⟨mode, order, -, balancer, alive, -⟩ := build_spec built
  intro host member
  rw [balancer, Balancer.mem_hosts_ofHosts] at member
  rw [alive, if_pos member]
  rfl

end Pool

end ClusterGateway
