import ClusterGateway.Pool.Admission
import ClusterGateway.Proofs.Dictionary

/-! # What of a pool its location determines

The outline of a pool is its number, its pattern, the targets of its hosts and the mode of its
balancer. Requests and checks change a pool in many ways but never its outline; what builds a pool
or changes its hosts or balancer changes the outline just as the location is changed.
-/

namespace ClusterGateway

/-! ### Balancers -/

namespace BalanceMode

/-- A mode is found just under its own name. -/
theorem ofName_eq_ok_iff {name : String} {mode : BalanceMode} :
    ofName name = .ok mode ↔ mode.name = name := by
  rw [ofName]
  constructor
  · intro known
    split at known
    · next same => rw [← Except.ok.inj known, same]
    · split at known
      · next same => rw [← Except.ok.inj known, same]
      · exact absurd known (by simp)
  · rintro rfl
    cases mode <;> rfl

/-- The names of modes are those in the list. -/
theorem mem_names {name : String} : name ∈ names ↔ ∃ mode : BalanceMode, mode.name = name := by
  constructor
  · intro listed
    simp only [names, List.mem_cons, List.not_mem_nil, or_false] at listed
    rcases listed with rfl | rfl
    · exact ⟨.consistentHash, rfl⟩
    · exact ⟨.roundRobin, rfl⟩
  · rintro ⟨mode, rfl⟩
    cases mode <;> decide

end BalanceMode

namespace Balancer

@[simp] theorem mode_add (b : Balancer) (host : String) : (b.add host).mode = b.mode := by
  cases b <;> rfl

@[simp] theorem mode_remove (b : Balancer) (host : String) : (b.remove host).mode = b.mode := by
  cases b <;> rfl

/-- Hosts that come do not change the mode. -/
theorem mode_foldl_add (hosts : List String) (b : Balancer) :
    (hosts.foldl add b).mode = b.mode := by
  induction hosts generalizing b with
  | nil => rfl
  | cons host hosts ih => rw [List.foldl_cons, ih, mode_add]

@[simp] theorem mode_ofHosts (mode : BalanceMode) (replicas : Nat) (hosts : List String) :
    (ofHosts mode replicas hosts).mode = mode := by
  cases mode <;> exact mode_foldl_add hosts _

/-- Choosing a host does not change the mode. -/
theorem mode_balance {b after : Balancer} {key host : String}
    (chosen : b.balance key = .ok (host, after)) : after.mode = b.mode := by
  cases b with
  | turns r =>
      simp only [balance] at chosen
      split at chosen
      · obtain ⟨_, rfl⟩ := Prod.mk.inj (Except.ok.inj chosen)
        rfl
      · exact absurd chosen (by simp)
  | ring r =>
      simp only [balance] at chosen
      split at chosen
      · obtain ⟨_, rfl⟩ := Prod.mk.inj (Except.ok.inj chosen)
        rfl
      · exact absurd chosen (by simp)

/-- Only the name of a mode builds a balancer, and it builds one of that mode. -/
theorem build_eq_ok_iff {name : String} {replicas : Nat} {hosts : List String} {b : Balancer} :
    build name replicas hosts = .ok b ↔
      ∃ mode : BalanceMode, mode.name = name ∧ ofHosts mode replicas hosts = b := by
  rw [build]
  cases known : BalanceMode.ofName name with
  | ok mode =>
      have same := BalanceMode.ofName_eq_ok_iff.1 known
      constructor
      · intro built
        exact ⟨mode, same, Except.ok.inj built⟩
      · rintro ⟨other, named, rfl⟩
        rw [BalanceMode.ofName_eq_ok_iff.2 named, Except.ok.injEq] at known
        subst known
        rfl
  | error fault =>
      constructor
      · intro built
        exact absurd built (by simp [Except.map])
      · rintro ⟨mode, named, _⟩
        rw [BalanceMode.ofName_eq_ok_iff.2 named] at known
        exact absurd known (by simp)

end Balancer

/-! ### Backends -/

namespace Backend

/-- A backend has the address of the URL that it is read as. -/
theorem address?_eq_some_iff {raw key : String} :
    address? raw = some key ↔ ∃ url, parse raw = .ok url ∧ url.address = key := by
  rw [address?]
  cases parse raw <;> simp [Except.toOption]

/-- The target of the first backend with an address. -/
def firstAt? (backends : List String) (key : String) : Option WebUrl :=
  (backends.find? (address? · = some key)).bind fun raw => (parse raw).toOption

@[simp] theorem firstAt?_nil (key : String) : firstAt? [] key = none := rfl

/-- The first backend with an address is the first of the list if it has this address, and otherwise
one of the others. -/
theorem firstAt?_cons {raw : String} {url : WebUrl} (read : parse raw = .ok url)
    (backends : List String) (key : String) :
    firstAt? (raw :: backends) key =
      if url.address = key then some url else firstAt? backends key := by
  have address : address? raw = some url.address := by rw [address?, read]; rfl
  rw [firstAt?, List.find?_cons, address]
  by_cases same : url.address = key
  · simp [same, read, Except.toOption]
  · simp [same, firstAt?]

/-- There is a first backend with an address just if there is one with it. -/
theorem isSome_firstAt? {backends : List String} {key : String} :
    (firstAt? backends key).isSome = true ↔ ∃ raw ∈ backends, address? raw = some key := by
  constructor
  · intro found
    obtain ⟨url, first⟩ := Option.isSome_iff_exists.1 found
    obtain ⟨raw, named, _⟩ := Option.bind_eq_some_iff.1 first
    exact ⟨raw, List.mem_of_find?_eq_some named, by simpa using List.find?_some named⟩
  · rintro ⟨raw, member, address⟩
    cases named : backends.find? (address? · = some key) with
    | none => exact absurd address (by simpa using List.find?_eq_none.1 named raw member)
    | some first =>
        have same : address? first = some key := by simpa using List.find?_some named
        obtain ⟨url, read, _⟩ := address?_eq_some_iff.1 same
        rw [firstAt?, named, Option.bind_some, read]
        rfl

/-- A backend at the end of the list is the first with its address if no other one has it. -/
theorem firstAt?_append {raw : String} {url : WebUrl} (read : parse raw = .ok url)
    (backends : List String) (key : String) :
    firstAt? (backends ++ [raw]) key =
      (firstAt? backends key).or (if url.address = key then some url else none) := by
  rw [firstAt?, List.find?_append]
  cases named : backends.find? (address? · = some key) with
  | none =>
      have last := firstAt?_cons read [] key
      rw [firstAt?, firstAt?_nil] at last
      rw [Option.none_or, firstAt?, named]
      exact last
  | some first =>
      have found : (firstAt? backends key).isSome = true :=
        isSome_firstAt?.2 ⟨first, List.mem_of_find?_eq_some named,
          by simpa using List.find?_some named⟩
      obtain ⟨target, whole⟩ := Option.isSome_iff_exists.1 found
      rw [whole, Option.some_or, Option.some_or, ← whole, firstAt?, named]

/-- Without the backends of an address there is no first one with it, and the first ones with other
addresses stay. -/
theorem firstAt?_filter (backends : List String) (gone key : String) :
    firstAt? (backends.filter (address? · ≠ some gone)) key =
      if key = gone then none else firstAt? backends key := by
  rw [firstAt?, List.find?_filter]
  by_cases same : key = gone
  · subst same
    rw [if_pos rfl, List.find?_eq_none.2]
    · rfl
    · intro raw _
      simp
  · rw [if_neg same, firstAt?]
    congr 2
    funext raw
    by_cases here : address? raw = some key
    · simp [here, same]
    · simp [here]

end Backend

/-- The addresses of a location are those of its backends. -/
theorem Location.mem_addresses {l : Location} {key : String} :
    key ∈ l.addresses ↔ ∃ raw ∈ l.proxyPass, Backend.address? raw = some key := by
  rw [addresses, List.mem_eraseDups, List.mem_filterMap]

/-! ### Pools -/

/-- What of a pool its location determines, and its number. -/
structure Outline where
  serial : Nat
  pattern : String
  /-- The addresses to which requests go, by host. -/
  targets : Dict WebUrl
  mode : BalanceMode

namespace Pool

/-- The targets of hosts. -/
def targetsOf (hosts : Dict Host) : Dict WebUrl := hosts.map fun _ h => h.target

/-- The outline of a pool. -/
def outline (p : Pool) : Outline where
  serial := p.serial
  pattern := p.pattern
  targets := targetsOf p.hosts
  mode := p.balancer.mode

theorem get?_targetsOf (hosts : Dict Host) (key : String) :
    (targetsOf hosts).get? key = (hosts.get? key).map (·.target) := Dict.get?_map _ hosts key

/-- A host that comes brings its target. -/
theorem targetsOf_insert (hosts : Dict Host) (key : String) (h : Host) :
    targetsOf (hosts.insert key h) = (targetsOf hosts).insert key h.target := by
  apply Dict.ext_get?
  intro other
  rw [get?_targetsOf, Dict.get?_insert, Dict.get?_insert, get?_targetsOf]
  split <;> rfl

/-- A host that is changed but for its target leaves the targets alone. -/
theorem targetsOf_insert_same {hosts : Dict Host} {key : String} {h changed : Host}
    (found : hosts.get? key = some h) (same : changed.target = h.target) :
    targetsOf (hosts.insert key changed) = targetsOf hosts := by
  apply Dict.ext_get?
  intro other
  rw [targetsOf_insert, Dict.get?_insert, get?_targetsOf]
  split
  · next here => rw [← here, found, same]; rfl
  · rfl

/-- Changes of hosts that keep their targets leave the targets alone. -/
theorem targetsOf_modify (hosts : Dict Host) (key : String) {f : Host → Host}
    (same : ∀ h, (f h).target = h.target) : targetsOf (hosts.modify key f) = targetsOf hosts := by
  apply Dict.ext_get?
  intro other
  rw [get?_targetsOf, get?_targetsOf, Dict.get?_modify]
  split
  · cases hosts.get? other with
    | none => rfl
    | some h => exact congrArg some (same h)
  · rfl

/-- A host that goes takes its target along. -/
theorem targetsOf_erase (hosts : Dict Host) (key : String) :
    targetsOf (hosts.erase key) = (targetsOf hosts).erase key := by
  apply Dict.ext_get?
  intro other
  rw [get?_targetsOf, Dict.get?_erase, Dict.get?_erase, get?_targetsOf]
  split <;> rfl

/-- A pool has the hosts for which its outline has targets. -/
theorem containsHost_eq (p : Pool) (key : String) :
    p.containsHost key = p.outline.targets.contains key := (Dict.contains_map _ p.hosts key).symm

/-! ### Checks and requests keep the outline -/

@[simp] theorem outline_startCheck (p : Pool) (host : String) :
    (p.startCheck host).outline = p.outline := by
  rw [startCheck]
  split
  · rfl
  · simp only [outline]
    rw [targetsOf_modify]
    exact fun _ => rfl

@[simp] theorem outline_stopCheck (p : Pool) (host : String) :
    (p.stopCheck host).outline = p.outline := by
  rw [stopCheck]
  split <;> rfl

@[simp] theorem outline_recordProbe (p : Pool) (host : String) (reachable : Bool) :
    (p.recordProbe host reachable).outline = p.outline := by
  rw [recordProbe]
  split
  · rfl
  · next h found =>
      split
      · rfl
      · simp only [outline]
        rw [targetsOf_insert_same found]
        · cases reachable <;> simp
        · rfl

@[simp] theorem outline_settleChecks (p : Pool) (now : Nat) :
    (p.settleChecks now).2.outline = p.outline := rfl

/-- Starting a probe changes nothing but the check loops. -/
theorem startProbe_spec {p after : Pool} {check now : Nat} {host : String}
    (started : p.startProbe check now = some (host, after)) : ∃ checks, after = { p with checks } := by
  simp only [startProbe, Option.bind_eq_bind, Option.bind_eq_some_iff] at started
  obtain ⟨l, _, step⟩ := started
  split at step
  · split at step
    · obtain ⟨_, rfl⟩ := Prod.mk.inj (Option.some.inj step)
      exact ⟨_, rfl⟩
    · exact absurd step (by simp)
  · exact absurd step (by simp)

/-- A verdict that a check loop takes in is recorded like any other. -/
theorem endProbe_spec {p after : Pool} {check next : Nat} {reachable : Bool}
    (ended : p.endProbe check reachable = some (next, after)) :
    ∃ checks host, after = ({ p with checks } : Pool).recordProbe host reachable := by
  simp only [endProbe, Option.bind_eq_bind, Option.bind_eq_some_iff] at ended
  obtain ⟨l, _, step⟩ := ended
  split at step
  · obtain ⟨_, rfl⟩ := Prod.mk.inj (Option.some.inj step)
    exact ⟨_, l.host, rfl⟩
  · exact absurd step (by simp)

/-- A probe that starts does not show in the outline. -/
theorem outline_startProbe {p after : Pool} {check now : Nat} {host : String}
    (started : p.startProbe check now = some (host, after)) : after.outline = p.outline := by
  obtain ⟨checks, rfl⟩ := startProbe_spec started
  rfl

theorem outline_endProbe {p after : Pool} {check next : Nat} {reachable : Bool}
    (ended : p.endProbe check reachable = some (next, after)) : after.outline = p.outline := by
  obtain ⟨checks, host, rfl⟩ := endProbe_spec ended
  exact outline_recordProbe _ host reachable

@[simp] theorem outline_shutdown (p : Pool) : p.shutdown.outline = p.outline := rfl

@[simp] theorem outline_installLimiter (p : Pool) (path : String) (limiter : Limiter) :
    (p.installLimiter path limiter).outline = p.outline := rfl

@[simp] theorem outline_giveBack (p : Pool) (number : Nat) :
    (p.giveBack number).2.outline = p.outline := by
  rw [giveBack]
  split <;> rfl

@[simp] theorem outline_choose (p : Pool) (client : String) :
    (p.choose client).2.outline = p.outline := by
  rw [choose]
  split
  · rfl
  · next chosen =>
      simp only [outline]
      rw [Balancer.mode_balance chosen]

@[simp] theorem outline_serve (p : Pool) (path client : String) (number : Nat) :
    (p.serve path client number).2.outline = p.outline := by
  have kept := p.outline_choose client
  rw [serve]
  split
  · next after chosen =>
      rw [chosen] at kept
      exact kept
  · next after chosen =>
      rw [chosen] at kept
      exact (outline_giveBack after number).trans kept

@[simp] theorem outline_limiterFor (p : Pool) (path : String) :
    (p.limiterFor path).2.outline = p.outline := by
  rw [limiterFor]
  split <;> rfl

/-- A request that comes is refused for want of a permit, or gets its permit and is served, or waits.
-/
theorem acquire_spec {p r : Pool} {number : Nat} {path : String}
    (limited : p.limiterFor path = (number, r)) (ticket : Nat) (client : String) (instant : Nat) :
    p.acquire ticket path client instant = ({ admission := .refused (r.throttled path) }, r) ∨
      ∃ l after, r.limiters[number]? = some l ∧
        ((l.take? instant = some after ∨ l.attempt ticket instant = (true, after)) ∧
            p.acquire ticket path client instant =
              (r.putLimiter number after).serve path client number ∨
          l.attempt ticket instant = (false, after) ∧
            p.acquire ticket path client instant =
              ({ admission := .waiting l.timeout },
                { r.putLimiter number after with
                  waiting := r.waiting ++ [{ ticket, path, client, limiter := number }] })) := by
  rw [acquire, limited]
  dsimp only
  cases known : r.limiters[number]? with
  | none => exact Or.inl rfl
  | some l =>
      dsimp only
      by_cases prompt : l.timeout = 0
      · rw [if_pos prompt]
        cases took : l.take? instant with
        | none => exact Or.inl rfl
        | some after => exact Or.inr ⟨l, after, rfl, Or.inl ⟨Or.inl took, rfl⟩⟩
      · rw [if_neg prompt]
        cases tried : l.attempt ticket instant with
        | mk entered after =>
            cases entered with
            | true => exact Or.inr ⟨l, after, rfl, Or.inl ⟨Or.inr tried, rfl⟩⟩
            | false => exact Or.inr ⟨l, after, rfl, Or.inr ⟨tried, rfl⟩⟩

/-- A request that looks again gets its permit and is served, or goes on waiting. -/
theorem look_spec {p q : Pool} {ticket instant : Nat} {turn : Turn}
    (looked : p.look ticket instant = some (turn, q)) :
    ∃ w l after, p.waiter? ticket = some w ∧ p.limiters[w.limiter]? = some l ∧
      (l.attempt ticket instant = (true, after) ∧
          ((p.putLimiter w.limiter after).dismiss ticket).serve w.path w.client w.limiter =
            (turn, q) ∨
        l.attempt ticket instant = (false, after) ∧
          turn = { admission := .waiting l.timeout } ∧ q = p.putLimiter w.limiter after) := by
  simp only [look, Option.bind_eq_bind, Option.bind_eq_some_iff] at looked
  obtain ⟨w, waits, l, known, step⟩ := looked
  cases tried : l.attempt ticket instant with
  | mk entered after =>
      rw [tried] at step
      refine ⟨w, l, after, waits, known, ?_⟩
      cases entered with
      | true => exact Or.inl ⟨tried, Option.some.inj step⟩
      | false =>
          obtain ⟨rfl, rfl⟩ := Prod.mk.inj (Option.some.inj step)
          exact Or.inr ⟨tried, rfl, rfl⟩

/-- A request whose time is over leaves the queue and gives up its place at its limiter, and is
refused. -/
theorem expire_spec {p q : Pool} {ticket : Nat} {turn : Turn}
    (expired : p.expire ticket = some (turn, q)) :
    ∃ w l, p.waiter? ticket = some w ∧ p.limiters[w.limiter]? = some l ∧
      turn = { admission := .refused (p.throttled w.path), woken := (l.abandon ticket).1.toList } ∧
      q = (p.putLimiter w.limiter (l.abandon ticket).2).dismiss ticket := by
  simp only [expire, Option.bind_eq_bind, Option.bind_eq_some_iff] at expired
  obtain ⟨w, waits, l, known, step⟩ := expired
  obtain ⟨rfl, rfl⟩ := Prod.mk.inj (Option.some.inj step)
  exact ⟨w, l, waits, known, rfl, rfl⟩

@[simp] theorem outline_acquire (p : Pool) (ticket : Nat) (path client : String) (instant : Nat) :
    (p.acquire ticket path client instant).2.outline = p.outline := by
  have kept := p.outline_limiterFor path
  cases limited : p.limiterFor path with
  | mk number r =>
      rw [limited] at kept
      rcases acquire_spec limited ticket client instant with
        whole | ⟨l, after, -, ⟨-, whole⟩ | ⟨-, whole⟩⟩ <;> rw [whole]
      · exact kept
      · exact (outline_serve _ path client number).trans kept
      · exact kept

/-- A request that looks again does not show in the outline. -/
theorem outline_look {p after : Pool} {ticket instant : Nat} {turn : Turn}
    (looked : p.look ticket instant = some (turn, after)) : after.outline = p.outline := by
  obtain ⟨w, l, left, -, -, ⟨-, whole⟩ | ⟨-, -, rfl⟩⟩ := look_spec looked
  · have kept := outline_serve ((p.putLimiter w.limiter left).dismiss ticket) w.path w.client
      w.limiter
    rwa [whole] at kept
  · rfl

/-- A request whose time is over does not show in the outline. -/
theorem outline_expire {p after : Pool} {ticket : Nat} {turn : Turn}
    (expired : p.expire ticket = some (turn, after)) : after.outline = p.outline := by
  obtain ⟨w, l, -, -, -, rfl⟩ := expire_spec expired
  rfl

/-! ### Changes -/

/-- Adding a host that is no backend fails; any other is added unless it is there. -/
theorem addHost_of_parse {raw : String} {url : WebUrl} (read : Backend.parse raw = .ok url)
    (p : Pool) :
    ∃ after, p.addHost raw = .ok (url.address, after) ∧
      after.outline = { p.outline with
        targets := if p.containsHost url.address then p.outline.targets
          else p.outline.targets.insert url.address url } := by
  rw [addHost, read]
  dsimp only
  by_cases known : p.hosts.contains url.address = true
  · exact ⟨p, by rw [if_pos known], by rw [containsHost, if_pos known]⟩
  · refine ⟨_, by rw [if_neg known], ?_⟩
    rw [outline_startCheck, containsHost, if_neg known]
    simp only [outline, Balancer.mode_add, targetsOf_insert]

/-- A backend that cannot be read is not added. -/
theorem addHost_of_error {raw : String} {error : BackendError}
    (fault : Backend.parse raw = .error error) (p : Pool) :
    p.addHost raw = .error (.badBackend error) := by rw [addHost, fault]

/-- A host that is removed is gone, whether or not its checks stop in time. -/
theorem outline_removeHost {p : Pool} {host : String} (known : p.containsHost host = true)
    (checksStop : Bool) :
    (p.removeHost host checksStop).2.outline =
      { p.outline with targets := p.outline.targets.erase host } := by
  have kept := p.outline_stopCheck host
  rw [containsHost] at known
  rw [removeHost, if_pos known]
  simp only [outline, Balancer.mode_remove, targetsOf_erase, Outline.mk.injEq] at kept ⊢
  simp only [kept, and_self]

/-- A balancer can be changed to any mode, and only the mode of the outline changes. -/
theorem changeBalancer_of_name (p : Pool) (mode : BalanceMode) :
    ∃ after, p.changeBalancer mode.name = .ok after ∧
      after.outline = { p.outline with mode } := by
  have built : Balancer.build mode.name p.settings.replicas p.aliveHosts =
      .ok (Balancer.ofHosts mode p.settings.replicas p.aliveHosts) :=
    Balancer.build_eq_ok_iff.2 ⟨mode, rfl, rfl⟩
  refine ⟨_, by rw [changeBalancer, built], ?_⟩
  simp only [outline, Balancer.mode_ofHosts]

/-- A balancer cannot be changed to an unknown mode. -/
theorem changeBalancer_of_unknown {name : String} (unknown : name ∉ BalanceMode.names) (p : Pool) :
    ∃ error, p.changeBalancer name = .error error := by
  cases built : Balancer.build name p.settings.replicas p.aliveHosts with
  | ok b =>
      obtain ⟨mode, named, _⟩ := Balancer.build_eq_ok_iff.1 built
      exact absurd (BalanceMode.mem_names.2 ⟨mode, named⟩) unknown
  | error error => exact ⟨_, by rw [changeBalancer, built]⟩

/-! ### Building -/

/-- A backend that can be read is gathered, unless there is one with its address already. -/
theorem gather_of_parse {raw : String} {url : WebUrl} (read : Backend.parse raw = .ok url)
    (found : Dict Host × List String) :
    ∃ after, gather found raw = .ok after ∧ ∀ key,
      (targetsOf after.1).get? key =
        ((targetsOf found.1).get? key).or (if url.address = key then some url else none) := by
  rw [gather, read]
  dsimp only
  by_cases known : found.1.contains url.address = true
  · refine ⟨found, by rw [if_pos known], fun key => ?_⟩
    split
    · next same =>
        subst same
        obtain ⟨h, present⟩ := Dict.contains_iff.1 known
        rw [get?_targetsOf, present]
        rfl
    · rw [Option.or_none]
  · refine ⟨_, by rw [if_neg known], fun key => ?_⟩
    rw [targetsOf_insert, Dict.get?_insert]
    split
    · next same =>
        subst same
        have absent : found.1.get? url.address = none := by
          simpa [Dict.contains] using known
        rw [get?_targetsOf, absent]
        rfl
    · rw [Option.or_none]

/-- Gathering the hosts of backends succeeds if each backend has an address; the first backend with
an address gives the target. -/
theorem foldlM_gather {backends : List String}
    (sound : ∀ raw ∈ backends, (Backend.address? raw).isSome = true)
    (found : Dict Host × List String) :
    ∃ after, backends.foldlM gather found = .ok after ∧ ∀ key,
      (targetsOf after.1).get? key =
        ((targetsOf found.1).get? key).or (Backend.firstAt? backends key) := by
  induction backends generalizing found with
  | nil => exact ⟨found, rfl, fun key => by rw [Backend.firstAt?_nil, Option.or_none]⟩
  | cons raw backends ih =>
      obtain ⟨key, address⟩ := Option.isSome_iff_exists.1 (sound raw List.mem_cons_self)
      obtain ⟨url, read, _⟩ := Backend.address?_eq_some_iff.1 address
      obtain ⟨middle, first, targets⟩ := gather_of_parse read found
      obtain ⟨after, others, whole⟩ :=
        ih (fun r member => sound r (List.mem_cons_of_mem raw member)) middle
      refine ⟨after, by rw [List.foldlM_cons, first]; exact others, fun key => ?_⟩
      rw [whole, targets, Backend.firstAt?_cons read, Option.or_assoc]
      congr 1
      split <;> simp

/-- Only backends with addresses are gathered. -/
theorem parses_of_foldlM_gather {backends : List String} {found after : Dict Host × List String}
    (done : backends.foldlM gather found = .ok after) :
    ∀ raw ∈ backends, (Backend.address? raw).isSome = true := by
  induction backends generalizing found with
  | nil => exact fun raw member => absurd member List.not_mem_nil
  | cons raw backends ih =>
      cases read : Backend.parse raw with
      | error error =>
          rw [List.foldlM_cons, gather, read] at done
          exact absurd done (by simp [bind, Except.bind])
      | ok url =>
          obtain ⟨middle, first, _⟩ := gather_of_parse read found
          rw [List.foldlM_cons, first] at done
          refine List.forall_mem_cons.2 ⟨?_, ih done⟩
          rw [Backend.address?, read]
          rfl

end Pool

/-- A location that a pool can serve: its pattern, its backends and its mode are sound. -/
structure Location.Servable (l : Location) : Prop where
  pattern : Pattern.check l.pattern = .ok ()
  backends : ∀ raw ∈ l.proxyPass, (Backend.address? raw).isSome = true
  mode : l.balanceMode ∈ BalanceMode.names

/-- A location from which a pool can be built, which takes a backend as well. -/
structure Location.Buildable (l : Location) : Prop extends l.Servable where
  hosts : l.proxyPass ≠ []

instance (l : Location) : Decidable l.Buildable :=
  decidable_of_iff
    (Pattern.check l.pattern = .ok () ∧
      (∀ raw ∈ l.proxyPass, (Backend.address? raw).isSome = true) ∧
      l.balanceMode ∈ BalanceMode.names ∧ l.proxyPass ≠ [])
    ⟨fun ⟨pattern, backends, mode, hosts⟩ => ⟨⟨pattern, backends, mode⟩, hosts⟩,
      fun sound => ⟨sound.pattern, sound.backends, sound.mode, sound.hosts⟩⟩

namespace Pool

/-- Starting to check hosts does not show in the outline. -/
theorem outline_foldl_startCheck (hosts : List String) (p : Pool) :
    (hosts.foldl startCheck p).outline = p.outline := by
  induction hosts generalizing p with
  | nil => rfl
  | cons host hosts ih => rw [List.foldl_cons, ih, outline_startCheck]

/-- What is built from a location has the location's pattern, targets and mode. -/
theorem build_of_backends {l : Location}
    (backends : ∀ raw ∈ l.proxyPass, (Backend.address? raw).isSome = true)
    (known : l.balanceMode ∈ BalanceMode.names) (serial : Nat) (settings : PoolSettings) :
    ∃ p, build serial settings l = .ok p ∧ p.outline.serial = serial ∧
      p.outline.pattern = l.pattern ∧ p.outline.mode.name = l.balanceMode ∧
      ∀ key, p.outline.targets.get? key = Backend.firstAt? l.proxyPass key := by
  obtain ⟨mode, named⟩ := BalanceMode.mem_names.1 known
  obtain ⟨⟨hosts, order⟩, gathered, targets⟩ := foldlM_gather backends (∅, [])
  have built : Balancer.build l.balanceMode settings.replicas order =
      .ok (Balancer.ofHosts mode settings.replicas order) :=
    Balancer.build_eq_ok_iff.2 ⟨mode, named, rfl⟩
  refine ⟨_, by rw [build, gathered]; simp only [bind, Except.bind, built, Except.mapError]; rfl,
    ?_⟩
  rw [outline_foldl_startCheck]
  refine ⟨rfl, rfl, ?_, fun key => targets key⟩
  exact (congrArg BalanceMode.name (Balancer.mode_ofHosts _ _ _)).trans named

/-- A pool that can be built has the hosts of its location and a balancer of them, and then its checks
begin. -/
theorem stages_of_build {l : Location} {serial : Nat} {settings : PoolSettings} {p : Pool}
    (built : build serial settings l = .ok p) :
    ∃ hosts order balancer, l.proxyPass.foldlM gather (∅, []) = .ok (hosts, order) ∧
      Balancer.build l.balanceMode settings.replicas order = .ok balancer ∧
      p = hosts.keys.foldl startCheck
        { serial, pattern := l.pattern, hosts, balancer, settings } := by
  rw [build] at built
  cases gathered : l.proxyPass.foldlM gather (∅, []) with
  | error error =>
      rw [gathered] at built
      exact absurd built (by simp [bind, Except.bind])
  | ok found =>
      rw [gathered] at built
      cases chosen : Balancer.build l.balanceMode settings.replicas found.2 with
      | error error =>
          simp only [bind, Except.bind, chosen, Except.mapError] at built
          exact absurd built (by simp)
      | ok balancer =>
          simp only [bind, Except.bind, chosen, Except.mapError] at built
          exact ⟨found.1, found.2, balancer, rfl, chosen, (Except.ok.inj built).symm⟩

/-- A pool is only built from a location whose backends have addresses and whose mode is known. -/
theorem of_build {l : Location} {serial : Nat} {settings : PoolSettings} {p : Pool}
    (built : build serial settings l = .ok p) :
    (∀ raw ∈ l.proxyPass, (Backend.address? raw).isSome = true) ∧
      l.balanceMode ∈ BalanceMode.names := by
  obtain ⟨hosts, order, balancer, gathered, chosen, -⟩ := stages_of_build built
  obtain ⟨mode, named, -⟩ := Balancer.build_eq_ok_iff.1 chosen
  exact ⟨parses_of_foldlM_gather gathered, BalanceMode.mem_names.2 ⟨mode, named⟩⟩

end Pool

end ClusterGateway
