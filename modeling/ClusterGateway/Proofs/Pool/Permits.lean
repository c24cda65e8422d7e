import ClusterGateway.Pool.Admission
import ClusterGateway.Proofs.Limit.Queue
import ClusterGateway.Proofs.Pool.Life
import Mathlib.Logic.Function.Basic

/-! # Permits of a pool

The limiters of a pool count the requests inside, each its own. A turn of a request takes one permit
if it ends with a guard, and none if it ends in any other way, also where a permit was taken for a
while because there was no host. Changes of hosts, checks and balancers leave limiters and waiting
requests alone, and a limiter that is installed has nobody inside.
-/

namespace ClusterGateway

/-! ### Limiters -/

namespace Limiter

variable {l : Limiter}

/-- Nobody is inside, as far as the limiter counts. -/
def Idle (l : Limiter) : Prop := ∀ n, l.inUse? = some n → n = 0

/-- Taking a permit adds one to those in use. -/
theorem inUse?_of_take? {taken : Limiter} {now : Nat} (took : l.take? now = some taken) :
    taken.inUse? = l.inUse?.map (· + 1) := by
  obtain ⟨state, timeout⟩ := l
  cases state with
  | gate g =>
      obtain ⟨entered, enters, rfl⟩ := Option.map_eq_some_iff.1 took
      rw [Gate.take?] at enters
      split at enters
      · rw [← Option.some.inj enters]
        rfl
      · exact absurd enters (by simp)
  | throttle t =>
      obtain ⟨_, _, rfl⟩ := Option.map_eq_some_iff.1 took
      rfl

/-- Trying to get a permit adds one to those in use if it is granted. -/
theorem inUse?_of_attempt {after : Limiter} {ticket now : Nat} {entered : Bool}
    (tried : l.attempt ticket now = (entered, after)) :
    after.inUse? = if entered then l.inUse?.map (· + 1) else l.inUse? := by
  obtain ⟨state, timeout⟩ := l
  cases state with
  | gate g =>
      simp only [attempt, Gate.attempt] at tried
      split at tried <;>
      · obtain ⟨rfl, rfl⟩ := Prod.mk.inj tried
        rfl
  | throttle t =>
      simp only [attempt] at tried
      split at tried <;>
      · obtain ⟨rfl, rfl⟩ := Prod.mk.inj tried
        rfl

/-- Giving a permit back takes one off those in use. -/
theorem inUse?_release (l : Limiter) : l.release.2.inUse? = l.inUse?.map (· - 1) := by
  obtain ⟨state, timeout⟩ := l
  cases state with
  | gate g => exact congrArg some (Gate.inUse_wakeOne _)
  | throttle t => rfl

/-- A call that gives up leaves the permits in use alone. -/
theorem inUse?_abandon (l : Limiter) (ticket : Nat) : (l.abandon ticket).2.inUse? = l.inUse? := by
  obtain ⟨state, timeout⟩ := l
  cases state with
  | gate g => exact congrArg some (g.inUse_abandon ticket)
  | throttle t => rfl

/-- Nobody is inside a limiter that is new. -/
theorem idle_ofKind (kind : LimiterKind) : (ofKind kind).Idle := by
  intro n inside
  cases kind with
  | concurrency => exact (Option.some.inj inside).symm
  | qps => exact absurd inside (by simp [ofKind, inUse?])

/-- Changing the rate lets nobody in. -/
theorem Idle.setRate (idle : l.Idle) (volume speed : Int) (now : Nat) :
    (l.setRate volume speed now).2.Idle := by
  obtain ⟨state, timeout⟩ := l
  cases state with
  | gate g => exact idle
  | throttle t => exact fun n inside => absurd inside (by simp [Limiter.setRate, inUse?])

end Limiter

namespace Pool

variable {p q : Pool} {held : Nat → Nat}

/-! ### Books -/

/-- The requests that wait at a pool. -/
def tickets (p : Pool) : List Nat := p.waiting.map (·.ticket)

/-- Each limiter has as many requests inside as are held against its number. -/
structure Accounted (p : Pool) (held : Nat → Nat) : Prop where
  used : ∀ {k l n}, p.limiters[k]? = some l → l.inUse? = some n → n = held k
  /-- Nothing is held where there is no limiter. -/
  beyond : ∀ {k}, p.limiters.length ≤ k → held k = 0

/-- A limiter that has changed changes what is held against its number. -/
theorem Accounted.putLimiter (accounted : p.Accounted held) {number : Nat} {l after : Limiter}
    (found : p.limiters[number]? = some l) {f : Nat → Nat}
    (effect : after.inUse? = l.inUse?.map f) :
    (p.putLimiter number after).Accounted (Function.update held number (f (held number))) := by
  have inside : number < p.limiters.length := (List.getElem?_eq_some_iff.1 found).1
  constructor
  · intro k m n there inUse
    rw [Pool.putLimiter, List.getElem?_set] at there
    by_cases same : k = number
    · subst same
      rw [if_pos rfl, if_pos inside] at there
      obtain rfl := Option.some.inj there
      rw [effect] at inUse
      obtain ⟨before, known, rfl⟩ := Option.map_eq_some_iff.1 inUse
      rw [Function.update_self, accounted.used found known]
    · rw [if_neg (Ne.symm same)] at there
      rw [Function.update_of_ne same]
      exact accounted.used there inUse
  · intro k outside
    rw [Pool.putLimiter, List.length_set] at outside
    have other : k ≠ number := by omega
    rw [Function.update_of_ne other]
    exact accounted.beyond outside

/-- A limiter that has changed without letting anybody in or out leaves the books as they are. -/
theorem Accounted.keepLimiter (accounted : p.Accounted held) {number : Nat} {l after : Limiter}
    (found : p.limiters[number]? = some l) (effect : after.inUse? = l.inUse?) :
    (p.putLimiter number after).Accounted held := by
  have put := accounted.putLimiter (f := id) found (by rw [effect, Option.map_id_apply])
  rwa [id, Function.update_eq_self] at put

/-- A permit that is given back is no longer held against its limiter. -/
theorem Accounted.giveBack (accounted : p.Accounted held) (number : Nat) :
    (p.giveBack number).2.Accounted (Function.update held number (held number - 1)) := by
  rw [Pool.giveBack]
  split
  · next absent =>
      have nothing := accounted.beyond (List.getElem?_eq_none_iff.1 absent)
      have same : Function.update held number (held number - 1) = held :=
        Function.update_eq_self_iff.2 (by rw [nothing])
      rw [same]
      exact accounted
  · next l found =>
      exact accounted.putLimiter (f := (· - 1)) found l.inUse?_release

/-! ### Steps that no request notices -/

/-- For requests a pool goes on as it is: the same ones wait, and limiters are at most added. -/
structure GoesOn (p q : Pool) : Prop where
  serial : q.serial = p.serial
  waiting : q.waiting = p.waiting
  limiters : ∃ more, q.limiters = p.limiters ++ more ∧ ∀ l ∈ more, l.Idle

theorem GoesOn.of_same (serial : q.serial = p.serial) (waiting : q.waiting = p.waiting)
    (limiters : q.limiters = p.limiters) : p.GoesOn q :=
  ⟨serial, waiting, [], by rw [limiters, List.append_nil], by simp⟩

theorem GoesOn.refl (p : Pool) : p.GoesOn p := .of_same rfl rfl rfl

/-- Two steps that let a pool go on as it is do so together. -/
theorem GoesOn.trans {r : Pool} (first : p.GoesOn q) (second : q.GoesOn r) : p.GoesOn r := by
  obtain ⟨more, added, idle⟩ := first.limiters
  obtain ⟨others, further, idlers⟩ := second.limiters
  refine ⟨second.serial.trans first.serial, second.waiting.trans first.waiting, more ++ others,
    by rw [further, added, List.append_assoc], fun l member => ?_⟩
  rcases List.mem_append.1 member with early | late
  · exact idle l early
  · exact idlers l late

/-- In a pool that goes on as it is the same permits are held. -/
theorem GoesOn.accounted (goesOn : p.GoesOn q) (accounted : p.Accounted held) :
    q.Accounted held := by
  obtain ⟨more, added, idle⟩ := goesOn.limiters
  constructor
  · intro k l n there inUse
    rw [added] at there
    by_cases inside : k < p.limiters.length
    · rw [List.getElem?_append_left inside] at there
      exact accounted.used there inUse
    · rw [List.getElem?_append_right (Nat.le_of_not_lt inside)] at there
      rw [idle l (List.mem_of_getElem? there) n inUse, accounted.beyond (Nat.le_of_not_lt inside)]
  · intro k outside
    rw [added, List.length_append] at outside
    exact accounted.beyond (Nat.le_of_add_right_le outside)

theorem GoesOn.tickets (goesOn : p.GoesOn q) : q.tickets = p.tickets := by
  rw [Pool.tickets, goesOn.waiting, Pool.tickets]

/-- Installing a limiter with nobody inside lets the pool go on as it is. -/
theorem goesOn_installLimiter (p : Pool) (path : String) {limiter : Limiter}
    (idle : limiter.Idle) : p.GoesOn (p.installLimiter path limiter) :=
  ⟨rfl, rfl, [limiter], rfl, fun _ member => List.mem_singleton.1 member ▸ idle⟩

/-! ### Steps that leave the limiters alone -/

/-- A pool differs from another one at most in its hosts, and in how they are checked and chosen. -/
def Aside (p q : Pool) : Prop :=
  ∃ hosts balancer checks shutDown, q = { p with hosts, balancer, checks, shutDown }

theorem Aside.refl (p : Pool) : p.Aside p := ⟨p.hosts, p.balancer, p.checks, p.shutDown, rfl⟩

/-- Two steps that change the hosts alone do so together. -/
theorem Aside.trans {r : Pool} (first : p.Aside q) (second : q.Aside r) : p.Aside r := by
  obtain ⟨_, _, _, _, rfl⟩ := first
  obtain ⟨hosts, balancer, checks, shutDown, rfl⟩ := second
  exact ⟨hosts, balancer, checks, shutDown, rfl⟩

/-- For requests a pool with other hosts goes on as it is. -/
theorem Aside.goesOn (aside : p.Aside q) : p.GoesOn q := by
  obtain ⟨_, _, _, _, rfl⟩ := aside
  exact .of_same rfl rfl rfl

/-- Starting to check a host changes the hosts alone. -/
theorem aside_startCheck (p : Pool) (host : String) : p.Aside (p.startCheck host) := by
  rw [startCheck]
  split
  · exact .refl p
  · exact ⟨_, _, _, _, rfl⟩

/-- A host that comes changes the hosts alone. -/
theorem aside_addHost {raw key : String} (added : p.addHost raw = .ok (key, q)) : p.Aside q := by
  rw [addHost] at added
  split at added
  · exact absurd added (by simp)
  · dsimp only at added
    split at added
    · obtain ⟨-, rfl⟩ := Prod.mk.inj (Except.ok.inj added)
      exact .refl p
    · obtain ⟨-, rfl⟩ := Prod.mk.inj (Except.ok.inj added)
      exact Aside.trans ⟨_, _, _, _, rfl⟩ (aside_startCheck _ _)

theorem aside_removeHost (p : Pool) (host : String) (checksStop : Bool) :
    p.Aside (p.removeHost host checksStop).2 := by
  rw [removeHost]
  split
  · rw [stopCheck]
    split <;> exact ⟨_, _, _, _, rfl⟩
  · exact .refl p

/-- A verdict changes the hosts alone. -/
theorem aside_recordProbe (p : Pool) (host : String) (reachable : Bool) :
    p.Aside (p.recordProbe host reachable) := by
  rw [recordProbe]
  split
  · exact .refl p
  · split
    · exact .refl p
    · exact ⟨_, _, _, _, rfl⟩

/-- A probe that starts changes the hosts and their loops alone. -/
theorem aside_startProbe {check now : Nat} {host : String}
    (started : p.startProbe check now = some (host, q)) : p.Aside q := by
  obtain ⟨checks, rfl⟩ := startProbe_spec started
  exact ⟨_, _, _, _, rfl⟩

theorem aside_endProbe {check next : Nat} {reachable : Bool}
    (ended : p.endProbe check reachable = some (next, q)) : p.Aside q := by
  obtain ⟨checks, host, rfl⟩ := endProbe_spec ended
  exact Aside.trans ⟨_, _, _, _, rfl⟩ (aside_recordProbe _ host reachable)

theorem aside_settleChecks (p : Pool) (now : Nat) : p.Aside (p.settleChecks now).2 :=
  ⟨_, _, _, _, rfl⟩

/-- A new balancer changes how hosts are chosen alone. -/
theorem aside_changeBalancer {mode : String} (changed : p.changeBalancer mode = .ok q) :
    p.Aside q := by
  obtain ⟨balancer, -, rfl⟩ := changeBalancer_spec changed
  exact ⟨_, _, _, _, rfl⟩

theorem aside_shutdown (p : Pool) : p.Aside p.shutdown := ⟨_, _, _, _, rfl⟩

/-- A new pool has its number and pattern, and neither limiters nor waiting requests. -/
theorem aside_of_build {serial : Nat} {settings : PoolSettings} {l : Location}
    (built : build serial settings l = .ok p) :
    ∃ bare : Pool, bare.Aside p ∧ bare.serial = serial ∧ bare.pattern = l.pattern ∧
      bare.limiters = [] ∧ bare.installed = ∅ ∧ bare.waiting = [] := by
  obtain ⟨hosts, order, balancer, -, -, rfl⟩ := stages_of_build built
  let bare : Pool := { serial, pattern := l.pattern, hosts, balancer, settings }
  have aside : bare.Aside (hosts.keys.foldl startCheck bare) :=
    List.foldlRecOn _ _ (Aside.refl bare) fun q aside key _ =>
      aside.trans (aside_startCheck q key)
  exact ⟨bare, aside, rfl, rfl, rfl, rfl, rfl⟩

/-! ### New pools -/

/-- Nobody waits at a pool, and nobody is inside its limiters. -/
structure Idle (p : Pool) : Prop where
  waiting : p.waiting = []
  limiters : ∀ l ∈ p.limiters, l.Idle

/-- If nobody waits or is inside at a pool, then nobody is where it goes on as it is. -/
theorem GoesOn.idle (goesOn : p.GoesOn q) (idle : p.Idle) : q.Idle := by
  obtain ⟨more, added, others⟩ := goesOn.limiters
  refine ⟨goesOn.waiting.trans idle.waiting, fun l member => ?_⟩
  rw [added] at member
  rcases List.mem_append.1 member with old | new
  · exact idle.limiters l old
  · exact others l new

theorem Idle.accounted (idle : p.Idle) : p.Accounted fun _ => 0 :=
  ⟨fun there inUse => idle.limiters _ (List.mem_of_getElem? there) _ inUse, fun _ => rfl⟩

/-- At a new pool nobody waits or is inside. -/
theorem idle_of_build {serial : Nat} {settings : PoolSettings} {l : Location}
    (built : build serial settings l = .ok p) : p.Idle ∧ p.serial = serial := by
  obtain ⟨bare, aside, number, -, limiters, -, waiting⟩ := aside_of_build built
  exact ⟨aside.goesOn.idle ⟨waiting, by simp [limiters]⟩, aside.goesOn.serial.trans number⟩

/-! ### Turns -/

/-- How a turn of a request that leads to an admission changes a pool. -/
inductive Turns (p q : Pool) (ticket : Nat) : Admission → Prop where
  /-- The guard holds a permit, and the request waits no more. -/
  | granted {guard : Guard} (serial : guard.serial = p.serial)
      (books : ∀ {held}, p.Accounted held →
        q.Accounted (Function.update held guard.limiter (held guard.limiter + 1)))
      (others : ∀ other, other ∈ q.tickets ↔ other ≠ ticket ∧ other ∈ p.tickets) :
      Turns p q ticket (.granted guard)
  | refused {error : DispatchError} (books : ∀ {held}, p.Accounted held → q.Accounted held)
      (others : ∀ other, other ∈ q.tickets ↔ other ≠ ticket ∧ other ∈ p.tickets) :
      Turns p q ticket (.refused error)
  | waiting {time : Nat} (books : ∀ {held}, p.Accounted held → q.Accounted held)
      (others : ∀ other, other ∈ q.tickets ↔ other = ticket ∨ other ∈ p.tickets) :
      Turns p q ticket (.waiting time)

/-- Choosing a host leaves the number, the queue and the limiters alone. -/
theorem choose_snd (p : Pool) (client : String) :
    (p.choose client).2.serial = p.serial ∧ (p.choose client).2.waiting = p.waiting ∧
      (p.choose client).2.limiters = p.limiters := by
  rw [choose]
  split <;> exact ⟨rfl, rfl, rfl⟩

/-- Looking a limiter up, or installing one that is new, lets the pool go on as it is. -/
theorem goesOn_limiterFor (p : Pool) (path : String) : p.GoesOn (p.limiterFor path).2 := by
  rw [limiterFor]
  split
  · exact .refl p
  · exact goesOn_installLimiter p path (Limiter.idle_ofKind .qps)

theorem waiting_giveBack (p : Pool) (number : Nat) : (p.giveBack number).2.waiting = p.waiting := by
  rw [giveBack]
  split <;> rfl

theorem tickets_giveBack (p : Pool) (number : Nat) : (p.giveBack number).2.tickets = p.tickets :=
  congrArg (List.map Waiter.ticket) (p.waiting_giveBack number)

/-- Serving a request that has taken its permit. Without a host the permit is given back, and the
books are what they were. -/
theorem turns_serve {r : Pool} {ticket number : Nat} (serial : r.serial = p.serial)
    (books : ∀ {held}, p.Accounted held →
      r.Accounted (Function.update held number (held number + 1)))
    (others : ∀ other, other ∈ r.tickets ↔ other ≠ ticket ∧ other ∈ p.tickets)
    (path client : String) :
    p.Turns (r.serve path client number).2 ticket (r.serve path client number).1.admission := by
  obtain ⟨number', waiting, limiters⟩ := r.choose_snd client
  rw [serve]
  generalize r.choose client = chosen at *
  obtain ⟨host, q⟩ := chosen
  have goesOn : r.GoesOn q := .of_same number' waiting limiters
  cases host with
  | some found =>
      obtain ⟨host, target⟩ := found
      refine .granted (number'.trans serial) (fun accounted => goesOn.accounted (books accounted)) ?_
      rw [goesOn.tickets]
      exact others
  | none =>
      refine .refused (fun {held} accounted => ?_) ?_
      · have back := (goesOn.accounted (books accounted)).giveBack number
        rw [Function.update_self, Function.update_idem, Nat.add_sub_cancel,
          Function.update_eq_self] at back
        exact back
      · intro other
        rw [← others, ← goesOn.tickets, ← q.tickets_giveBack number]

/-- How a request that comes changes a pool follows from its admission. -/
theorem turns_acquire {ticket : Nat} (fresh : ticket ∉ p.tickets) (path client : String)
    (instant : Nat) :
    p.Turns (p.acquire ticket path client instant).2 ticket
      (p.acquire ticket path client instant).1.admission := by
  have goesOn := p.goesOn_limiterFor path
  cases limited : p.limiterFor path with
  | mk number r =>
      rw [limited] at goesOn
      have others (other : Nat) : other ∈ r.tickets ↔ other ≠ ticket ∧ other ∈ p.tickets := by
        rw [goesOn.tickets]
        exact ⟨fun member => ⟨fun same => fresh (same ▸ member), member⟩, And.right⟩
      rcases acquire_spec limited ticket client instant with
        whole | ⟨l, after, known, ⟨entered, whole⟩ | ⟨tried, whole⟩⟩ <;> rw [whole]
      · exact .refused goesOn.accounted others
      · have effect : after.inUse? = l.inUse?.map (· + 1) := by
          rcases entered with took | tried
          · exact Limiter.inUse?_of_take? took
          · exact Limiter.inUse?_of_attempt tried
        exact turns_serve (r := r.putLimiter number after) goesOn.serial
          (fun accounted => (goesOn.accounted accounted).putLimiter known effect) others path client
      · refine .waiting (fun accounted => ?_) fun other => ?_
        · have put := (goesOn.accounted accounted).keepLimiter known
            (Limiter.inUse?_of_attempt tried)
          exact ⟨put.used, put.beyond⟩
        · rw [← goesOn.tickets, tickets, List.map_append, List.mem_append, or_comm]
          exact or_congr_left List.mem_singleton

/-- After a request has left the queue the others are there. -/
theorem tickets_dismiss (p : Pool) (ticket other : Nat) :
    other ∈ (p.dismiss ticket).tickets ↔ other ≠ ticket ∧ other ∈ p.tickets := by
  simp only [tickets, dismiss, List.mem_map, List.mem_filter, decide_eq_true_eq]
  constructor
  · rintro ⟨w, ⟨member, different⟩, rfl⟩
    exact ⟨different, w, member, rfl⟩
  · rintro ⟨different, w, member, rfl⟩
    exact ⟨w, ⟨member, different⟩, rfl⟩

/-- A request that is found waits under its ticket. -/
theorem mem_waiting_of_waiter {ticket : Nat} {w : Waiter} (waits : p.waiter? ticket = some w) :
    w ∈ p.waiting ∧ w.ticket = ticket :=
  ⟨List.mem_of_find?_eq_some waits, by simpa using List.find?_some waits⟩

/-- The ticket of a request that is found is in the queue. -/
theorem mem_tickets_of_waiter {ticket : Nat} {w : Waiter} (waits : p.waiter? ticket = some w) :
    ticket ∈ p.tickets := by
  obtain ⟨member, same⟩ := mem_waiting_of_waiter waits
  exact same ▸ List.mem_map_of_mem member

theorem turns_look {ticket instant : Nat} {turn : Turn}
    (looked : p.look ticket instant = some (turn, q)) :
    p.Turns q ticket turn.admission := by
  obtain ⟨w, l, after, waits, known, ⟨tried, whole⟩ | ⟨tried, rfl, rfl⟩⟩ := look_spec looked
  · have served := turns_serve (p := p) (r := (p.putLimiter w.limiter after).dismiss ticket)
      rfl (fun accounted =>
        let put := accounted.putLimiter known (Limiter.inUse?_of_attempt tried)
        ⟨put.used, put.beyond⟩)
      (tickets_dismiss _ ticket) w.path w.client
    rwa [whole] at served
  · refine .waiting (fun accounted => accounted.keepLimiter known
      (Limiter.inUse?_of_attempt tried)) fun other => ?_
    have here := mem_tickets_of_waiter waits
    exact ⟨Or.inr, fun either => either.elim (fun same => same ▸ here) id⟩

/-- A request whose time is over is refused, and the pool changes as for every refusal. -/
theorem turns_expire {ticket : Nat} {turn : Turn} (expired : p.expire ticket = some (turn, q)) :
    p.Turns q ticket turn.admission ∧ ∃ error, turn.admission = .refused error := by
  obtain ⟨w, l, -, known, rfl, rfl⟩ := expire_spec expired
  refine ⟨.refused (fun accounted => ?_) (tickets_dismiss _ ticket), _, rfl⟩
  have put := accounted.keepLimiter known (l.inUse?_abandon ticket)
  exact ⟨put.used, put.beyond⟩

/-- A request that has its permit is refused only for want of a host. -/
theorem serve_refused {path client : String} {number : Nat} {error : DispatchError}
    (refused : (p.serve path client number).1.admission = .refused error) :
    error = .noHost p.pattern := by
  have pattern := congrArg Outline.pattern (p.outline_choose client)
  rw [serve] at refused
  generalize p.choose client = chosen at *
  obtain ⟨host, q⟩ := chosen
  cases host with
  | some found => exact absurd refused (by simp)
  | none =>
      obtain rfl := Admission.refused.inj refused
      have back := congrArg Outline.pattern (q.outline_giveBack number)
      exact congrArg DispatchError.noHost (back.trans pattern)

/-- A pool refuses a request only for want of a permit or of a host. -/
theorem acquire_refused {ticket instant : Nat} {path client : String} {error : DispatchError}
    (refused : (p.acquire ticket path client instant).1.admission = .refused error) :
    error = p.throttled path ∨ error = .noHost p.pattern := by
  have pattern := congrArg Outline.pattern (p.outline_limiterFor path)
  cases limited : p.limiterFor path with
  | mk number r =>
      rw [limited] at pattern
      rcases acquire_spec limited ticket client instant with
        whole | ⟨l, after, -, ⟨-, whole⟩ | ⟨-, whole⟩⟩ <;> rw [whole] at refused
      · obtain rfl := Admission.refused.inj refused
        exact Or.inl (congrArg (DispatchError.throttled · path) pattern)
      · exact Or.inr ((serve_refused refused).trans (congrArg DispatchError.noHost pattern))
      · exact absurd refused (by simp)

end Pool

end ClusterGateway
