import ClusterGateway.Proofs.Balance.Presence
import ClusterGateway.Proofs.Route.Strand
import Mathlib.Data.List.Find

/-! # Steps of a request at two pools

Where all that is known of a path corresponds, a request for the path fares alike: it gets its
permit at both pools or at neither, it waits as long, it wakes the same requests, and there is a
host for it or there is none. Only whose turn it is may differ.
-/

namespace ClusterGateway

/-- Two answers to a call agree, but for the limiter of a guard and a host whose turn it is. -/
inductive Admission.Agrees (turns : Prop) : Admission → Admission → Prop
  | granted {g g' : Guard} (serial : g'.serial = g.serial)
    (place : ¬ turns → g'.host = g.host ∧ g'.target = g.target) :
    Agrees turns (.granted g) (.granted g')
  | refused (error : DispatchError) : Agrees turns (.refused error) (.refused error)
  | waiting (time : Nat) : Agrees turns (.waiting time) (.waiting time)

namespace Calls

variable {c c' : Calls} {p q : Pool} {ticket number number' : Nat} {path : String}
  {a b : Admission}

/-- After answers that agree, a call holds guards for the limiters that it used, or what it held. -/
theorem held_note {turns : Prop} (agrees : a.Agrees turns b) (signs : p.Signs path number a)
    (signs' : q.Signs path number' b) {g g' : Guard}
    (holds : (c.note ticket a).held ticket = some g)
    (holds' : (c'.note ticket b).held ticket = some g') :
    c.held ticket = some g ∧ c'.held ticket = some g' ∨
      g.limiter = number ∧ g'.limiter = number' := by
  cases agrees with
  | @granted guard guard' serial place =>
      rw [held_note_granted] at holds holds'
      obtain rfl := Option.some.inj holds
      obtain rfl := Option.some.inj holds'
      exact Or.inr ⟨(signs _ rfl).2.2, (signs' _ rfl).2.2⟩
  | refused error => exact Or.inl ⟨holds, holds'⟩
  | waiting time => exact Or.inl ⟨holds, holds'⟩

end Calls

namespace Pool

variable {pair : String × String} {c c' : Calls} {p q r s : Pool} {path : String}
  {ticket number number' : Nat} {link : Nat → Nat → Prop}

/-! ### Hosts -/

/-- Hosts that take turns are found as long as there are any. -/
theorem isSome_choose_of_turns (stocked : p.Stocked) {rotation : RoundRobin}
    (chooses : p.balancer = .turns rotation) (client : String) :
    (p.choose client).1.isSome = true ↔ rotation.hosts ≠ [] := by
  rw [choose, chooses, Balancer.balance]
  by_cases bare : rotation.hosts = []
  · rw [RoundRobin.balance_of_nil bare]
    exact iff_of_false (by simp) (fun filled => filled bare)
  · obtain ⟨host, after, turn, member⟩ := RoundRobin.exists_balance bare
    have known := stocked host (by rw [chooses]; exact member)
    rw [isAlive, Option.isSome_map] at known
    rw [turn]
    exact iff_of_true ((Option.isSome_map).trans known) bare

/-- Two pools with the same hosts find one for a request or none. Only the one whose turn it is may
differ. -/
theorem choose_alike (bare : q.bare = p.bare) (stocked : p.Stocked) (client : String) :
    Option.Rel (fun x y => p.balancer.mode ≠ .roundRobin → y = x) (p.choose client).1
      (q.choose client).1 := by
  have rewound := rewound_eq_of_bare bare
  cases chooses : p.balancer with
  | ring ring =>
      rw [chooses] at rewound
      have same : (q.choose client).1 = (p.choose client).1 := by
        rw [choose, choose, chooses, Balancer.rewound_eq_ring_iff.1 rewound, hosts_eq_of_bare bare]
        split <;> rfl
      rw [same]
      cases (p.choose client).1 with
      | none => exact .none
      | some found => exact .some fun _ => rfl
  | turns rotation =>
      have hosts : q.balancer.hosts = p.balancer.hosts := by
        rw [← Balancer.hosts_rewound, rewound, Balancer.hosts_rewound]
      cases chooses' : q.balancer with
      | ring ring =>
          rw [chooses, chooses'] at rewound
          exact absurd rewound (by simp [Balancer.rewound])
      | turns rotation' =>
          rw [chooses, chooses'] at hosts
          change rotation'.hosts = rotation.hosts at hosts
          -- Whoever has the turn, there is a host for the request just if there are hosts.
          have here := isSome_choose_of_turns stocked chooses client
          have there := isSome_choose_of_turns (stocked.of_bare bare) chooses' client
          rw [hosts, ← here] at there
          cases found : (p.choose client).1 with
          | none =>
              cases found' : (q.choose client).1 with
              | none => exact .none
              | some other =>
                  rw [found, found'] at there
                  exact absurd (there.1 rfl) (by simp)
          | some host =>
              cases found' : (q.choose client).1 with
              | none =>
                  rw [found, found'] at there
                  exact absurd (there.2 rfl) (by simp)
              | some other => exact .some fun ring => absurd rfl ring

/-! ### Steps of a call for the path -/

/-- What two pools make of a step of a call for a path that uses a limiter of each. -/
structure Fares (link : Nat → Nat → Prop) (turns : Prop) (path : String) (number number' : Nat)
    (a b : Turn × Pool) : Prop where
  woken : b.1.woken = a.1.woken
  agrees : a.1.admission.Agrees turns b.1.admission
  limiter : ∃ l, a.2.limiters[number]? = some l ∧ b.2.limiters[number']? = some l
  waiting : List.Forall₂ (Twins link) (a.2.waiting.filter (·.path = path)) b.2.waiting

/-- A limiter that is put back under its number is found there. -/
theorem getElem?_putLimiter_self {l : Limiter} (found : p.limiters[number]? = some l)
    (after : Limiter) : (p.putLimiter number after).limiters[number]? = some after := by
  rw [putLimiter, List.getElem?_set_self (List.getElem?_eq_some_iff.1 found).1]

/-- Two pools serve a request alike that took its permit of limiters that are in the same state. -/
theorem fares_serve (bare : q.bare = p.bare) (stocked : p.Stocked) {l : Limiter}
    (found : p.limiters[number]? = some l) (found' : q.limiters[number']? = some l)
    (waiting : List.Forall₂ (Twins link) (p.waiting.filter (·.path = path)) q.waiting)
    (client : String) :
    Fares link (p.balancer.mode = .roundRobin) path number number' (p.serve path client number)
      (q.serve path client number') := by
  have chosen := choose_alike bare stocked client
  have bare' := (q.bare_choose client).trans (bare.trans (p.bare_choose client).symm)
  obtain ⟨-, waits, limiters⟩ := p.choose_snd client
  obtain ⟨-, waits', limiters'⟩ := q.choose_snd client
  rw [← limiters] at found
  rw [← limiters'] at found'
  rw [← waits, ← waits'] at waiting
  rw [serve, serve]
  generalize p.choose client = x, q.choose client = y at *
  obtain ⟨host, r⟩ := x
  obtain ⟨host', s⟩ := y
  dsimp only at *
  cases chosen with
  | @some host host' agree =>
      obtain ⟨host, target⟩ := host
      obtain ⟨host', target'⟩ := host'
      refine ⟨rfl, .granted (serial_eq_of_bare bare') fun ring => ?_, ⟨l, found, found'⟩, waiting⟩
      exact ⟨congrArg Prod.fst (agree ring), congrArg Prod.snd (agree ring)⟩
  | none =>
      have pattern : (s.putLimiter number' l.release.2).pattern =
          (r.putLimiter number l.release.2).pattern := pattern_eq_of_bare bare'
      dsimp only
      rw [giveBack, giveBack, found, found']
      dsimp only
      rw [pattern]
      exact ⟨rfl, .refused _,
        ⟨l.release.2, getElem?_putLimiter_self found _, getElem?_putLimiter_self found' _⟩, waiting⟩

/-- A step of a call does the same at both pools. -/
structure InStep (pair : String × String) (c c' : Calls) (p : Pool) (ticket : Nat)
    (a b : Turn × Pool) : Prop where
  woken : b.1.woken = a.1.woken
  agrees : a.1.admission.Agrees (p.balancer.mode = .roundRobin) b.1.admission
  bare : a.2.bare = p.bare
  home : ∀ guard, a.1.admission = .granted guard → guard.serial = p.serial
  kin : Kin pair (c.note ticket a.1.admission) (c'.note ticket b.1.admission) a.2 b.2

/-- What two kin pools make of a step of a call for the path is the same, once the step fares alike
and uses limiters that are linked or new at both. -/
theorem Kin.inStep (kin : Kin pair c c' p q) (here : p.pattern = pair.1)
    (arrived : c.came ticket = some pair) (braid : Braid pair.2 c c' link p q) {a b : Turn × Pool}
    (touches : p.Touches a.2 ticket pair.2 number) (touches' : q.Touches b.2 ticket pair.2 number')
    (signs : p.Signs pair.2 number a.1.admission) (signs' : q.Signs pair.2 number' b.1.admission)
    (linked : link number number' ∨ number = p.limiters.length ∧ number' = q.limiters.length)
    (installed : a.2.installed.get? pair.2 = p.installed.get? pair.2 ∧
        b.2.installed.get? pair.2 = q.installed.get? pair.2 ∨
      a.2.installed.get? pair.2 = some number ∧ b.2.installed.get? pair.2 = some number')
    (fares : Fares (fun x y => link x y ∨ x = number ∧ y = number')
      (p.balancer.mode = .roundRobin) pair.2 number number' a b) :
    InStep pair c c' p ticket a b := by
  refine ⟨fares.woken, fares.agrees, touches.bare,
    fun guard granted => (signs guard granted).1, ?_⟩
  exact kin.turn here arrived braid {
    touches, touches', linked, installed
    settles := Calls.settles_note signs c ticket
    settles' := Calls.settles_note signs' c' ticket
    limiter := fares.limiter
    waiting := fares.waiting
    held := Calls.held_note fares.agrees signs signs' }

/-- The limiters that two pools have or give to the path. -/
theorem Braid.limiterFor (braid : Braid path c c' link p q)
    (limited : p.limiterFor path = (number, r)) (limited' : q.limiterFor path = (number', s)) :
    (link number number' ∨ number = p.limiters.length ∧ number' = q.limiters.length) ∧
      ∃ l, r.limiters[number]? = some l ∧ s.limiters[number']? = some l := by
  rcases limiterFor_spec limited with ⟨known, rfl⟩ | ⟨absent, rfl, rfl⟩ <;>
    rcases limiterFor_spec limited' with ⟨known', rfl⟩ | ⟨absent', rfl, rfl⟩
  · have linked : link number number' := by
      have both := braid.installed
      rw [known, known'] at both
      exact Option.rel_some_some.1 both
    exact ⟨Or.inl linked, braid.same linked⟩
  · have both := isSome_eq_of_rel braid.installed
    rw [known, absent'] at both
    exact absurd both (by simp)
  · have both := isSome_eq_of_rel braid.installed
    rw [absent, known'] at both
    exact absurd both (by simp)
  · refine ⟨Or.inr ⟨rfl, rfl⟩, Limiter.ofKind .qps, ?_, ?_⟩ <;>
      exact List.getElem?_concat_length

/-- Once a limiter was looked for, the path has one. -/
theorem get?_installed_limiterFor (limited : p.limiterFor path = (number, r)) :
    r.installed.get? path = some number := by
  rcases limiterFor_spec limited with ⟨known, rfl⟩ | ⟨-, rfl, rfl⟩
  · exact known
  · rw [installLimiter, Dict.get?_insert, if_pos rfl]

theorem waiting_limiterFor (limited : p.limiterFor path = (number, r)) : r.waiting = p.waiting := by
  rcases limiterFor_spec limited with ⟨-, rfl⟩ | ⟨-, -, rfl⟩ <;> rfl

/-- Once a call has asked for a permit, its path still has the limiter that was found or made for
it. -/
theorem get?_installed_acquire (limited : p.limiterFor path = (number, r)) (ticket : Nat)
    (client : String) (instant : Nat) :
    (p.acquire ticket path client instant).2.installed.get? path = some number := by
  have here := get?_installed_limiterFor limited
  rcases acquire_spec limited ticket client instant with
    whole | ⟨l, after, -, ⟨-, whole⟩ | ⟨-, whole⟩⟩ <;> rw [whole]
  · exact here
  · rw [(beside_serve _ path client number).installed]
    exact here
  · exact here

/-- A call that comes for the path fares alike at both pools. -/
theorem Kin.acquire (kin : Kin pair c c' p q) (here : p.pattern = pair.1)
    (arrived : c.came ticket = some pair) (client : String) (instant : Nat) :
    InStep pair c c' p ticket (p.acquire ticket pair.2 client instant)
      (q.acquire ticket pair.2 client instant) := by
  obtain ⟨link, braid⟩ := kin.braid here
  cases limited : p.limiterFor pair.2 with
  | mk number r =>
  cases limited' : q.limiterFor pair.2 with
  | mk number' s =>
  obtain ⟨linked, l, found, found'⟩ := braid.limiterFor limited limited'
  have touches := touches_acquire limited ticket client instant
  have touches' := touches_acquire limited' ticket client instant
  have bare : s.bare = r.bare := (touches_limiterFor limited' ticket).bare.trans
    (kin.bare.trans (touches_limiterFor limited ticket).bare.symm)
  have stocked : r.Stocked := kin.stocked.of_bare (touches_limiterFor limited ticket).bare
  have waiting : List.Forall₂ (Twins fun a b => link a b ∨ a = number ∧ b = number')
      (r.waiting.filter (·.path = pair.2)) s.waiting := by
    rw [waiting_limiterFor limited, waiting_limiterFor limited']
    exact braid.waiting.imp fun _ _ twins => twins.weaken
  have mode : r.balancer.mode = p.balancer.mode :=
    mode_eq_of_bare (touches_limiterFor limited ticket).bare
  have served (after : Limiter) : Fares (fun a b => link a b ∨ a = number ∧ b = number')
      (p.balancer.mode = .roundRobin) pair.2 number number'
      ((r.putLimiter number after).serve pair.2 client number)
      ((s.putLimiter number' after).serve pair.2 client number') := by
    rw [← mode]
    exact fares_serve (p := r.putLimiter number after) (q := s.putLimiter number' after) bare
      stocked (getElem?_putLimiter_self found after) (getElem?_putLimiter_self found' after) waiting
      client
  refine kin.inStep here arrived braid touches touches'
    (signs_acquire limited ticket client instant) (signs_acquire limited' ticket client instant)
    linked (Or.inr ⟨get?_installed_acquire limited ticket client instant,
      get?_installed_acquire limited' ticket client instant⟩) ?_
  rw [Pool.acquire, limited, Pool.acquire, limited']
  dsimp only
  rw [found, found']
  dsimp only
  -- Without a timeout the limiter answers at once; else the call may have to wait.
  by_cases prompt : l.timeout = 0
  · rw [if_pos prompt, if_pos prompt]
    cases l.take? instant with
    | none =>
        refine ⟨rfl, ?_, ⟨l, found, found'⟩, waiting⟩
        rw [throttled, throttled, pattern_eq_of_bare bare]
        exact .refused _
    | some after => exact served after
  · rw [if_neg prompt, if_neg prompt]
    cases l.attempt ticket instant with
    | mk entered after =>
        cases entered with
        | true => exact served after
        | false =>
            refine ⟨rfl, .waiting _, ⟨after, getElem?_putLimiter_self found after,
              getElem?_putLimiter_self found' after⟩, ?_⟩
            -- The call joins both queues at their ends, across from itself.
            rw [List.filter_append]
            refine List.rel_append waiting ?_
            simp only [decide_true, List.filter_cons_of_pos, List.filter_nil]
            exact .cons ⟨rfl, rfl, rfl, Or.inr ⟨rfl, rfl⟩⟩ .nil

/-- The two requests of a call that waits for the path. -/
theorem Kin.waiter (kin : Kin pair c c' p q) (arrived : c.came ticket = some pair)
    (braid : Braid pair.2 c c' link p q) :
    Option.Rel (Twins link) (p.waiter? ticket) (q.waiter? ticket) := by
  have own : p.waiter? ticket =
      (p.waiting.filter (·.path = pair.2)).find? (·.ticket = ticket) := by
    rw [waiter?, List.find?_filter]
    refine List.find?_congr fun w member => ?_
    by_cases same : w.ticket = ticket
    · have twice : some (p.pattern, w.path) = some pair := by
        rw [← kin.waits member, same, arrived]
      have path : w.path = pair.2 := congrArg Prod.snd (Option.some.inj twice)
      simp [same, path]
    · simp [same]
  rw [own]
  exact rel_find? braid.waiting fun twins => by rw [twins.ticket]

/-- A call for the path waits at both pools or at neither. -/
theorem Kin.isSome_waiter (kin : Kin pair c c' p q) (arrived : c.came ticket = some pair) :
    (p.waiter? ticket).isSome = (q.waiter? ticket).isSome := by
  by_cases here : p.pattern = pair.1
  · obtain ⟨link, braid⟩ := kin.braid here
    exact isSome_eq_of_rel (kin.waiter arrived braid)
  · have absent : p.waiter? ticket = none := by
      cases waits : p.waiter? ticket with
      | none => rfl
      | some w => exact absurd (congrArg Prod.fst (kin.pair_of_waiter arrived waits)) here
    rw [absent, waiter?, kin.elsewhere here]
    rfl

/-- Whoever leaves the two queues of a path leaves the other requests in line as they are, each
across from its twin. -/
theorem twins_dismiss
    (waiting : List.Forall₂ (Twins link) (p.waiting.filter (·.path = path)) q.waiting)
    (ticket : Nat) :
    List.Forall₂ (Twins link) ((p.dismiss ticket).waiting.filter (·.path = path))
      (q.dismiss ticket).waiting := by
  rw [dismiss, dismiss, List.filter_comm]
  refine List.rel_filter (fun w v twins => ?_) waiting
  change decide (w.ticket ≠ ticket) = true ↔ decide (v.ticket ≠ ticket) = true
  rw [twins.ticket]

/-- A call that waits for the path has another turn at both pools. -/
theorem Kin.resume (kin : Kin pair c c' p q) (here : p.pattern = pair.1)
    (arrived : c.came ticket = some pair) (braid : Braid pair.2 c c' link p q) {w v : Waiter}
    (waits : p.waiter? ticket = some w) (twins : Twins link w v) {a b : Turn × Pool}
    (touches : p.Touches a.2 ticket w.path w.limiter)
    (touches' : q.Touches b.2 ticket v.path v.limiter)
    (signs : p.Signs w.path w.limiter a.1.admission)
    (signs' : q.Signs v.path v.limiter b.1.admission) (installed : a.2.installed = p.installed)
    (installed' : b.2.installed = q.installed)
    (fares : Fares link (p.balancer.mode = .roundRobin) w.path w.limiter v.limiter a b) :
    InStep pair c c' p ticket a b := by
  have path : w.path = pair.2 := congrArg Prod.snd (kin.pair_of_waiter arrived waits)
  have path' : v.path = pair.2 := twins.path.trans path
  rw [path] at touches signs fares
  rw [path'] at touches' signs'
  exact kin.inStep here arrived braid touches touches' signs signs' (Or.inl twins.limiter)
    (Or.inl ⟨by rw [installed], by rw [installed']⟩)
    { fares with waiting := fares.waiting.imp fun _ _ twins => twins.weaken }

/-- A call that waits for the path and looks again fares alike at both pools. -/
theorem Kin.look (kin : Kin pair c c' p q) (here : p.pattern = pair.1)
    (arrived : c.came ticket = some pair) (instant : Nat) :
    Option.Rel (InStep pair c c' p ticket) (p.look ticket instant) (q.look ticket instant) := by
  obtain ⟨link, braid⟩ := kin.braid here
  rcases none_or_some_of_rel (kin.waiter arrived braid) with
    ⟨none, none'⟩ | ⟨w, v, waits, waits', twins⟩
  · rw [Pool.look, Pool.look, none, none']
    exact .none
  · obtain ⟨l, found, found'⟩ := braid.same twins.limiter
    have path : w.path = pair.2 := congrArg Prod.snd (kin.pair_of_waiter arrived waits)
    have waiting := braid.waiting
    rw [← path] at waiting
    -- Linked limiters are in the same state, so both let the call in or neither does.
    cases tried : l.attempt ticket instant with
    | mk entered after =>
    have put := getElem?_putLimiter_self found after
    have put' := getElem?_putLimiter_self found' after
    cases entered with
    | true =>
        let ready := (p.putLimiter w.limiter after).dismiss ticket
        let ready' := (q.putLimiter v.limiter after).dismiss ticket
        have looked : p.look ticket instant = some (ready.serve w.path w.client w.limiter) := by
          simp only [Pool.look, waits, found, tried, Option.bind_eq_bind, Option.bind_some, ready]
        have looked' : q.look ticket instant = some (ready'.serve w.path w.client v.limiter) := by
          simp only [Pool.look, waits', found', tried, Option.bind_eq_bind, Option.bind_some,
            ready', twins.path, twins.client]
        rw [looked, looked']
        exact .some (kin.resume here arrived braid waits twins (touches_look waits looked)
          (touches_look waits' looked') (signs_look waits looked) (signs_look waits' looked')
          (ready.beside_serve _ _ _).installed (ready'.beside_serve _ _ _).installed
          (fares_serve (p := ready) (q := ready') kin.bare kin.stocked put put'
            (twins_dismiss (p := p.putLimiter w.limiter after)
              (q := q.putLimiter v.limiter after) waiting ticket) w.client))
    | false =>
        have looked : p.look ticket instant =
            some ({ admission := .waiting l.timeout }, p.putLimiter w.limiter after) := by
          simp only [Pool.look, waits, found, tried, Option.bind_eq_bind, Option.bind_some]
        have looked' : q.look ticket instant =
            some ({ admission := .waiting l.timeout }, q.putLimiter v.limiter after) := by
          simp only [Pool.look, waits', found', tried, Option.bind_eq_bind, Option.bind_some]
        rw [looked, looked']
        exact .some (kin.resume here arrived braid waits twins (touches_look waits looked)
          (touches_look waits' looked') (signs_look waits looked) (signs_look waits' looked')
          rfl rfl ⟨rfl, .waiting _, ⟨after, put, put'⟩, waiting⟩)

/-- A call that waits for the path and whose time is over fares alike at both pools. -/
theorem Kin.expire (kin : Kin pair c c' p q) (here : p.pattern = pair.1)
    (arrived : c.came ticket = some pair) :
    Option.Rel (InStep pair c c' p ticket) (p.expire ticket) (q.expire ticket) := by
  obtain ⟨link, braid⟩ := kin.braid here
  rcases none_or_some_of_rel (kin.waiter arrived braid) with
    ⟨none, none'⟩ | ⟨w, v, waits, waits', twins⟩
  · rw [Pool.expire, Pool.expire, none, none']
    exact .none
  · obtain ⟨l, found, found'⟩ := braid.same twins.limiter
    have path : w.path = pair.2 := congrArg Prod.snd (kin.pair_of_waiter arrived waits)
    have waiting := braid.waiting
    rw [← path] at waiting
    let gone := (l.abandon ticket).2
    have put := getElem?_putLimiter_self found gone
    have put' := getElem?_putLimiter_self found' gone
    have expired : p.expire ticket = some
        ({ admission := .refused (p.throttled w.path), woken := (l.abandon ticket).1.toList },
          (p.putLimiter w.limiter gone).dismiss ticket) := by
      simp only [Pool.expire, waits, found, Option.bind_eq_bind, Option.bind_some, gone]
    have expired' : q.expire ticket = some
        ({ admission := .refused (p.throttled w.path), woken := (l.abandon ticket).1.toList },
          (q.putLimiter v.limiter gone).dismiss ticket) := by
      simp only [Pool.expire, waits', found', Option.bind_eq_bind, Option.bind_some, gone,
        throttled, pattern_eq_of_bare kin.bare, twins.path]
    rw [expired, expired']
    exact .some (kin.resume here arrived braid waits twins (touches_expire waits expired)
      (touches_expire waits' expired') (signs_expire expired _ _) (signs_expire expired' _ _)
      rfl rfl ⟨rfl, .refused _, ⟨gone, put, put'⟩, twins_dismiss (p := p.putLimiter w.limiter gone)
        (q := q.putLimiter v.limiter gone) waiting ticket⟩)

/-- The permits of two guards of a call for the path are given back alike. -/
theorem Kin.giveBack (kin : Kin pair c c' p q) (arrived : c.came ticket = some pair)
    {g g' : Guard} (holds : c.held ticket = some g) (serial : g.serial = p.serial)
    (holds' : c'.held ticket = some g') (serial' : g'.serial = q.serial) :
    (q.giveBack g'.limiter).1 = (p.giveBack g.limiter).1 ∧
      Kin pair c c' (p.giveBack g.limiter).2 (q.giveBack g'.limiter).2 := by
  obtain rfl := Option.some.inj ((kin.guards holds serial).symm.trans arrived)
  obtain ⟨link, braid⟩ := kin.braid rfl
  have linked := braid.held holds serial holds' serial'
  obtain ⟨l, found, found'⟩ := braid.same linked
  have beside := p.beside_giveBack g.limiter
  have beside' := q.beside_giveBack g'.limiter
  have back : p.giveBack g.limiter =
      (l.release.1.toList, p.putLimiter g.limiter l.release.2) := by rw [Pool.giveBack, found]
  have back' : q.giveBack g'.limiter =
      (l.release.1.toList, q.putLimiter g'.limiter l.release.2) := by rw [Pool.giveBack, found']
  refine ⟨by rw [back, back'], kin.turn rfl arrived braid {
    touches := beside.touches ticket g.path
    touches' := beside'.touches ticket g.path
    settles := c.settles_refl ticket _
    settles' := c'.settles_refl ticket _
    linked := Or.inl linked
    limiter := ⟨l.release.2, ?_, ?_⟩
    installed := Or.inl ⟨by rw [beside.installed], by rw [beside'.installed]⟩
    waiting := ?_
    held := fun holds holds' => Or.inl ⟨holds, holds'⟩ }⟩
  · rw [back]
    exact getElem?_putLimiter_self found _
  · rw [back']
    exact getElem?_putLimiter_self found' _
  · rw [beside.waiting, beside'.waiting]
    exact braid.waiting.imp fun _ _ twins => twins.weaken

end Pool

end ClusterGateway
