import ClusterGateway.Proofs.Route.Counts
import ClusterGateway.Proofs.Route.Limits

/-! # Recorded limits are the enforced limits

Whatever happens to a table, in any order, each limiter setting that is recorded is enforced by the
pool of its pattern, and nothing else is limited there. So a call is refused for want of a permit
only on a path that had a setting when the call came. For a call that comes to a pool out of
service, which is possible as long as somebody holds on to the pool, those are the settings under
which the pool last was in service. Calls and checks change neither settings nor limits.
-/

namespace ClusterGateway

deriving instance DecidableEq for Admission

namespace Table

variable {t u : Table} {p q : Pool} {noted terms : Nat → List LimiterSetting} {ticket : Nat}

/-! ### Steps of calls -/

/-- Whoever is refused because the node stops or blocks the client is refused early. -/
theorem early_of_checkClient {client : IpAddress} {error : DispatchError}
    (refused : t.checkClient client = .error error) : error.IsEarly := by
  rw [checkClient] at refused
  split at refused
  · exact Except.error.inj refused ▸ trivial
  · split at refused
    · exact Except.error.inj refused ▸ trivial
    · exact absurd refused (by simp)

/-- A call for a pool is refused before it is let in, or comes to that pool. -/
theorem dispatchTo_cases (t : Table) (p : Pool) (ticket : Nat) (path : String) (client : IpAddress)
    (instant : Nat) :
    (∃ error : DispatchError, error.IsEarly ∧
        t.dispatchTo p ticket path client instant = t.refuse error) ∨
      t.dispatchTo p ticket path client instant = t.take p ticket path client.text instant := by
  rw [Table.dispatchTo]
  cases checked : t.checkClient client with
  | error error => exact Or.inl ⟨error, early_of_checkClient checked, rfl⟩
  | ok => exact Or.inr rfl

/-- What is refused at once is not refused for want of a permit. -/
theorem not_throttled_of_early {error : DispatchError} (early : error.IsEarly)
    {pattern path : String} :
    (t.refuse error).1.admission ≠ .refused (.throttled pattern path) := by
  intro same
  obtain rfl := Admission.refused.inj same
  exact early

/-- A table goes on with the limits of another one. -/
structure Upholds (t u : Table) : Prop where
  limiters : u.limiters = t.limiters
  live : ∀ {pattern : String} {p : Pool}, t.pool? pattern = some p →
    ∃ q, u.pool? pattern = some q ∧ p.Upholds q
  gone : ∀ {p : Pool}, p ∈ t.retired → ∃ q ∈ u.retired, p.Upholds q

/-- What the step of a call does to the pools of a table: at most it swaps one of them for another
one that upholds its limits. -/
inductive Passes (noted terms : Nat → List LimiterSetting) (t u : Table) : Prop where
  | rests (router : u.router = t.router) (retired : u.retired = t.retired)
      (limiters : u.limiters = t.limiters)
  | swaps {p q : Pool} (member : p ∈ t.allPools) (upholds : p.Upholds q)
      (governed : p.Governed (noted p.serial) terms → q.Governed (noted p.serial) terms)
      (router : u.router = (t.putPool q).router) (retired : u.retired = (t.putPool q).retired)
      (limiters : u.limiters = (t.putPool q).limiters)

theorem Passes.refl (t : Table) : Passes noted terms t t := .rests rfl rfl rfl

/-- A table that enforces its settings still does so after the step of a call. -/
theorem Passes.enforces (passes : Passes noted terms t u) (enforces : t.Enforces noted terms)
    (numbered : t.Numbered) (notes : t.Notes noted) : u.Enforces noted terms := by
  cases passes with
  | rests router retired limiters => exact enforces.of_same router retired limiters
  | swaps member upholds governed router retired limiters =>
      exact (enforces.putPool numbered notes member upholds.serial
        (governed (enforces.governed notes member))).of_same router retired limiters

/-- After the step of a call a table goes on with all its limits. -/
theorem Passes.upholds (passes : Passes noted terms t u) (numbered : t.Numbered) :
    t.Upholds u := by
  cases passes with
  | rests router retired limiters =>
      refine ⟨limiters, fun {pattern p} found => ⟨p, ?_, .refl p⟩,
        fun {p} gone => ⟨p, retired ▸ gone, .refl p⟩⟩
      rwa [pool?, router]
  | @swaps p q member upholds governed router retired limiters =>
      have kept {r : Pool} (known : r ∈ t.allPools) :
          r.Upholds (if r.serial = q.serial then q else r) := by
        by_cases same : r.serial = q.serial
        · obtain rfl := numbered.eq_of_serial known member (same.trans upholds.serial)
          rwa [if_pos same]
        · rw [if_neg same]
          exact .refl r
      refine ⟨limiters, fun {pattern r} found => ⟨_, ?_, kept (mem_allPools_of_pool found)⟩,
        fun {r} gone => ⟨_, ?_, kept (List.mem_append.2 (Or.inr gone))⟩⟩
      · rw [pool?, router]
        change (t.putPool q).pool? pattern = _
        rw [pool?_putPool_eq, found, Option.map_some]
      · rw [retired]
        exact List.mem_map_of_mem gone

/-- Taking in a turn of a call touches neither pools nor settings. -/
theorem same_settle (t : Table) (turn : Turn) :
    (t.settle turn).router = t.router ∧ (t.settle turn).retired = t.retired ∧
      (t.settle turn).limiters = t.limiters := by
  rw [settle]
  split <;> exact ⟨rfl, rfl, rfl⟩

/-- A call comes to a pool on terms that are the pool's settings. -/
theorem passes_take (member : p ∈ t.allPools) (agreed : terms ticket = noted p.serial)
    (path client : String) (instant : Nat) :
    Passes noted terms t (t.take p ticket path client instant).2 := by
  obtain ⟨router, retired, limiters⟩ := same_settle
    (({ t with inFlight := t.inFlight + 1 } : Table).putPool
      (p.acquire ticket path client instant).2) (p.acquire ticket path client instant).1
  exact .swaps member (p.upholds_acquire ticket path client instant)
    (fun governed => governed.acquire agreed path client instant) router retired limiters

/-- A waiting call that has a turn swaps its pool for one that upholds the limits, if the turn
does. -/
theorem passes_resume {step : Pool → Option (Turn × Pool)} {result : Turn × Table}
    (resumed : t.resume step ticket = some result)
    (kept : ∀ {p turn q}, step p = some (turn, q) →
      p.Upholds q ∧ ∀ w ∈ q.waiting, w ∈ p.waiting) :
    Passes noted terms t result.2 := by
  obtain ⟨p, turn, q, found, stepped, rfl⟩ := resume_spec resumed
  obtain ⟨upholds, waiting⟩ := kept stepped
  obtain ⟨router, retired, limiters⟩ := same_settle (t.putPool q) turn
  exact .swaps (List.mem_of_find?_eq_some found) upholds
    (fun governed => governed.step upholds waiting) router retired limiters

/-- A call that goes away while it waits leaves all limits as they are. -/
theorem passes_cancel (cancelled : t.cancel ticket = some u) : Passes noted terms t u := by
  simp only [cancel, Option.bind_eq_bind, Option.bind_eq_some_iff] at cancelled
  obtain ⟨p, found, ⟨turn, q⟩, expired, whole⟩ := cancelled
  obtain rfl := Option.some.inj whole
  obtain ⟨upholds, waiting, -⟩ := Pool.upholds_expire expired
  exact .swaps (List.mem_of_find?_eq_some found) upholds
    (fun governed => governed.step upholds waiting) rfl rfl rfl

/-- A guard that is given back leaves all limits as they are. -/
theorem passes_finish (t : Table) (guard : Guard) : Passes noted terms t (t.finish guard).2 := by
  rw [finish]
  split
  · exact .rests rfl rfl rfl
  · next p found =>
      have upholds := p.upholds_giveBack guard.limiter
      refine .swaps (mem_allPools_of_serial found) upholds
        (fun governed => governed.step upholds fun w member => ?_) rfl rfl rfl
      rwa [Pool.waiting_giveBack] at member

/-- A step of a check leaves all limits as they are. -/
theorem passes_check {event : Traffic} (check : event.IsCheck) :
    Passes noted terms t (t.serve event) := by
  rcases t.aside_check check with same | ⟨p, member, q, aside, swapped⟩
  · rw [same]
    exact .refl t
  · rw [swapped]
    exact .swaps member aside.upholds (·.aside aside) rfl rfl rfl

/-- Gives a path at a pool a limiter that lets every request in, unless it has one. -/
def provide (t : Table) (serial : Nat) (path : String) : Table :=
  t.changePool serial fun p => (p.provision path).toOption

/-- Providing a path with a limiter that lets everything in happens at one pool that has none for
the path, or not at all. -/
theorem provide_spec (t : Table) (serial : Nat) (path : String) :
    t.provide serial path = t ∨
      ∃ p ∈ t.allPools, p.installed.get? path = none ∧
        t.provide serial path = t.putPool (p.installLimiter path .unlimited) := by
  rcases t.changePool_spec serial fun p => (p.provision path).toOption with
    same | ⟨p, q, member, provided, swapped⟩
  · exact Or.inl same
  · cases made : p.provision path with
    | error error =>
        rw [made] at provided
        exact absurd provided (by simp [Except.toOption])
    | ok r =>
        rw [made] at provided
        obtain rfl := Option.some.inj provided
        obtain ⟨absent, rfl⟩ := Pool.provision_spec made
        exact Or.inr ⟨p, member, absent, swapped⟩

/-- Providing a path with a limiter that lets everything in leaves all limits as they are. -/
theorem passes_provide (t : Table) (serial : Nat) (path : String) :
    Passes noted terms t (t.provide serial path) := by
  rcases t.provide_spec serial path with same | ⟨p, member, absent, swapped⟩
  · rw [same]
    exact .refl t
  · rw [swapped]
    have upholds := Pool.upholds_install absent
    exact .swaps member upholds (·.step upholds fun _ => id) rfl rfl rfl

/-- Providing a path with a limiter lets all pools go on, under numbers that are still apart. -/
theorem Numbered.continues_provide (numbered : t.Numbered) (serial : Nat) (path : String) :
    t.Continues (t.provide serial path) ∧ (t.provide serial path).Numbered := by
  rcases t.provide_spec serial path with same | ⟨p, member, absent, swapped⟩
  · rw [same]
    exact ⟨.refl t, numbered⟩
  · rw [swapped]
    have goesOn := p.goesOn_installLimiter path (Limiter.idle_ofKind .qps)
    exact ⟨numbered.continues_putPool member goesOn,
      numbered.of_steady (numbered.sound.steady_putPool member rfl)⟩

end Table

/-! ### Watching a table -/

/-- A table with the calls at it, and notes of the settings that count for them. -/
structure Watch where
  ledger : Ledger
  /-- The settings of the pools, by their numbers: those recorded for the pattern of the pool, or if
  it is out of service, those recorded when it last was in service. -/
  settings : Nat → List LimiterSetting := fun _ => []
  /-- The settings of the pools to which calls came, as they were then, by the tickets of the calls.
  -/
  terms : Nat → List LimiterSetting := fun _ => []

namespace Watch

/-- What can happen to a table that is watched. -/
inductive Event where
  | happen (happening : Happening)
  /-- A call that was routed to a pool and let in before comes to it. -/
  | enter (serial : Nat) (path : String) (client : IpAddress) (instant : Nat)
  /-- A call that has found no limiter for its path gives it one, unless there is one by now. -/
  | provision (serial : Nat) (path : String)

namespace Event

/-- Whether a call comes to a pool, if it is let in. -/
def isArrival : Event → Bool
  | happen (.dispatch ..) | happen (.dispatchTo ..) | enter .. => true
  | happen _ | provision .. => false

/-- Whether what happens is a step of a call or of a check. -/
def IsTraffic : Event → Prop
  | happen happening => happening.IsStep
  | enter .. | provision .. => True

end Event

abbrev table (w : Watch) : Table := w.ledger.table

/-- What becomes of the table and its calls. -/
def advance (w : Watch) : Event → Ledger
  | .happen happening => w.ledger.step happening
  | .enter serial path client instant =>
    match w.table.poolBySerial? serial with
    | none => w.ledger
    | some p =>
      { w.ledger with calls := w.ledger.calls + 1 }.conclude w.ledger.calls
        (w.table.take p w.ledger.calls path client.text instant)
  | .provision serial path =>
    { w.ledger with table := w.table.provide serial path }

/-- How the call stands that has a turn in an event, if one has. -/
def admission? (w : Watch) : Event → Option Admission
  | .happen happening => w.ledger.admission? happening
  | .enter serial path client instant =>
    (w.table.poolBySerial? serial).map fun p =>
      (w.table.take p w.ledger.calls path client.text instant).1.admission
  | .provision .. => none

/-- The settings that count for the call that has a turn in an event. A call for a path goes by what
is recorded for the pattern to which it is routed; one that comes to a pool goes by the settings of
this pool; and one that waits goes by the settings from which it picked its limiter. -/
def basis (w : Watch) : Event → List LimiterSetting
  | .happen (.dispatch path client _) =>
    match w.table.resolve path client with
    | .ok (p, _) => w.table.limiterSettings p.pattern
    | .error _ => []
  | .happen (.dispatchTo serial ..) | .enter serial .. => w.settings serial
  | .happen (.look ticket _) | .happen (.expire ticket) => w.terms ticket
  | .happen _ | .provision .. => []

/-- The terms after an event. -/
def termsAfter (w : Watch) (event : Event) : Nat → List LimiterSetting :=
  if event.isArrival then Function.update w.terms w.ledger.calls (w.basis event) else w.terms

/-- Lets something happen, and notes the settings of all pools and of the call that comes. -/
def step (w : Watch) (event : Event) : Watch where
  ledger := w.advance event
  settings := (w.advance event).table.settingsOf w.settings
  terms := w.termsAfter event

def run (w : Watch) (events : List Event) : Watch := events.foldl step w

/-- The table without pools. -/
def opened (settings : PoolSettings) (hostWait : Nat) (acl : AccessList) : Watch where
  ledger := { table := { settings, hostWait, acl } }

variable {w : Watch}

/-- What is kept while a table is watched. -/
structure Kept (w : Watch) : Prop where
  books : w.ledger.Books
  notes : w.table.Notes w.settings
  enforces : w.table.Enforces w.settings w.terms

/-- Without pools there is nothing that could be limited otherwise than recorded. -/
theorem kept_opened (settings : PoolSettings) (hostWait : Nat) (acl : AccessList) :
    (opened settings hostWait acl).Kept where
  books := Ledger.books_empty settings hostWait acl
  notes := fun found => absurd found (by simp [opened, table, Table.pool?, Router.get?])
  enforces := Table.enforces_empty settings hostWait acl _ _

/-- No call waits yet under the ticket of the next one. -/
theorem Kept.fresh (kept : w.Kept) : ∀ p ∈ w.table.allPools, w.ledger.calls ∉ p.tickets :=
  fun p member here =>
    Nat.lt_irrefl _ (kept.books.early (kept.books.waits.2 ⟨p, member, here⟩))

/-- The terms of a call that comes are noted, and for the calls that wait nothing changes. -/
theorem Kept.enforces_termsAfter (kept : w.Kept) (event : Event) :
    w.table.Enforces w.settings (w.termsAfter event) := by
  rw [termsAfter]
  split
  · exact kept.enforces.note kept.fresh (w.basis event)
  · exact kept.enforces

/-- The settings that count for a call that comes are noted under its ticket. -/
theorem termsAfter_of_arrival (w : Watch) {event : Event} (arrives : event.isArrival = true) :
    w.termsAfter event w.ledger.calls = w.basis event := by
  rw [termsAfter, if_pos arrives, Function.update_self]

/-- A call for a path is refused at once, or comes to the pool of a pattern and goes by the settings
of that pool. -/
theorem Kept.dispatch_spec (kept : w.Kept) (path : String) (client : IpAddress) (instant : Nat) :
    (∃ error : DispatchError, error.IsEarly ∧
        w.table.dispatch w.ledger.calls path client instant = w.table.refuse error) ∨
      ∃ p rest, p ∈ w.table.allPools ∧
        w.basis (.happen (.dispatch path client instant)) = w.settings p.serial ∧
        w.table.dispatch w.ledger.calls path client instant =
          w.table.take p w.ledger.calls rest client.text instant := by
  have sound := kept.books.numbered.sound
  rw [basis, Table.dispatch, Table.resolve]
  cases found : w.table.router.route path with
  | none => exact Or.inl ⟨.noRoute path, trivial, rfl⟩
  | some m =>
      have served := Table.pool?_of_route found
      dsimp only
      cases checked : w.table.checkClient client with
      | error error => exact Or.inl ⟨error, Table.early_of_checkClient checked, rfl⟩
      | ok =>
          refine Or.inr ⟨m.target, m.path, Table.mem_allPools_of_pool served, ?_, rfl⟩
          rw [kept.notes served, ← (sound.coherent.pools _ _ served).1]
          rfl

/-- A call that comes to a pool it was routed to before goes by the settings of that pool. -/
theorem passes_take (w : Watch) {event : Event} {serial : Nat} {p : Pool}
    (found : w.table.poolBySerial? serial = some p) (arrives : event.isArrival = true)
    (basis : w.basis event = w.settings serial) (path client : String) (instant : Nat) :
    Table.Passes w.settings (w.termsAfter event) w.table
      (w.table.take p w.ledger.calls path client instant).2 := by
  have same := Table.serial_of_find found
  refine Table.passes_take (Table.mem_allPools_of_serial found) ?_ path client instant
  rw [w.termsAfter_of_arrival arrives, basis, same]

/-- A step of a call or of a check at most swaps one pool. -/
theorem Kept.passes (kept : w.Kept) {event : Event} (traffic : event.IsTraffic) :
    Table.Passes w.settings (w.termsAfter event) w.table (w.advance event).table := by
  cases event with
  | happen happening =>
      cases happening with
      | dispatch path client instant =>
          rw [advance, Ledger.step, Ledger.table_conclude]
          -- The call goes by the settings of the pool to which it is routed.
          rcases kept.dispatch_spec path client instant with
            ⟨error, -, whole⟩ | ⟨p, rest, member, basis, whole⟩ <;> rw [whole]
          · exact .rests rfl rfl rfl
          · refine Table.passes_take member ?_ rest client.text instant
            rw [w.termsAfter_of_arrival rfl, basis]
      | dispatchTo serial path client instant =>
          rw [advance, Ledger.step]
          cases found : w.table.poolBySerial? serial with
          | none => exact .refl _
          | some p =>
              dsimp only
              rw [Ledger.table_conclude]
              rcases w.table.dispatchTo_cases p w.ledger.calls path client instant with
                ⟨error, -, whole⟩ | whole <;> rw [whole]
              · exact .rests rfl rfl rfl
              · exact w.passes_take found rfl rfl path client.text instant
      | look ticket instant =>
          rw [advance, Ledger.step]
          cases looked : w.table.look ticket instant with
          | none => exact .refl _
          | some result =>
              rw [Option.map_some, Option.getD_some, Ledger.table_conclude]
              refine Table.passes_resume looked fun {p turn q} turned => ?_
              obtain ⟨upholds, waiting, -⟩ := Pool.upholds_look turned
              exact ⟨upholds, waiting⟩
      | expire ticket =>
          rw [advance, Ledger.step]
          cases expired : w.table.expire ticket with
          | none => exact .refl _
          | some result =>
              rw [Option.map_some, Option.getD_some, Ledger.table_conclude]
              refine Table.passes_resume expired fun {p turn q} turned => ?_
              obtain ⟨upholds, waiting, -⟩ := Pool.upholds_expire turned
              exact ⟨upholds, waiting⟩
      | cancel ticket =>
          rw [advance, Ledger.step]
          cases cancelled : w.table.cancel ticket with
          | none => exact .refl _
          | some u => exact Table.passes_cancel cancelled
      | drop guard =>
          rw [advance, Ledger.step]
          split
          · exact Table.passes_finish w.table guard
          · exact .refl _
      | perform operation change =>
          cases operation with
          | traffic event => exact Table.passes_check change
          | addPool | removePool | addHost | removeHost | changeBalancer | setLimiter | restore
          | shutdownPools => exact traffic.elim
      | block | stop => exact traffic.elim
  | enter serial path client instant =>
      rw [advance]
      cases found : w.table.poolBySerial? serial with
      | none => exact .refl _
      | some p =>
          dsimp only
          rw [Ledger.table_conclude]
          exact w.passes_take found rfl rfl path client.text instant
  | provision serial path => exact w.table.passes_provide serial path

/-- Whatever happens, the pools enforce the settings of their patterns. -/
theorem Kept.enforces_advance (kept : w.Kept) (event : Event) :
    (w.advance event).table.Enforces w.settings (w.termsAfter event) := by
  have before := kept.enforces_termsAfter event
  have calls (traffic : event.IsTraffic) :=
    (kept.passes traffic).enforces before kept.books.numbered kept.notes
  cases event with
  | happen happening =>
      cases happening with
      | perform operation change => exact before.perform kept.books.numbered kept.notes change
      | block | stop => exact before.of_same rfl rfl rfl
      | dispatch | dispatchTo | look | expire | cancel | drop => exact calls trivial
  | enter | provision => exact calls trivial

/-- Whatever happens at the table, the books of the calls are kept. -/
theorem Kept.books_advance (kept : w.Kept) (event : Event) : (w.advance event).Books := by
  have books := kept.books
  cases event with
  | happen happening => exact books.step happening
  | enter serial path client instant =>
      rw [advance]
      cases found : w.table.poolBySerial? serial with
      | none => exact books
      | some p => exact books.take (Table.mem_allPools_of_serial found) path client.text instant
  | provision serial path =>
      obtain ⟨continues, numbered⟩ := books.numbered.continues_provide serial path
      exact books.continues numbered continues

/-- Whatever happens, what is kept while a table is watched is kept. -/
theorem Kept.step (kept : w.Kept) (event : Event) : (w.step event).Kept := by
  have books := kept.books_advance event
  exact ⟨books, books.numbered.sound.notes_settingsOf w.settings,
    (kept.enforces_advance event).refresh books.numbered.sound⟩

/-- What is kept while a table is watched is kept in every run. -/
theorem Kept.run (kept : w.Kept) (events : List Event) : (w.run events).Kept := by
  induction events generalizing w with
  | nil => exact kept
  | cons event events ih => exact ih (kept.step event)

/-! ### Refusals for want of a permit -/

/-- A call that comes to a pool is refused for want of a permit only on a path that the settings of
the pool limit. -/
theorem Kept.throttled_of_take (kept : w.Kept) {p : Pool} (member : p ∈ w.table.allPools)
    {ticket instant : Nat} {path client pattern rest : String}
    (refused : (w.table.take p ticket path client instant).1.admission =
      .refused (.throttled pattern rest)) :
    ∃ s ∈ w.settings p.serial, s.pattern = pattern ∧ s.path = rest :=
  (kept.enforces.governed kept.notes member).throttled refused

/-- The same for a pool that is known by its number. -/
theorem Kept.throttled_of_serial (kept : w.Kept) {p : Pool} {serial : Nat}
    (found : w.table.poolBySerial? serial = some p) {ticket instant : Nat}
    {path client pattern rest : String}
    (refused : (w.table.take p ticket path client instant).1.admission =
      .refused (.throttled pattern rest)) :
    ∃ s ∈ w.settings serial, s.pattern = pattern ∧ s.path = rest := by
  have same := Table.serial_of_find found
  exact same ▸ kept.throttled_of_take (Table.mem_allPools_of_serial found) refused

/-- A call that waits is refused for want of a permit only when its time is over, and on the path
on which it came. -/
theorem Kept.throttled_of_expire (kept : w.Kept) {ticket : Nat} {result : Turn × Table}
    (expired : w.table.expire ticket = some result) {pattern rest : String}
    (refused : result.1.admission = .refused (.throttled pattern rest)) :
    ∃ s ∈ w.terms ticket, s.pattern = pattern ∧ s.path = rest := by
  obtain ⟨p, turn, q, found, stepped, rfl⟩ := Table.resume_spec expired
  obtain ⟨-, -, waiter, waits, ticketed, told⟩ := Pool.upholds_expire stepped
  obtain ⟨rfl, rfl⟩ := DispatchError.throttled.inj (Admission.refused.inj (told.symm.trans refused))
  have governed := kept.enforces.governed kept.notes (List.mem_of_find?_eq_some found)
  exact ticketed ▸ governed.waiting waiter waits

/-- A call that looks again is never refused for want of a permit: if it gets none it waits on. -/
theorem not_throttled_of_look {t : Table} {ticket instant : Nat} {result : Turn × Table}
    (looked : t.look ticket instant = some result) {pattern rest : String} :
    result.1.admission ≠ .refused (.throttled pattern rest) := by
  intro refused
  obtain ⟨p, turn, q, -, stepped, rfl⟩ := Table.resume_spec looked
  obtain ⟨-, -, noHost⟩ := Pool.upholds_look stepped
  exact absurd (noHost _ refused) (by simp)

/-- Whenever a call is refused for want of a permit, the settings that count for it limit its
path. -/
theorem Kept.throttled (kept : w.Kept) {event : Event} {pattern rest : String}
    (refused : w.admission? event = some (.refused (.throttled pattern rest))) :
    ∃ s ∈ w.basis event, s.pattern = pattern ∧ s.path = rest := by
  cases event with
  | happen happening =>
      cases happening with
      | dispatch path client instant =>
          have told := Option.some.inj refused
          rcases kept.dispatch_spec path client instant with
            ⟨error, early, whole⟩ | ⟨p, rest, member, basis, whole⟩
          · exact absurd (whole ▸ told) (Table.not_throttled_of_early early)
          · rw [basis]
            exact kept.throttled_of_take member (whole ▸ told)
      | dispatchTo serial path client instant =>
          obtain ⟨p, found, told⟩ := Option.map_eq_some_iff.1 refused
          rcases w.table.dispatchTo_cases p w.ledger.calls path client instant with
            ⟨error, early, whole⟩ | whole
          · exact absurd (whole ▸ told) (Table.not_throttled_of_early early)
          · exact kept.throttled_of_serial found (whole ▸ told)
      | look ticket instant =>
          obtain ⟨result, looked, told⟩ := Option.map_eq_some_iff.1 refused
          exact absurd told (not_throttled_of_look looked)
      | expire ticket =>
          obtain ⟨result, expired, told⟩ := Option.map_eq_some_iff.1 refused
          exact kept.throttled_of_expire expired told
      | cancel | drop | perform | block | stop =>
          exact absurd refused (by simp [admission?, Ledger.admission?])
  | enter serial path client instant =>
      obtain ⟨p, found, told⟩ := Option.map_eq_some_iff.1 refused
      exact kept.throttled_of_serial found told
  | provision => exact absurd refused (by simp [admission?])

/-! ### What is recorded is what holds -/

/-- The recorded settings are the limits, and no call is limited otherwise. -/
structure Enforced (w : Watch) : Prop where
  /-- A setting has the pattern under which it is recorded, and the pool of that pattern limits its
  path as a limiter does that is built from the setting anew. -/
  recorded : ∀ pattern, ∀ s ∈ w.table.limiterSettings pattern, s.pattern = pattern ∧
    ∃ p l, w.table.pool? pattern = some p ∧ p.limiter? s.path = some l ∧ l.Enforces s
  /-- On the other paths that a pool has seen, it lets every request in at once. -/
  others : ∀ pattern p, w.table.pool? pattern = some p → ∀ path ∈ p.methods,
    (∀ s ∈ w.table.limiterSettings pattern, s.path ≠ path) →
    p.limiter? path = some (Limiter.ofKind .qps)
  /-- What counts for a pool in service is what is recorded for its pattern. -/
  current : ∀ pattern p, w.table.pool? pattern = some p →
    w.settings p.serial = w.table.limiterSettings pattern
  /-- What counts for a pool that is put out of service does not change any more. -/
  last : ∀ event, ∀ p ∈ (w.step event).table.retired,
    (w.step event).settings p.serial = w.settings p.serial
  /-- A call is refused for want of a permit only on a path below a pattern that has a setting among
  those that count for it. -/
  throttled : ∀ event pattern path,
    w.admission? event = some (.refused (.throttled pattern path)) →
    ∃ s ∈ w.basis event, s.pattern = pattern ∧ s.path = path
  /-- Calls and checks leave all limits and settings as they are. -/
  traffic : ∀ event, event.IsTraffic → w.table.Upholds (w.step event).table

/-- From what is kept while a table is watched it follows that the recorded settings are the
limits. -/
theorem Kept.enforced (kept : w.Kept) : w.Enforced := by
  have sound := kept.books.numbered.sound
  refine ⟨fun pattern s member => ?_, fun pattern p served path member free => ?_,
    fun pattern p => kept.notes, fun event p gone => ?_, fun _ _ _ => kept.throttled,
    fun _ traffic => (kept.passes traffic).upholds kept.books.numbered⟩
  · have known : w.table.locations.contains pattern = true := by
      by_contra absent
      rw [Bool.not_eq_true] at absent
      rw [Table.limiterSettings, sound.limiters_of_absent absent] at member
      exact absurd member List.not_mem_nil
    obtain ⟨p, served⟩ := sound.exists_pool known
    have governed := kept.enforces.live served
    obtain ⟨l, there, enforces⟩ := governed.recorded s member
    exact ⟨(governed.patterns s member).trans (sound.coherent.pools _ _ served).1,
      p, l, served, there, enforces⟩
  · have governed := kept.enforces.live served
    obtain ⟨number, installed⟩ := Dict.contains_iff.1 (Dict.mem_keys.1 member)
    obtain ⟨l, there⟩ := governed.known installed
    have found := Pool.limiter?_eq_some.2 ⟨number, installed, there⟩
    rw [found, governed.others found free, Limiter.unlimited]
  · exact (kept.books_advance event).numbered.sound.settingsOf_of_retired gone

/-- After every run, in which operations, restores, calls and checks come in any order, the recorded
settings are the limits. -/
theorem recorded_limits_enforced (settings : PoolSettings) (hostWait : Nat) (acl : AccessList)
    (events : List Event) : ((opened settings hostWait acl).run events).Enforced :=
  ((kept_opened settings hostWait acl).run events).enforced

/-- A pool with a limited path is removed while somebody holds on to it and uses its only permit. -/
def heldOn : List Event :=
  [.happen (.perform (.addPool ⟨"/a", ["http://[::1]:80"], "round-robin"⟩) trivial),
   .happen (.perform (.setLimiter
      { pattern := "/a", path := "/x", kind := "concurrency", volume := 1 } 0) trivial),
   .happen (.perform (.removePool "/a") trivial),
   .happen (.dispatchTo 0 "/x" (.v4 ⟨0⟩) 0)]

/-- A call may be refused for want of a permit although no setting is recorded any more: it comes to
a pool out of service. -/
theorem throttled_after_removal :
    ¬ ∀ events serial path client instant pattern rest,
      ((opened {} 5000 .empty).run events).admission?
          (.happen (.dispatchTo serial path client instant)) =
        some (.refused (.throttled pattern rest)) →
      ∃ s ∈ ((opened {} 5000 .empty).run events).table.limiterSettings pattern, s.path = rest := by
  intro always
  have nothing : ((opened {} 5000 .empty).run heldOn).table.limiterSettings "/a" = [] := by
    decide +kernel
  obtain ⟨s, member, -⟩ := always heldOn 0 "/x" (.v4 ⟨0⟩) 0 "/a" "/x" (by decide +kernel)
  exact absurd (nothing ▸ member) List.not_mem_nil

end Watch

end ClusterGateway
