import ClusterGateway.Proofs.Route.InFlight
import ClusterGateway.Proofs.Route.Strand

/-! # A table with the calls for one path only

Anything may happen to a table, and each call has a ticket of its own. We compare such a run with
the one from which the calls for all paths but one are left out. The pools of both tables are kin
for that path, and the calls that are left out do not disturb this.
-/

namespace ClusterGateway

/-- A table and the calls at it. -/
structure Flow where
  table : Table
  calls : Calls := {}

/-- What a call is told of its host, its refusal or its waiting. -/
inductive Answer where
  /-- It is served by the pool with a number. The place is left out where hosts take turns. -/
  | routed (serial : Nat) (place : Option (String × WebUrl))
  | refused (error : DispatchError)
  | waiting (time : Nat)
deriving DecidableEq, Repr

/-- What comes of a step of a call. -/
structure Reply where
  ticket : Nat
  /-- There is none when a call gives up or gives its guard back. -/
  answer : Option Answer
  /-- The calls that are woken. -/
  woken : List Nat
deriving DecidableEq, Repr

namespace Table

/-- Whether it is by turns that the pool with a number chooses its hosts. -/
def takesTurns (t : Table) (serial : Nat) : Bool :=
  (t.poolBySerial? serial).any (·.balancer.mode = .roundRobin)

def answer (t : Table) : Admission → Answer
  | .granted guard =>
    .routed guard.serial
      (if t.takesTurns guard.serial then none else some (guard.host, guard.target))
  | .refused error => .refused error
  | .waiting time => .waiting time

end Table

namespace Flow

/-- Whatever can happen to a table and the calls at it. Every call has a ticket of its own. -/
inductive Event where
  | dispatch (ticket : Nat) (path : String) (client : IpAddress) (instant : Nat)
  /-- A call comes for a pool that was found before and may have been replaced since. -/
  | dispatchTo (serial ticket : Nat) (path : String) (client : IpAddress) (instant : Nat)
  | look (ticket instant : Nat)
  | expire (ticket : Nat)
  | cancel (ticket : Nat)
  /-- A call gives its guard back. -/
  | drop (ticket : Nat)
  /-- Something happens that is no step of a call. -/
  | perform (operation : Operation) (change : operation.IsChange)
  /-- Other networks are blocked from now on. -/
  | block (acl : AccessList)
  | stop

/-- The ticket of a call that comes. -/
def Event.arrival? : Event → Option Nat
  | dispatch ticket .. | dispatchTo _ ticket .. => some ticket
  | _ => none

/-- The pattern and the path below it for which a call came whose step an event is. -/
def pair? (s : Flow) : Event → Option (String × String)
  | .dispatch _ path _ _ => (s.table.router.route path).map fun m => (m.target.pattern, m.path)
  | .dispatchTo serial _ path _ _ => (s.table.poolBySerial? serial).map fun p => (p.pattern, path)
  | .look ticket _ | .expire ticket | .cancel ticket | .drop ticket => s.calls.came ticket
  | .perform .. | .block _ | .stop => none

/-- Whether an event is a step of a call for a path, or none of a call. -/
def concerns (s : Flow) (pair : String × String) : Event → Bool
  | .perform .. | .block _ | .stop => true
  | event => s.pair? event = some pair

/-- Notes for which path a call comes, if there is a pool for it. -/
def arrive (s : Flow) (ticket : Nat) : Option (String × String) → Flow
  | some pair => { s with calls := s.calls.arrive ticket pair }
  | none => s

/-- Takes in how a call stands after a turn. -/
def conclude (s : Flow) (ticket : Nat) (result : Turn × Table) : Option Reply × Flow :=
  (some ⟨ticket, result.2.answer result.1.admission, result.1.woken⟩,
    { table := result.2, calls := s.calls.note ticket result.1.admission })

/-- Lets something happen; what is not possible changes nothing. -/
def step (s : Flow) : Event → Option Reply × Flow
  | event@(.dispatch ticket path client instant) =>
    (s.arrive ticket (s.pair? event)).conclude ticket (s.table.dispatch ticket path client instant)
  | event@(.dispatchTo serial ticket path client instant) =>
    match s.table.poolBySerial? serial with
    | none => (none, s)
    | some p =>
      (s.arrive ticket (s.pair? event)).conclude ticket
        (s.table.dispatchTo p ticket path client instant)
  | .look ticket instant => ((s.table.look ticket instant).map (s.conclude ticket)).getD (none, s)
  | .expire ticket => ((s.table.expire ticket).map (s.conclude ticket)).getD (none, s)
  | .cancel ticket =>
    match s.table.cancel ticket with
    | none => (none, s)
    | some table =>
      (some ⟨ticket, none, ((s.table.expire ticket).map (·.1.woken)).getD []⟩, { s with table })
  | .drop ticket =>
    match s.calls.held ticket with
    | none => (none, s)
    | some guard =>
      let (woken, table) := s.table.finish guard
      (some ⟨ticket, none, woken⟩, { table, calls := s.calls.drop ticket })
  | .perform operation _ => (none, { s with table := s.table.perform operation })
  | .block acl => (none, { s with table := { s.table with acl } })
  | .stop => (none, { s with table := { s.table with stopping := true } })

/-- What comes of the steps of the calls for a path. -/
def replies (pair : String × String) (s : Flow) : List Event → List Reply
  | [] => []
  | event :: events =>
    (if s.pair? event = some pair then (s.step event).1.toList else []) ++
      replies pair (s.step event).2 events

/-- A run without the steps of calls for other paths. -/
def own (pair : String × String) (s : Flow) : List Event → List Event
  | [] => []
  | event :: events =>
    if s.concerns pair event then event :: own pair (s.step event).2 events
    else own pair (s.step event).2 events

end Flow

/-! ### Tables after a step of a call -/

namespace Table

variable {R : Pool → Pool → Prop} {t u v w : Table} {p : Pool}

/-- A table differs from another one at most in its counts. -/
def Recounted (t u : Table) : Prop := ∃ metrics inFlight, u = { t with metrics, inFlight }

theorem Recounted.refl (t : Table) : t.Recounted t := ⟨t.metrics, t.inFlight, rfl⟩

theorem Recounted.nextSerial (counted : t.Recounted u) : u.nextSerial = t.nextSerial := by
  obtain ⟨_, _, rfl⟩ := counted
  rfl

/-- Tables with alike pools have alike pools still when both are counted anew. -/
theorem Alike.recounted (alike : t.Alike R u) (counted : t.Recounted v)
    (counted' : u.Recounted w) : v.Alike R w := by
  obtain ⟨_, _, rfl⟩ := counted
  obtain ⟨_, _, rfl⟩ := counted'
  exact ⟨alike.settings, alike.locations, alike.limiters, alike.acl, alike.stopping,
    alike.nextSerial, alike.pools, alike.retired⟩

theorem Numbered.recounted (numbered : t.Numbered) (counted : t.Recounted u) : u.Numbered := by
  obtain ⟨_, _, rfl⟩ := counted
  exact numbered.of_steady ⟨rfl, rfl, rfl, rfl, rfl, rfl⟩

theorem recounted_settle (t : Table) (turn : Turn) : t.Recounted (t.settle turn) := by
  rw [settle]
  split <;> exact ⟨_, _, rfl⟩

theorem recounted_leave (t : Table) : t.Recounted t.leave := ⟨_, _, rfl⟩

theorem recounted_refuse (t : Table) (error : DispatchError) :
    t.Recounted (t.refuse error).2 := ⟨_, _, rfl⟩

/-- A call that comes to a pool changes that pool, and else nothing but the counts. -/
theorem recounted_take (t : Table) (p : Pool) (ticket : Nat) (path client : String)
    (instant : Nat) :
    (t.putPool (p.acquire ticket path client instant).2).Recounted
      (t.take p ticket path client instant).2 := by
  obtain ⟨_, _, settled⟩ := recounted_settle
    (({ t with inFlight := t.inFlight + 1 } : Table).putPool
      (p.acquire ticket path client instant).2) (p.acquire ticket path client instant).1
  exact ⟨_, _, settled⟩

/-- A call that goes away leaves the pool at which it waits, in the way in which one does whose time
is over. -/
theorem cancel_spec {ticket : Nat} (cancelled : t.cancel ticket = some u) :
    ∃ p turn q, t.allPools.find? (fun p => (p.waiter? ticket).isSome) = some p ∧
      p.expire ticket = some (turn, q) ∧ u = (t.putPool q).leave := by
  simp only [cancel, Option.bind_eq_bind, Option.bind_eq_some_iff] at cancelled
  obtain ⟨p, found, ⟨turn, q⟩, expired, whole⟩ := cancelled
  exact ⟨p, turn, q, found, expired, (Option.some.inj whole).symm⟩

/-- At the pool that is found for a waiting call, the call waits. -/
theorem waiter_of_find {ticket : Nat}
    (found : t.allPools.find? (fun p => (p.waiter? ticket).isSome) = some p) :
    p ∈ t.allPools ∧ ∃ w, p.waiter? ticket = some w := by
  have waits : (p.waiter? ticket).isSome = true := by simpa using List.find?_some found
  exact ⟨List.mem_of_find?_eq_some found, Option.isSome_iff_exists.1 waits⟩

/-- Swapping a pool for itself changes nothing, since no other has its number. -/
theorem Numbered.putPool_same (numbered : t.Numbered) (member : p ∈ t.allPools) :
    t.putPool p = t := by
  have kept {q : Pool} (known : q ∈ t.allPools) :
      (if q.serial = p.serial then p else q) = q := by
    split
    · next same => exact (numbered.eq_of_serial known member same).symm
    · rfl
  have live : t.router.entries.map (fun _ q => if q.serial = p.serial then p else q) =
      t.router.entries := by
    apply Dict.ext_get?
    intro pattern
    rw [Dict.get?_map]
    cases found : t.router.entries.get? pattern with
    | none => rfl
    | some q => exact congrArg some (kept (mem_allPools_of_pool found))
  have gone : t.retired.map (fun q => if q.serial = p.serial then p else q) = t.retired :=
    (List.map_congr_left fun q known => kept (List.mem_append_right _ known)).trans
      (List.map_id t.retired)
  simp only [putPool, live, gone]

end Table

namespace Flow

variable {pair : String × String} {s s' : Flow} {p q : Pool} {ticket number : Nat} {path : String}

/-- Two flows of which the second one has only the calls for one path, and otherwise goes like the
first one. -/
structure Mirrors (pair : String × String) (s s' : Flow) : Prop where
  numbered : s.table.Numbered
  numbered' : s'.table.Numbered
  alike : s.table.Alike (Pool.Kin pair s.calls s'.calls) s'.table
  came : ∀ k, s'.calls.came k = (s.calls.came k).filter (· = pair)
  held : ∀ {k}, s.calls.came k = some pair →
    Option.Rel (fun g g' => g'.serial = g.serial) (s.calls.held k) (s'.calls.held k)
  /-- No other call holds a guard. -/
  free : ∀ {k}, s.calls.came k ≠ some pair → s'.calls.held k = none
  /-- Guards belong to calls that came and to pools that were built. -/
  known : ∀ {k g}, s.calls.held k = some g →
    s.calls.came k ≠ none ∧ g.serial < s.table.nextSerial

/-- The same calls have come for the path in both flows. -/
theorem Mirrors.came_iff (mirrors : Mirrors pair s s') (k : Nat) :
    s'.calls.came k = some pair ↔ s.calls.came k = some pair := by
  rw [mirrors.came, Option.filter_eq_some_iff]
  simp

/-- Being kin outlasts what is done to pools apart from requests. -/
theorem Mirrors.lasting (mirrors : Mirrors pair s s') :
    Lasting (Pool.Kin pair s.calls s'.calls) s.table.nextSerial :=
  Pool.lasting_kin pair s'.calls fun holds => (mirrors.known holds).2

/-- Every pool of the first flow has a kin pool in the second one. -/
theorem Mirrors.exists_kin (mirrors : Mirrors pair s s') (member : p ∈ s.table.allPools) :
    ∃ q ∈ s'.table.allPools, Pool.Kin pair s.calls s'.calls p q := by
  have found := mirrors.numbered.poolBySerial? member
  rcases none_or_some_of_rel (mirrors.alike.poolBySerial? mirrors.lasting p.serial) with
    ⟨none, -⟩ | ⟨x, q, found', known, kin⟩
  · exact absurd (none.symm.trans found) (by simp)
  · obtain rfl := Option.some.inj (found'.symm.trans found)
    exact ⟨q, Table.mem_allPools_of_serial known, kin⟩

/-- Both tables change, and the pools stay kin. -/
theorem Mirrors.change (mirrors : Mirrors pair s s') {u u' : Table} (numbered : u.Numbered)
    (numbered' : u'.Numbered) (alike : u.Alike (Pool.Kin pair s.calls s'.calls) u')
    (next : s.table.nextSerial ≤ u.nextSerial) :
    Mirrors pair { s with table := u } { s' with table := u' } :=
  { mirrors with
    numbered, numbered', alike
    known := fun holds =>
      ⟨(mirrors.known holds).1, Nat.lt_of_lt_of_le (mirrors.known holds).2 next⟩ }

/-- Flows that mirror one another still do so when both tables are counted anew. -/
theorem Mirrors.recounted (mirrors : Mirrors pair s s') {u u' : Table}
    (counted : s.table.Recounted u) (counted' : s'.table.Recounted u') :
    Mirrors pair { s with table := u } { s' with table := u' } := by
  refine mirrors.change (mirrors.numbered.recounted counted)
    (mirrors.numbered'.recounted counted') (mirrors.alike.recounted counted counted') ?_
  exact counted.nextSerial.ge

/-! ### Steps of calls for other paths -/

/-- A call comes for another path. -/
theorem Mirrors.arrive (mirrors : Mirrors pair s s') (fresh : s.calls.came ticket = none)
    {other : String × String} (foreign : other ≠ pair) :
    Mirrors pair { s with calls := s.calls.arrive ticket other } s' := by
  have arrived : (s.calls.arrive ticket other).came ticket = some other :=
    Function.update_self _ _ _
  have others {k : Nat} (different : k ≠ ticket) :
      (s.calls.arrive ticket other).came k = s.calls.came k := Function.update_of_ne different _ _
  have own {k : Nat} :
      (s.calls.arrive ticket other).came k = some pair ↔ s.calls.came k = some pair := by
    by_cases same : k = ticket
    · subst same
      rw [arrived, fresh]
      exact iff_of_false (fun equal => foreign (Option.some.inj equal)) (by simp)
    · rw [others same]
  have grown {k : Nat} (came : s.calls.came k ≠ none) :
      (s.calls.arrive ticket other).came k = s.calls.came k :=
    others fun same => came (same ▸ fresh)
  have spares (serial : Nat) : s.calls.Spares (s.calls.arrive ticket other) serial :=
    ⟨fun {k v} known => (grown (by simp [known])).trans known, fun holds _ => holds⟩
  exact {
    mirrors with
    alike := mirrors.alike.imp fun kin =>
      kin.spared (spares _) ⟨fun known => known, fun holds _ => holds⟩
    came := fun k => by
      rw [mirrors.came]
      by_cases same : k = ticket
      · subst same
        rw [arrived, fresh, Option.filter_some, if_neg (by simpa using foreign)]
        rfl
      · rw [others same]
    held := fun came => mirrors.held (own.1 came)
    free := fun came => mirrors.free fun same => came (own.2 same)
    known := fun holds => ⟨by
      rw [grown (mirrors.known holds).1]
      exact (mirrors.known holds).1, (mirrors.known holds).2⟩ }

/-- A call for another path has a turn. -/
theorem Mirrors.stray (mirrors : Mirrors pair s s') (member : p ∈ s.table.allPools)
    (arrived : s.calls.came ticket = some (p.pattern, path)) (foreign : (p.pattern, path) ≠ pair)
    (touches : p.Touches q ticket path number)
    (uses : p.Uses s.calls path number ∨
      number = p.limiters.length ∧ number < q.limiters.length)
    {d : Calls} (settles : s.calls.Settles d ticket (p.Signed path number)) {u : Table}
    (counted : (s.table.putPool q).Recounted u) :
    Mirrors pair { table := u, calls := d } s' := by
  obtain ⟨x, member', kin⟩ := mirrors.exists_kin member
  have outline := Pool.outline_eq_of_bare touches.bare
  have serial := Pool.serial_eq_of_bare touches.bare
  -- The call is none of those for the path, and holds nothing in the second flow.
  have elsewhere {k : Nat} (own : s.calls.came k = some pair) : k ≠ ticket := by
    rintro rfl
    exact foreign (Option.some.inj (arrived.symm.trans own))
  have unheld : s'.calls.held ticket = none := by
    refine mirrors.free fun own => elsewhere own rfl
  have swapped : Pool.Kin pair d s'.calls q x :=
    kin.stray touches arrived settles uses foreign fun holds holds' =>
      absurd (unheld.symm.trans holds') (by simp)
  have put : (s.table.putPool q).Alike (Pool.Kin pair d s'.calls) s'.table := by
    rw [← mirrors.numbered'.putPool_same member']
    refine mirrors.alike.putPool Pool.Kin.bare (fun {y z} kin different => ?_)
      (Pool.serial_eq_of_bare swapped.bare) swapped
    refine kin.spared (settles.spares fun fits => ?_) ⟨fun known => known, fun holds _ => holds⟩
    rw [fits.1, ← serial]
    exact different.symm
  refine ⟨?_, mirrors.numbered', put.recounted counted (.refl _), ?_, fun {k} own => ?_, ?_,
    fun {k g} holds => ?_⟩
  · exact Table.Numbered.recounted
      (mirrors.numbered.of_steady (mirrors.numbered.sound.steady_putPool member outline)) counted
  · rw [settles.came]
    exact mirrors.came
  · rw [settles.came] at own
    rw [settles.others (elsewhere own)]
    exact mirrors.held own
  · rw [settles.came]
    exact mirrors.free
  · have next : u.nextSerial = s.table.nextSerial := counted.nextSerial
    rw [settles.came, next]
    rcases settles.cases holds with old | ⟨rfl, fits⟩
    · exact mirrors.known old
    · exact ⟨by rw [arrived]; simp, fits.1 ▸ mirrors.numbered.sound.serial_lt member⟩

/-- A call for another path that comes to its pool does not show in the second flow. -/
theorem Mirrors.stray_take (mirrors : Mirrors pair s s') (member : p ∈ s.table.allPools)
    (arrived : s.calls.came ticket = some (p.pattern, path)) (foreign : (p.pattern, path) ≠ pair)
    (client : String) (instant : Nat) :
    Mirrors pair (s.conclude ticket (s.table.take p ticket path client instant)).2 s' := by
  cases limited : p.limiterFor path with
  | mk number r =>
  refine mirrors.stray member arrived foreign
    (Pool.touches_acquire limited ticket client instant) ?_
    (Calls.settles_note (Pool.signs_acquire limited ticket client instant) s.calls ticket)
    (s.table.recounted_take p ticket path client instant)
  rw [Pool.length_acquire limited ticket client instant]
  rcases Pool.limiterFor_spec limited with ⟨found, rfl⟩ | ⟨-, rfl, rfl⟩
  · exact Or.inl (.installed found)
  · refine Or.inr ⟨rfl, ?_⟩
    rw [Pool.installLimiter, List.length_append]
    exact Nat.lt_succ_self _

/-- A waiting call for another path has a turn. -/
theorem Mirrors.stray_resume (mirrors : Mirrors pair s s')
    (foreign : s.calls.came ticket ≠ some pair)
    (found : s.table.allPools.find? (fun p => (p.waiter? ticket).isSome) = some p) {turn : Turn}
    (stepped : ∀ {w}, p.waiter? ticket = some w →
      p.Touches q ticket w.path w.limiter ∧ p.Signs w.path w.limiter turn.admission)
    {u : Table} (counted : (s.table.putPool q).Recounted u) :
    Mirrors pair { table := u, calls := s.calls.note ticket turn.admission } s' := by
  obtain ⟨member, w, waits⟩ := Table.waiter_of_find found
  obtain ⟨x, -, kin⟩ := mirrors.exists_kin member
  have arrived := kin.came_of_waiter waits
  obtain ⟨touches, signs⟩ := stepped waits
  exact mirrors.stray member arrived (fun same => foreign (same ▸ arrived)) touches
    (Or.inl (.waiting (Pool.mem_waiting_of_waiter waits).1))
    (Calls.settles_note signs s.calls ticket) counted

/-- A call holds no guard any more at either table. -/
theorem Mirrors.drop (mirrors : Mirrors pair s s') (ticket : Nat) :
    Mirrors pair { s with calls := s.calls.drop ticket }
      { s' with calls := s'.calls.drop ticket } := by
  have spares (c : Calls) (serial : Nat) : c.Spares (c.drop ticket) serial :=
    (c.settles_drop ticket fun _ => False).spares False.elim
  have others (c : Calls) {k : Nat} (different : k ≠ ticket) : (c.drop ticket).held k = c.held k :=
    Function.update_of_ne different _ _
  refine { mirrors with
    alike := mirrors.alike.imp fun kin => kin.spared (spares _ _) (spares _ _)
    held := fun {k} own => ?_
    free := fun {k} foreign => ?_
    known := fun {k g} holds => ?_ } <;> by_cases same : k = ticket
  · subst same
    rw [Calls.held_drop, Calls.held_drop]
    exact .none
  · rw [others _ same, others _ same]
    exact mirrors.held own
  · subst same
    exact Calls.held_drop _ _
  · rw [others _ same]
    exact mirrors.free foreign
  · subst same
    exact absurd ((Calls.held_drop _ _).symm.trans holds) (by simp)
  · rw [others _ same] at holds
    exact mirrors.known holds

/-- A call for another path that gives its guard back does not show in the second flow. -/
theorem Mirrors.stray_drop (mirrors : Mirrors pair s s')
    (foreign : s.calls.came ticket ≠ some pair) {guard : Guard}
    (holds : s.calls.held ticket = some guard) :
    Mirrors pair { table := (s.table.finish guard).2, calls := s.calls.drop ticket } s' := by
  have finished : Mirrors pair { s with table := (s.table.finish guard).2 } s' := by
    rw [Table.finish]
    cases found : s.table.poolBySerial? guard.serial with
    | none => exact mirrors.recounted ⟨_, _, rfl⟩ (.refl _)
    | some p =>
        have member := Table.mem_allPools_of_serial found
        have serial : guard.serial = p.serial := (Table.serial_of_find found).symm
        obtain ⟨x, -, kin⟩ := mirrors.exists_kin member
        have arrived := kin.guards holds serial
        exact mirrors.stray member arrived (fun same => foreign (same ▸ arrived))
          ((p.beside_giveBack guard.limiter).touches ticket guard.path)
          (Or.inl (.held holds serial)) (s.calls.settles_refl ticket _) ⟨_, _, rfl⟩
  have same : s'.calls.drop ticket = s'.calls := by
    rw [Calls.drop, Function.update_eq_self_iff.2 (mirrors.free foreign).symm]
  have dropped := finished.drop ticket
  rwa [same] at dropped

/-- Calls for other paths leave the calls for the one path as they are. -/
theorem Mirrors.stray_step (mirrors : Mirrors pair s s') {event : Event}
    (fresh : ∀ ticket, event.arrival? = some ticket → s.calls.came ticket = none)
    (foreign : s.concerns pair event = false) : Mirrors pair (s.step event).2 s' := by
  cases event with
  | perform operation change => exact absurd foreign (by simp [concerns])
  | block acl => exact absurd foreign (by simp [concerns])
  | stop => exact absurd foreign (by simp [concerns])
  | dispatch ticket path client instant =>
      have unseen := fresh ticket rfl
      have other : s.pair? (.dispatch ticket path client instant) ≠ some pair :=
        of_decide_eq_false foreign
      rw [step, Table.dispatch, Table.resolve]
      rw [pair?] at other ⊢
      cases found : s.table.router.route path with
      | none => exact mirrors.recounted (Table.recounted_refuse _ _) (.refl _)
      | some m =>
          rw [found] at other
          have foreign : (m.target.pattern, m.path) ≠ pair := fun same => other (congrArg some same)
          have arrived := mirrors.arrive unseen foreign
          dsimp only [Option.map_some]
          -- The arrival is noted before it is known whether the client is let in.
          cases s.table.checkClient client with
          | error error => exact arrived.recounted (Table.recounted_refuse _ _) (.refl _)
          | ok =>
              exact arrived.stray_take (Table.mem_allPools_of_route found)
                (Function.update_self _ _ _) foreign client.text instant
  | dispatchTo serial ticket path client instant =>
      have unseen := fresh ticket rfl
      have other : s.pair? (.dispatchTo serial ticket path client instant) ≠ some pair :=
        of_decide_eq_false foreign
      rw [step]
      rw [pair?] at other ⊢
      cases found : s.table.poolBySerial? serial with
      | none => exact mirrors
      | some p =>
          rw [found] at other
          have foreign : (p.pattern, path) ≠ pair := fun same => other (congrArg some same)
          have arrived := mirrors.arrive unseen foreign
          dsimp only [Option.map_some]
          rw [Table.dispatchTo]
          cases s.table.checkClient client with
          | error error => exact arrived.recounted (Table.recounted_refuse _ _) (.refl _)
          | ok =>
              exact arrived.stray_take (Table.mem_allPools_of_serial found)
                (Function.update_self _ _ _) foreign client.text instant
  | look ticket instant =>
      rw [step]
      cases looked : s.table.look ticket instant with
      | none => exact mirrors
      | some result =>
          obtain ⟨p, turn, q, found, stepped, rfl⟩ := Table.resume_spec looked
          exact mirrors.stray_resume (of_decide_eq_false foreign) found
            (fun waits => ⟨Pool.touches_look waits stepped, Pool.signs_look waits stepped⟩)
            (Table.recounted_settle _ turn)
  | expire ticket =>
      rw [step]
      cases expired : s.table.expire ticket with
      | none => exact mirrors
      | some result =>
          obtain ⟨p, turn, q, found, stepped, rfl⟩ := Table.resume_spec expired
          exact mirrors.stray_resume (of_decide_eq_false foreign) found
            (fun waits => ⟨Pool.touches_expire waits stepped, Pool.signs_expire stepped _ _⟩)
            (Table.recounted_settle _ turn)
  | cancel ticket =>
      rw [step]
      cases cancelled : s.table.cancel ticket with
      | none => exact mirrors
      | some u =>
          obtain ⟨p, turn, q, found, stepped, rfl⟩ := Table.cancel_spec cancelled
          have turned := mirrors.stray_resume (of_decide_eq_false foreign) found
            (fun waits => ⟨Pool.touches_expire waits stepped, Pool.signs_expire stepped _ _⟩)
            (Table.recounted_leave _)
          -- A call that goes away is granted nothing, so no guard is noted for it.
          obtain ⟨_, _, _, _, rfl, _⟩ := Pool.expire_spec stepped
          exact turned
  | drop ticket =>
      rw [step]
      cases holds : s.calls.held ticket with
      | none => exact mirrors
      | some guard => exact mirrors.stray_drop (of_decide_eq_false foreign) holds

end Flow

end ClusterGateway
