import ClusterGateway.Drain
import ClusterGateway.Proofs.Route.Counts

/-! # Draining a table

A node that was asked to stop lets no call in any more, so the calls at its table only become fewer.
Whoever begins to wait for their end after that request, and is told that it has come, can rely on
it: no guard is held then or later, not even by a call that was let in before and waited for a
permit. Requests and changes of the table go on in any order between the looks of those who wait.
-/

namespace ClusterGateway

/-- One who waits for the end of the requests under way. -/
structure DrainWait where
  /-- The time of the first look. -/
  begun : Nat
  /-- The time before which there is no other look. -/
  due : Nat
  /-- Whether the requests came to their end in time, once that is known. -/
  result : Option Bool := none
deriving DecidableEq, Repr

/-- Takes in a look at the requests under way. -/
def DrainWait.look (w : DrainWait) (underWay now granted : Nat) : DrainWait :=
  match Drain.look underWay (now - w.begun) granted with
  | .drained => { w with result := some true }
  | .gaveUp => { w with result := some false }
  | .lookAgain => { w with due := now + Drain.pause }

/-- A look that ends a wait with success has seen no request under way. -/
theorem DrainWait.look_drained {w : DrainWait} {underWay now granted : Nat}
    (unknown : w.result = none) (drained : (w.look underWay now granted).result = some true) :
    underWay = 0 := by
  rw [look, Drain.look_eq] at drained
  by_cases nothing : underWay = 0
  · exact nothing
  · rw [if_neg nothing] at drained
    by_cases late : granted < now - w.begun ∨ granted = 0
    · rw [if_pos late] at drained
      exact absurd drained (by simp)
    · rw [if_neg late] at drained
      exact absurd (unknown.symm.trans drained) (by simp)

/-- A table with the calls at it and those who wait for their end. -/
structure Draining where
  ledger : Ledger
  /-- How many milliseconds a wait may take. -/
  granted : Nat
  now : Nat := 0
  /-- The requests under way that have not come through the table. -/
  others : Nat := 0
  waits : List DrainWait := []

namespace Draining

/-- Whatever can happen to a table that is drained. -/
inductive Event where
  | happen (happening : Happening)
  /-- A request starts that does not come through the table. -/
  | track
  /-- Such a request ends. -/
  | release
  /-- Someone begins to wait, and looks for the first time. -/
  | wait
  /-- One who waits looks again. -/
  | look (number : Nat)
  | pass (time : Nat)

variable {c : Draining}

/-- The number of requests under way. -/
def underWay (c : Draining) : Nat := c.ledger.table.inFlight + c.others

/-- Lets something happen; what is not possible changes nothing. -/
def step (c : Draining) : Event → Draining
  | .happen happening => { c with ledger := c.ledger.step happening }
  | .track => { c with others := c.others + 1 }
  | .release => { c with others := c.others - 1 }
  | .wait =>
    let w : DrainWait := { begun := c.now, due := c.now }
    { c with waits := c.waits ++ [w.look c.underWay c.now c.granted] }
  | .look number =>
    match c.waits[number]? with
    | none => c
    | some w =>
      if w.result = none ∧ w.due ≤ c.now then
        { c with waits := c.waits.set number (w.look c.underWay c.now c.granted) }
      else c
  | .pass time => { c with now := c.now + time }

def run (c : Draining) (events : List Event) : Draining := events.foldl step c

/-- The table without pools, at which nobody waits. -/
def opened (settings : PoolSettings) (hostWait : Nat) (acl : AccessList) (granted : Nat) :
    Draining where
  ledger := { table := { settings, hostWait, acl } }
  granted := granted

/-- The result of a wait, once it is known. -/
def result? (c : Draining) (number : Nat) : Option Bool := c.waits[number]?.bind (·.result)

/-- Whatever happens, the books of the calls are kept. -/
theorem books_step (books : c.ledger.Books) (event : Event) : (c.step event).ledger.Books := by
  cases event with
  | happen happening => exact books.step happening
  | track | release | wait | pass => exact books
  | look number =>
      rw [step]
      split
      · exact books
      · split <;> exact books

/-- The books of the calls are kept in every run. -/
theorem books_run (books : c.ledger.Books) (events : List Event) :
    (c.run events).ledger.Books := by
  induction events generalizing c with
  | nil => exact books
  | cons event events ih => exact ih (books_step books event)

/-! ### A node that stops -/

/-- What stays so once a node has been asked to stop. -/
structure Stopping (c : Draining) : Prop where
  books : c.ledger.Books
  stopping : c.ledger.table.stopping = true

end Draining

namespace Table

variable {t : Table} {ticket : Nat}

/-- A turn brings no new request in flight. -/
theorem remaining_le (inFlight : Nat) (admission : Admission) :
    Ledger.remaining inFlight admission ≤ inFlight := by
  cases admission with
  | granted | waiting => exact Nat.le_refl _
  | refused => exact Nat.sub_le _ _

/-- A node that stops refuses every call at once. -/
theorem dispatch_of_stopping (stopping : t.stopping = true) (ticket : Nat) (path : String)
    (client : IpAddress) (instant : Nat) :
    ∃ error, t.dispatch ticket path client instant = t.refuse error := by
  rw [dispatch, resolve]
  cases t.router.route path with
  | none => exact ⟨_, rfl⟩
  | some m =>
      refine ⟨.shuttingDown, ?_⟩
      dsimp only
      rw [checkClient, if_pos stopping]
      rfl

/-- A stopping node refuses a call for a pool, even one whose pool was found before. -/
theorem dispatchTo_of_stopping (stopping : t.stopping = true) (p : Pool) (ticket : Nat)
    (path : String) (client : IpAddress) (instant : Nat) :
    t.dispatchTo p ticket path client instant = t.refuse .shuttingDown := by
  rw [dispatchTo, checkClient, if_pos stopping]

/-- A waiting call that has a turn brings no new request in flight. -/
theorem inFlight_resume {step : Pool → Option (Turn × Pool)} {result : Turn × Table}
    (resumed : t.resume step ticket = some result) : result.2.inFlight ≤ t.inFlight := by
  obtain ⟨p, turn, q, -, -, rfl⟩ := resume_spec resumed
  rw [Ledger.inFlight_settle]
  exact remaining_le _ _

/-- A call that goes away brings no new request in flight. -/
theorem inFlight_cancel {u : Table} (cancelled : t.cancel ticket = some u) :
    u.inFlight ≤ t.inFlight := by
  simp only [cancel, Option.bind_eq_bind, Option.bind_eq_some_iff] at cancelled
  obtain ⟨p, -, ⟨turn, q⟩, -, whole⟩ := cancelled
  obtain rfl := Option.some.inj whole
  exact Nat.sub_le _ _

/-- A guard that is given back brings no new request in flight. -/
theorem inFlight_finish (t : Table) (guard : Guard) : (t.finish guard).2.inFlight ≤ t.inFlight := by
  rw [finish]
  split <;> exact Nat.sub_le _ _

end Table

namespace Ledger

variable {l : Ledger}

/-- Nothing that happens lets a node that stops go on. -/
theorem stopping_step (stopping : l.table.stopping = true) (happening : Happening) :
    (l.step happening).table.stopping = true := by
  have still (ordinary : happening.IsStep) : (l.step happening).table.stopping = true :=
    (l.tells_step ordinary).1.stopping.trans stopping
  cases happening with
  | perform operation change => exact (l.table.stopping_perform change).trans stopping
  | block acl => exact stopping
  | stop => rfl
  | dispatch | dispatchTo | look | expire | cancel | drop =>
      exact still trivial

/-- At a node that stops, the requests in flight only become fewer. -/
theorem inFlight_step (books : l.Books) (stopping : l.table.stopping = true)
    (happening : Happening) : (l.step happening).table.inFlight ≤ l.table.inFlight := by
  cases happening with
  | dispatch path client instant =>
      obtain ⟨error, refused⟩ :=
        Table.dispatch_of_stopping stopping l.calls path client instant
      rw [step, table_conclude, refused]
      exact Nat.le_refl _
  | dispatchTo serial path client instant =>
      rw [step]
      split
      · exact Nat.le_refl _
      · rw [table_conclude, Table.dispatchTo_of_stopping stopping]
        exact Nat.le_refl _
  | look ticket instant =>
      rw [step]
      cases looked : l.table.look ticket instant with
      | none => exact Nat.le_refl _
      | some result =>
          rw [Option.map_some, Option.getD_some, table_conclude]
          exact Table.inFlight_resume looked
  | expire ticket =>
      rw [step]
      cases expired : l.table.expire ticket with
      | none => exact Nat.le_refl _
      | some result =>
          rw [Option.map_some, Option.getD_some, table_conclude]
          exact Table.inFlight_resume expired
  | cancel ticket =>
      rw [step]
      cases cancelled : l.table.cancel ticket with
      | none => exact Nat.le_refl _
      | some u => exact Table.inFlight_cancel cancelled
  | drop guard =>
      rw [step]
      split
      · exact l.table.inFlight_finish guard
      · exact Nat.le_refl _
  -- Pools may come and go, but no call begins or ends by that.
  | perform operation change => exact (books.numbered.continues change).inFlight.le
  | block acl => exact Nat.le_refl _
  | stop => exact Nat.le_refl _

end Ledger

namespace Draining

variable {c : Draining} {number : Nat}

/-- A node that was asked to stop is never asked to go on. -/
theorem Stopping.step (held : c.Stopping) (event : Event) : (c.step event).Stopping := by
  refine ⟨books_step held.books event, ?_⟩
  cases event with
  | happen happening => exact Ledger.stopping_step held.stopping happening
  | track | release | wait | pass => exact held.stopping
  | look number =>
      rw [Draining.step]
      split
      · exact held.stopping
      · split <;> exact held.stopping

/-- Once a node was asked to stop, no event brings a new request in flight. -/
theorem Stopping.inFlight_step (held : c.Stopping) (event : Event) :
    (c.step event).ledger.table.inFlight ≤ c.ledger.table.inFlight := by
  cases event with
  | happen happening => exact Ledger.inFlight_step held.books held.stopping happening
  | track | release | wait | pass => exact Nat.le_refl _
  | look number =>
      rw [Draining.step]
      split
      · exact Nat.le_refl _
      · split <;> exact Nat.le_refl _

/-- Once a node was asked to stop, the requests in flight only become fewer. -/
theorem Stopping.run (held : c.Stopping) (events : List Event) :
    (c.run events).Stopping ∧
      (c.run events).ledger.table.inFlight ≤ c.ledger.table.inFlight := by
  induction events generalizing c with
  | nil => exact ⟨held, Nat.le_refl _⟩
  | cons event events ih =>
      obtain ⟨still, fewer⟩ := ih (held.step event)
      exact ⟨still, fewer.trans (held.inFlight_step event)⟩

/-- Whoever is told that the requests have come to their end is told the truth about the table. -/
def Truthful (number : Nat) (c : Draining) : Prop :=
  c.result? number = some true → c.ledger.table.inFlight = 0

/-- Who begins to wait and is told at once that all requests have ended is told the truth. -/
theorem truthful_wait (c : Draining) : (c.step .wait).Truthful c.waits.length := by
  intro told
  rw [result?, Draining.step, List.getElem?_concat_length, Option.bind_some] at told
  have nothing := DrainWait.look_drained rfl told
  rw [underWay] at nothing
  exact (Nat.add_eq_zero_iff.1 nothing).1

/-- A wait that is told so is told at a look that finds nothing under way, and then the requests
stay at none. -/
theorem Truthful.step (truthful : c.Truthful number) (held : c.Stopping)
    (known : number < c.waits.length) (event : Event) :
    (c.step event).Truthful number ∧ number < (c.step event).waits.length := by
  have still (told : c.result? number = some true) :
      (c.step event).ledger.table.inFlight = 0 :=
    Nat.eq_zero_of_le_zero ((held.inFlight_step event).trans (truthful told).le)
  cases event with
  | happen | track | release | pass => exact ⟨still, known⟩
  | wait =>
      refine ⟨fun told => still ?_, ?_⟩
      · rw [result?, Draining.step, List.getElem?_append_left known] at told
        exact told
      · rw [Draining.step, List.length_append]
        exact Nat.lt_add_right _ known
  | look other =>
      rw [Draining.step] at still ⊢
      split at still
      · exact ⟨still, known⟩
      · next w found =>
          split at still
          · next waits =>
              rw [if_pos waits]
              refine ⟨fun told => ?_, by rwa [List.length_set]⟩
              by_cases same : other = number
              · subst same
                rw [result?, List.getElem?_set_self known, Option.bind_some] at told
                exact (Nat.add_eq_zero_iff.1 (DrainWait.look_drained waits.1 told)).1
              · rw [result?, List.getElem?_set_ne same] at told
                exact still told
          · next resting =>
              rw [if_neg resting]
              exact ⟨still, known⟩

/-- What was true when someone was told that all requests have ended stays true, since the node was
asked to stop before. -/
theorem Truthful.run (truthful : c.Truthful number) (held : c.Stopping)
    (known : number < c.waits.length) (events : List Event) :
    (c.run events).Truthful number := by
  induction events generalizing c with
  | nil => exact truthful
  | cons event events ih =>
      obtain ⟨next, there⟩ := truthful.step held known event
      exact ih next (held.step event) there

/-- From the moment at which a node is asked to stop, the requests in flight at its table only
become fewer. And if someone begins to wait for their end after that moment and is told that it has
come, no guard is held from then on and no call waits for one. -/
theorem drained_for_good (settings : PoolSettings) (hostWait : Nat) (acl : AccessList)
    (granted : Nat) (before first rest later : List Event) :
    let stopped := ((opened settings hostWait acl granted).run before).step (.happen .stop)
    let waiting := (stopped.run first).step .wait
    ((stopped.run first).run later).ledger.table.inFlight ≤
        (stopped.run first).ledger.table.inFlight ∧
      ((waiting.run rest).result? (stopped.run first).waits.length = some true →
        ((waiting.run rest).run later).ledger.live = [] ∧
          ((waiting.run rest).run later).ledger.pending = []) := by
  intro stopped waiting
  have books : (opened settings hostWait acl granted).ledger.Books :=
    Ledger.books_empty settings hostWait acl
  have stopping : stopped.Stopping := ⟨books_step (books_run books before) _, rfl⟩
  have held := (stopping.run first).1
  refine ⟨(held.run later).2, fun told => ?_⟩
  have known : (stopped.run first).waits.length < waiting.waits.length := by
    change _ < ((stopped.run first).waits ++ [_]).length
    rw [List.length_append]
    exact Nat.lt_succ_self _
  obtain ⟨still, -⟩ := (held.step .wait).run rest
  have nothing := (truthful_wait (stopped.run first)).run (held.step .wait) known rest told
  obtain ⟨after, fewer⟩ := still.run later
  have none : ((waiting.run rest).run later).ledger.table.inFlight = 0 :=
    Nat.eq_zero_of_le_zero (fewer.trans nothing.le)
  rw [after.books.inFlight] at none
  obtain ⟨live, pending⟩ := Nat.add_eq_zero_iff.1 none
  exact ⟨List.length_eq_zero_iff.1 live, List.length_eq_zero_iff.1 pending⟩

/-- A table with one pool, at which one call holds the only permit and another waits for it. -/
def contended : List Event :=
  [.happen (.perform (.addPool ⟨"/a", ["http://[::1]:80"], "round-robin"⟩) trivial),
   .happen (.perform (.setLimiter
      { pattern := "/a", path := "/x", kind := "concurrency", volume := 1, duration := 1000 } 0)
    trivial),
   .happen (.dispatch "/a/x" (.v4 ⟨0⟩) 0), .happen (.dispatch "/a/x" (.v4 ⟨0⟩) 0)]

/-- The guard of a call at that table. -/
def permit : Guard where
  serial := 0
  limiter := 0
  pattern := "/a"
  host := "[::1]:80"
  target := { secure := false, host := .v6 ⟨[0, 0, 0, 0, 0, 0, 0, 1]⟩, path := ['/'] }
  path := "/x"

/-- The node is asked to stop while a call waits for a permit. That call is still served, a later
look finds both calls done, and a new one is refused. -/
theorem drained_for_good_waitingCall :
    let stopped := ((opened {} 5000 .empty 1000).run contended).step (.happen .stop)
    let waiting := (stopped.run []).step .wait
    let rest : List Event :=
      [.happen (.drop permit), .happen (.look 1 0), .pass 100, .look 0, .happen (.drop permit),
       .pass 100, .look 0]
    stopped.ledger.pending = [1] ∧ (waiting.run rest).result? 0 = some true ∧
      ((waiting.run rest).run [.happen (.dispatch "/a/x" (.v4 ⟨0⟩) 0)]).ledger.live = [] ∧
      ((waiting.run rest).run [.happen (.dispatch "/a/x" (.v4 ⟨0⟩) 0)]).ledger.pending = [] := by
  intro stopped waiting rest
  have told : (waiting.run rest).result? 0 = some true := by decide +kernel
  exact ⟨by decide +kernel, told,
    (drained_for_good {} 5000 .empty 1000 contended [] rest
      [.happen (.dispatch "/a/x" (.v4 ⟨0⟩) 0)]).2 told⟩

end Draining

end ClusterGateway
