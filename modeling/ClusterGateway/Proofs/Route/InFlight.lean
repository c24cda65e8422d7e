import ClusterGateway.Proofs.Route.Continuity

/-! # Requests in flight

A ledger follows the calls of a table from outside: which were let in and have not returned, and
which guards have been handed out and not been given back. Whatever happens, and in whatever order,
the table counts as many requests in flight as there are live guards and pending calls, and every
limiter that was ever installed counts those inside whose guards hold a permit of it.
-/

namespace ClusterGateway

namespace Guard

variable {guard : Guard} {live : List Guard}

/-- How many of these guards hold a permit of a limiter of a pool, both given by their numbers. -/
def permits (live : List Guard) (serial number : Nat) : Nat :=
  live.countP fun g => g.serial = serial ∧ g.limiter = number

/-- One more guard holds one more permit of its own limiter. -/
theorem permits_cons_self (guard : Guard) (live : List Guard) :
    permits (guard :: live) guard.serial =
      Function.update (permits live guard.serial) guard.limiter
        (permits live guard.serial guard.limiter + 1) := by
  funext number
  rw [permits, List.countP_cons]
  by_cases same : number = guard.limiter
  · subst same
    rw [Function.update_self]
    simp [permits]
  · rw [Function.update_of_ne same]
    simp [permits, Ne.symm same]

/-- A guard holds no permit at any other pool than its own. -/
theorem permits_cons_of_ne {serial : Nat} (different : serial ≠ guard.serial) (live : List Guard) :
    permits (guard :: live) serial = permits live serial := by
  funext number
  simp [permits, Ne.symm different]

/-- The order of the guards does not matter for the permits that they hold. -/
theorem permits_cons_erase (member : guard ∈ live) (serial : Nat) :
    permits live serial = permits (guard :: live.erase guard) serial :=
  funext fun _ => (List.perm_cons_erase member).countP_eq _

end Guard

namespace Table

/-- The caller of a waiting request goes away, and the decision is not counted. -/
def cancel (t : Table) (ticket : Nat) : Option Table := do
  let p ← t.allPools.find? fun p => (p.waiter? ticket).isSome
  let (_, p) ← p.expire ticket
  return (t.putPool p).leave

end Table

/-- Whether a request is refused before it is let in. -/
def DispatchError.IsEarly : DispatchError → Prop
  | denied _ | noRoute _ | shuttingDown => True
  | throttled _ _ | noHost _ => False

namespace Table

variable {t : Table} {ticket instant : Nat} {path : String} {client : IpAddress}
  {error : DispatchError}

/-- Whoever has come to a pool is not refused early any more. -/
theorem not_early_of_take {p : Pool} {client : String}
    (refused : (t.take p ticket path client instant).1.admission = .refused error) :
    ¬ error.IsEarly := by
  rcases Pool.acquire_refused refused with rfl | rfl <;> exact id

/-- A refusal is counted under its outcome, and changes nothing else. -/
theorem refuse_snd {reason : DispatchError}
    (refused : (t.refuse reason).1.admission = .refused error) :
    (t.refuse reason).2 =
      { t with metrics := t.metrics.recordDispatch error.outcome.label } := by
  obtain rfl := Admission.refused.inj refused
  rfl

/-- A call that is refused before it is let in changes the metrics and nothing else. -/
theorem dispatch_of_early
    (refused : (t.dispatch ticket path client instant).1.admission = .refused error)
    (early : error.IsEarly) :
    (t.dispatch ticket path client instant).2 =
      { t with metrics := t.metrics.recordDispatch error.outcome.label } := by
  rcases t.dispatch_spec ticket path client instant with
    ⟨reason, whole⟩ | ⟨p, -, rest, whole⟩ <;> rw [whole] at refused ⊢
  · exact refuse_snd refused
  · exact absurd early (not_early_of_take refused)

/-- A call for a pool that is refused early is counted, and changes nothing else. -/
theorem dispatchTo_of_early {p : Pool}
    (refused : (t.dispatchTo p ticket path client instant).1.admission = .refused error)
    (early : error.IsEarly) :
    (t.dispatchTo p ticket path client instant).2 =
      { t with metrics := t.metrics.recordDispatch error.outcome.label } := by
  rcases t.dispatchTo_spec p ticket path client instant with ⟨reason, whole⟩ | whole <;>
    rw [whole] at refused ⊢
  · exact refuse_snd refused
  · exact absurd early (not_early_of_take refused)

end Table

/-- Whatever can happen to a table and the calls at it. -/
inductive Happening where
  | dispatch (path : String) (client : IpAddress) (instant : Nat)
  /-- A call comes for a pool that was found before and may have been replaced since. -/
  | dispatchTo (serial : Nat) (path : String) (client : IpAddress) (instant : Nat)
  | look (ticket instant : Nat)
  | expire (ticket : Nat)
  | cancel (ticket : Nat)
  | drop (guard : Guard)
  /-- Something happens that is no step of a call. -/
  | perform (operation : Operation) (change : operation.IsChange)
  /-- Other networks are blocked from now on. -/
  | block (acl : AccessList)
  | stop

/-- A table and the calls at it. -/
structure Ledger where
  table : Table
  /-- The guards that were handed out and have not been given back. -/
  live : List Guard := []
  /-- The calls that were let in and have not returned. -/
  pending : List Nat := []
  /-- The number of calls so far, which is the ticket of the next one. -/
  calls : Nat := 0

namespace Ledger

/-- Notes how a call stands after a turn. -/
def conclude (l : Ledger) (ticket : Nat) (result : Turn × Table) : Ledger :=
  match result.1.admission with
  | .granted guard =>
    { l with table := result.2, live := guard :: l.live, pending := l.pending.erase ticket }
  | .refused _ => { l with table := result.2, pending := l.pending.erase ticket }
  | .waiting _ => { l with table := result.2, pending := l.pending.insert ticket }

/-- Lets something happen; what is not possible changes nothing. -/
def step (l : Ledger) : Happening → Ledger
  | .dispatch path client instant =>
    { l with calls := l.calls + 1 }.conclude l.calls
      (l.table.dispatch l.calls path client instant)
  | .dispatchTo serial path client instant =>
    match l.table.poolBySerial? serial with
    | none => l
    | some p =>
      { l with calls := l.calls + 1 }.conclude l.calls
        (l.table.dispatchTo p l.calls path client instant)
  | .look ticket instant => ((l.table.look ticket instant).map (l.conclude ticket)).getD l
  | .expire ticket => ((l.table.expire ticket).map (l.conclude ticket)).getD l
  | .cancel ticket =>
    match l.table.cancel ticket with
    | none => l
    | some table => { l with table, pending := l.pending.erase ticket }
  | .drop guard =>
    if guard ∈ l.live then
      { l with table := (l.table.finish guard).2, live := l.live.erase guard }
    else l
  | .perform operation _ => { l with table := l.table.perform operation }
  | .block acl => { l with table := { l.table with acl } }
  | .stop => { l with table := { l.table with stopping := true } }

def run (l : Ledger) (happenings : List Happening) : Ledger := happenings.foldl step l

variable {l : Ledger} {p q : Pool} {t u : Table}

/-! ### The books -/

/-- The table has booked what the ledger has noted. -/
structure Books (l : Ledger) : Prop where
  numbered : l.table.Numbered
  inFlight : l.table.inFlight = l.live.length + l.pending.length
  accounted : ∀ {p}, p ∈ l.table.allPools → p.Accounted (Guard.permits l.live p.serial)
  /-- Every live guard is one of a pool. -/
  homes : ∀ {g}, g ∈ l.live → ∃ p ∈ l.table.allPools, p.serial = g.serial
  waits : ∀ {ticket}, ticket ∈ l.pending ↔ ∃ p ∈ l.table.allPools, ticket ∈ p.tickets
  /-- No call waits at two pools. -/
  alone : ∀ {p q ticket}, p ∈ l.table.allPools → q ∈ l.table.allPools → ticket ∈ p.tickets →
    ticket ∈ q.tickets → p = q
  once : l.pending.Nodup
  early : ∀ {ticket}, ticket ∈ l.pending → ticket < l.calls

/-- At a table without pools, of which no call is noted, the books are kept. -/
theorem books_empty (settings : PoolSettings) (hostWait : Nat) (acl : AccessList) :
    ({ table := { settings, hostWait, acl } } : Ledger).Books where
  numbered := Table.numbered_empty settings hostWait acl
  inFlight := rfl
  accounted := fun member => absurd member List.not_mem_nil
  homes := fun member => absurd member List.not_mem_nil
  waits := ⟨fun member => absurd member List.not_mem_nil,
    fun ⟨_, member, _⟩ => absurd member List.not_mem_nil⟩
  alone := fun member => absurd member List.not_mem_nil
  once := List.nodup_nil
  early := fun member => absurd member List.not_mem_nil

/-- The books stay right through everything that no request notices. -/
theorem Books.continues (books : l.Books) (numbered : u.Numbered)
    (continues : l.table.Continues u) : ({ l with table := u } : Ledger).Books := by
  refine ⟨numbered, continues.inFlight.trans books.inFlight, fun {q} present => ?_,
    fun {g} member => ?_, fun {ticket} => ⟨fun member => ?_, fun waits => ?_⟩,
    fun {q r ticket} first second here there => ?_, books.once, books.early⟩
  · rcases continues.comes present with ⟨p, known, goesOn⟩ | ⟨idle, new⟩
    · rw [goesOn.serial]
      exact goesOn.accounted (books.accounted known)
    · -- A new pool has a number that no guard has.
      have nothing : Guard.permits l.live q.serial = fun _ => 0 := by
        funext number
        refine List.countP_eq_zero.2 fun g member => ?_
        obtain ⟨p, known, serial⟩ := books.homes member
        have old := books.numbered.sound.serial_lt known
        have different : g.serial ≠ q.serial := by omega
        simp [different]
      rw [nothing]
      exact idle.accounted
  · obtain ⟨p, known, serial⟩ := books.homes member
    obtain ⟨q, present, goesOn⟩ := continues.goesOn known
    exact ⟨q, present, goesOn.serial.trans serial⟩
  · obtain ⟨p, known, here⟩ := books.waits.1 member
    obtain ⟨q, present, goesOn⟩ := continues.goesOn known
    exact ⟨q, present, goesOn.tickets ▸ here⟩
  · obtain ⟨q, present, here⟩ := waits
    rcases continues.comes present with ⟨p, known, goesOn⟩ | ⟨idle, -⟩
    · exact books.waits.2 ⟨p, known, goesOn.tickets ▸ here⟩
    · rw [Pool.tickets, idle.waiting] at here
      exact absurd here List.not_mem_nil
  · -- Both pools were there before, since nobody waits at a new one.
    have old {x : Pool} (present : x ∈ u.allPools) (waits : ticket ∈ x.tickets) :
        ∃ p ∈ l.table.allPools, ticket ∈ p.tickets ∧ p.serial = x.serial := by
      rcases continues.comes present with ⟨p, known, goesOn⟩ | ⟨idle, -⟩
      · exact ⟨p, known, goesOn.tickets ▸ waits, goesOn.serial.symm⟩
      · rw [Pool.tickets, idle.waiting] at waits
        exact absurd waits List.not_mem_nil
    obtain ⟨a, knownA, hereA, serialA⟩ := old first here
    obtain ⟨b, knownB, hereB, serialB⟩ := old second there
    obtain rfl := books.alone knownA knownB hereA hereB
    exact numbered.eq_of_serial first second (serialA.symm.trans serialB)

/-- The books after one pool has changed, and with it what is noted about its requests. -/
theorem Books.swap (books : l.Books) (swaps : l.table.Swaps p q u) (live : List Guard)
    (pending : List Nat) (inFlight : u.inFlight = live.length + pending.length)
    (accounted : q.Accounted (Guard.permits live p.serial))
    (others : ∀ {serial}, serial ≠ p.serial →
      Guard.permits live serial = Guard.permits l.live serial)
    (homes : ∀ {g}, g ∈ live → g ∈ l.live ∨ g.serial = p.serial)
    (waits : ∀ ticket, ticket ∈ pending ↔
      ticket ∈ q.tickets ∨ ticket ∉ p.tickets ∧ ticket ∈ l.pending)
    (alone : ∀ {r ticket}, r ∈ l.table.allPools → ticket ∈ q.tickets → ticket ∈ r.tickets → r = p)
    (once : pending.Nodup) (early : ∀ {ticket}, ticket ∈ pending → ticket < l.calls) :
    ({ l with table := u, live, pending } : Ledger).Books := by
  refine ⟨swaps.numbered, inFlight, fun {x} present => ?_, fun {g} lives => ?_, fun {ticket} => ?_,
    fun {x y ticket} first second here there => ?_, once, early⟩
  · rcases swaps.mem_iff.1 present with rfl | ⟨known, different⟩
    · exact swaps.serial ▸ accounted
    · rw [others different]
      exact books.accounted known
  · by_cases same : g.serial = p.serial
    · exact ⟨q, swaps.mem_iff.2 (Or.inl rfl), swaps.serial.trans same.symm⟩
    · obtain ⟨r, known, number⟩ := books.homes ((homes lives).resolve_right same)
      exact ⟨r, swaps.mem_iff.2 (Or.inr ⟨known, number ▸ same⟩), number⟩
  · rw [waits]
    constructor
    · -- Who waits does so at the new pool, or waited before at another one.
      rintro (here | ⟨absent, old⟩)
      · exact ⟨q, swaps.mem_iff.2 (Or.inl rfl), here⟩
      · obtain ⟨r, known, there⟩ := books.waits.1 old
        refine ⟨r, swaps.mem_iff.2 (Or.inr ⟨known, fun same => absent ?_⟩), there⟩
        exact books.numbered.eq_of_serial known swaps.member same ▸ there
    · rintro ⟨x, present, here⟩
      rcases swaps.mem_iff.1 present with rfl | ⟨known, different⟩
      · exact Or.inl here
      · refine Or.inr ⟨fun there => different ?_, books.waits.2 ⟨x, known, here⟩⟩
        rw [books.alone known swaps.member here there]
  · rcases swaps.mem_iff.1 first with rfl | ⟨knownX, differentX⟩ <;>
      rcases swaps.mem_iff.1 second with rfl | ⟨knownY, differentY⟩
    · rfl
    · exact absurd (congrArg Pool.serial (alone knownY here there)) differentY
    · exact absurd (congrArg Pool.serial (alone knownX there here)) differentX
    · exact books.alone knownX knownY here there

/-! ### Turns -/

/-- Noting a ticket once more or for the first time leaves it in the list just once. -/
theorem length_insert_eq (pending : List Nat) (ticket : Nat) :
    (pending.insert ticket).length = (pending.erase ticket).length + 1 := by
  by_cases member : ticket ∈ pending
  · have some := List.length_pos_of_mem member
    rw [List.insert_of_mem member, List.length_erase_of_mem member]
    omega
  · rw [List.insert_of_not_mem member, List.erase_of_not_mem member, List.length_cons]

/-- How many requests are in flight after a turn that begins with so many. -/
def remaining (inFlight : Nat) : Admission → Nat
  | .refused _ => inFlight - 1
  | .granted _ | .waiting _ => inFlight

/-- Taking in a turn makes one request less in flight if the call is refused, and else keeps their
number. -/
theorem inFlight_settle (t : Table) (turn : Turn) :
    (t.settle turn).inFlight = remaining t.inFlight turn.admission := by
  rw [Table.settle]
  split <;> next equal => rw [equal]; rfl

theorem allPools_settle (t : Table) (turn : Turn) : (t.settle turn).allPools = t.allPools := by
  rw [Table.settle]
  split <;> rfl

/-- The books after a call has had its answer, with or without a guard. It waits no more, and for the
other calls nothing has changed. -/
theorem Books.answer (books : l.Books) (swaps : l.table.Swaps p q u) {ticket : Nat}
    (home : ∀ r ∈ l.table.allPools, ticket ∈ r.tickets → r = p)
    (tickets : ∀ other, other ∈ q.tickets ↔ other ≠ ticket ∧ other ∈ p.tickets)
    (live : List Guard) (inFlight : u.inFlight = live.length + (l.pending.erase ticket).length)
    (accounted : q.Accounted (Guard.permits live p.serial))
    (others : ∀ {serial}, serial ≠ p.serial →
      Guard.permits live serial = Guard.permits l.live serial)
    (homes : ∀ {g}, g ∈ live → g ∈ l.live ∨ g.serial = p.serial) :
    ({ l with table := u, live, pending := l.pending.erase ticket } : Ledger).Books := by
  refine books.swap swaps live _ inFlight accounted others homes (fun other => ?_)
    (fun known here there => books.alone known swaps.member there ((tickets _).1 here).2)
    (books.once.erase ticket) fun old => books.early (List.mem_of_mem_erase old)
  rw [books.once.mem_erase_iff, tickets]
  constructor
  · rintro ⟨different, old⟩
    by_cases here : other ∈ p.tickets
    · exact Or.inl ⟨different, here⟩
    · exact Or.inr ⟨here, old⟩
  · rintro (⟨different, here⟩ | ⟨absent, old⟩)
    · exact ⟨different, books.waits.2 ⟨p, swaps.member, here⟩⟩
    · refine ⟨fun same => absent ?_, old⟩
      obtain ⟨r, known, there⟩ := books.waits.1 old
      rwa [← home r known (same ▸ there)]

/-- The books stay right when a call has had a turn at its pool. -/
theorem Books.conclude (books : l.Books) {ticket : Nat} (result : Turn × Table)
    (swaps : l.table.Swaps p q result.2) (turns : p.Turns q ticket result.1.admission)
    (home : ∀ r ∈ l.table.allPools, ticket ∈ r.tickets → r = p) (early : ticket < l.calls)
    (inFlight : result.2.inFlight =
      remaining (l.live.length + (l.pending.insert ticket).length) result.1.admission) :
    (l.conclude ticket result).Books := by
  obtain ⟨⟨admission, woken⟩, u⟩ := result
  have accounted := books.accounted swaps.member
  have length := length_insert_eq l.pending ticket
  -- A call that is answered leaves the line; one that is told to wait is in it once.
  cases turns with
  | @granted guard number after tickets =>
      refine books.answer swaps home tickets (guard :: l.live) ?_ ?_ ?_ ?_
      · change u.inFlight = l.live.length + (l.pending.insert ticket).length at inFlight
        rw [inFlight, length, List.length_cons]
        omega
      · rw [← number, Guard.permits_cons_self, number]
        exact after accounted
      · exact fun different => Guard.permits_cons_of_ne (number ▸ different) l.live
      · intro g live
        rcases List.mem_cons.1 live with rfl | old
        · exact Or.inr number
        · exact Or.inl old
  | @refused error after tickets =>
      refine books.answer swaps home tickets l.live ?_ (after accounted) (fun _ => rfl) Or.inl
      change u.inFlight = l.live.length + (l.pending.insert ticket).length - 1 at inFlight
      rw [inFlight, length]
      omega
  | @waiting time after tickets =>
      refine books.swap swaps l.live _ inFlight (after accounted) (fun _ => rfl) Or.inl
        (fun other => ?_) ?_ books.once.insert ?_
      · rw [List.mem_insert_iff, tickets]
        by_cases here : other ∈ p.tickets
        · simp [here, books.waits.2 ⟨p, swaps.member, here⟩]
        · simp [here]
      · intro r other known here there
        rcases (tickets other).1 here with rfl | old
        · exact home r known there
        · exact books.alone known swaps.member there old
      · intro other waits
        rcases List.mem_insert_iff.1 waits with rfl | old
        · exact early
        · exact books.early old

/-- A call that is let in has its first turn. -/
theorem Books.take (books : l.Books) (member : p ∈ l.table.allPools) (path client : String)
    (instant : Nat) :
    (({ l with calls := l.calls + 1 } : Ledger).conclude l.calls
      (l.table.take p l.calls path client instant)).Books := by
  have fresh : l.calls ∉ l.pending := fun old => Nat.lt_irrefl _ (books.early old)
  have unknown {r : Pool} (known : r ∈ l.table.allPools) : l.calls ∉ r.tickets :=
    fun here => fresh (books.waits.2 ⟨r, known, here⟩)
  have counted : ({ l with calls := l.calls + 1 } : Ledger).Books :=
    { books with early := fun old => Nat.lt_succ_of_lt (books.early old) }
  let after := (p.acquire l.calls path client instant).2
  have entered : (l.table.putPool after).Steady
      (({ l.table with inFlight := l.table.inFlight + 1 } : Table).putPool after) :=
    ⟨rfl, rfl, rfl, rfl, rfl, rfl⟩
  have swaps : l.table.Swaps p after (l.table.take p l.calls path client instant).2 :=
    books.numbered.swaps member (p.outline_acquire l.calls path client instant)
      (entered.trans (Table.steady_settle _ _)) (allPools_settle _ _)
  refine counted.conclude _ swaps (Pool.turns_acquire (unknown member) path client instant)
    (fun r known here => absurd here (unknown known)) (Nat.lt_succ_self _) ?_
  rw [Table.take, inFlight_settle]
  change remaining (l.table.inFlight + 1) _ = _
  rw [books.inFlight, List.insert_of_not_mem fresh, List.length_cons, Nat.add_assoc]

/-- A call that is refused at once has only been counted. -/
theorem Books.refuse (books : l.Books) (error : DispatchError) :
    (({ l with calls := l.calls + 1 } : Ledger).conclude l.calls (l.table.refuse error)).Books := by
  have fresh : l.calls ∉ l.pending := fun old => Nat.lt_irrefl _ (books.early old)
  have kept := books.continues (books.numbered.of_steady (Table.steady_refuse l.table error))
    (.of_same rfl rfl rfl rfl)
  have same : l.pending.erase l.calls = l.pending := List.erase_of_not_mem fresh
  rw [Ledger.conclude]
  change ({ l with
    table := (l.table.refuse error).2
    calls := l.calls + 1
    pending := l.pending.erase l.calls } : Ledger).Books
  rw [same]
  exact { kept with early := fun old => Nat.lt_succ_of_lt (books.early old) }

/-- A call that is found waiting waits at a pool of the table. -/
theorem waits_of_find {ticket : Nat}
    (found : t.allPools.find? (fun p => (p.waiter? ticket).isSome) = some p) :
    p ∈ t.allPools ∧ ticket ∈ p.tickets := by
  have known : (p.waiter? ticket).isSome = true := by simpa using List.find?_some found
  obtain ⟨w, waits⟩ := Option.isSome_iff_exists.1 known
  exact ⟨List.mem_of_find?_eq_some found, Pool.mem_tickets_of_waiter waits⟩

/-- A call that waits has another turn at its pool. -/
theorem Books.resume (books : l.Books) {ticket : Nat} {step : Pool → Option (Turn × Pool)}
    (turns : ∀ {p turn q}, step p = some (turn, q) →
      p.Turns q ticket turn.admission ∧ q.outline = p.outline)
    {result : Turn × Table} (resumed : l.table.resume step ticket = some result) :
    (l.conclude ticket result).Books := by
  obtain ⟨p, turn, q, found, stepped, rfl⟩ := Table.resume_spec resumed
  obtain ⟨member, here⟩ := waits_of_find found
  have pending := books.waits.2 ⟨p, member, here⟩
  obtain ⟨turned, outline⟩ := turns stepped
  have swaps := books.numbered.swaps member outline (Table.steady_settle _ turn)
    (allPools_settle _ turn)
  refine books.conclude _ swaps turned (fun r known there => books.alone known member there here)
    (books.early pending) ?_
  rw [inFlight_settle, List.insert_of_mem pending, ← books.inFlight]
  rfl

/-! ### Runs -/

/-- The books are kept when a call goes away while it waits. -/
theorem Books.cancel (books : l.Books) {ticket : Nat} (cancelled : l.table.cancel ticket = some u) :
    ({ l with table := u, pending := l.pending.erase ticket } : Ledger).Books := by
  simp only [Table.cancel, Option.bind_eq_bind, Option.bind_eq_some_iff] at cancelled
  obtain ⟨p, found, ⟨turn, q⟩, expired, whole⟩ := cancelled
  obtain rfl := Option.some.inj whole
  obtain ⟨member, here⟩ := waits_of_find found
  have pending := books.waits.2 ⟨p, member, here⟩
  obtain ⟨turns, error, refused⟩ := Pool.turns_expire expired
  have swaps : l.table.Swaps p q (l.table.putPool q).leave :=
    books.numbered.swaps member (Pool.outline_expire expired) ⟨rfl, rfl, rfl, rfl, rfl, rfl⟩ rfl
  have concluded := books.conclude (turn, (l.table.putPool q).leave) swaps turns
    (fun r known there => books.alone known member there here) (books.early pending) ?_
  · rwa [Ledger.conclude, refused] at concluded
  · rw [List.insert_of_mem pending, ← books.inFlight, refused]
    rfl

/-- The books are kept when a guard is given back. -/
theorem Books.drop (books : l.Books) {guard : Guard} (held : guard ∈ l.live) :
    ({ l with table := (l.table.finish guard).2, live := l.live.erase guard } : Ledger).Books := by
  obtain ⟨p, member, serial⟩ := books.homes held
  have found : l.table.poolBySerial? guard.serial = some p :=
    serial ▸ books.numbered.poolBySerial? member
  have swaps : l.table.Swaps p _ (l.table.putPool (p.giveBack guard.limiter).2).leave :=
    books.numbered.swaps member (p.outline_giveBack guard.limiter) ⟨rfl, rfl, rfl, rfl, rfl, rfl⟩ rfl
  have tickets := p.tickets_giveBack guard.limiter
  rw [Table.finish, found]
  refine books.swap swaps (l.live.erase guard) l.pending ?_ ?_ ?_
    (fun old => Or.inl (List.mem_of_mem_erase old)) ?_ ?_ books.once books.early
  · change l.table.inFlight - 1 = _
    have some := List.length_pos_of_mem held
    rw [books.inFlight, List.length_erase_of_mem held]
    omega
  · have back := (books.accounted member).giveBack guard.limiter
    rw [Guard.permits_cons_erase held, serial, Guard.permits_cons_self, Function.update_self,
      Function.update_idem, Nat.add_sub_cancel, Function.update_eq_self] at back
    exact serial ▸ back
  · intro other different
    rw [Guard.permits_cons_erase held other, Guard.permits_cons_of_ne (serial ▸ different)]
  · intro ticket
    rw [tickets]
    by_cases here : ticket ∈ p.tickets
    · simp [here, books.waits.2 ⟨p, member, here⟩]
    · simp [here]
  · intro r ticket known here there
    exact books.alone known member there (tickets ▸ here)

/-- The books are kept whatever happens. -/
theorem Books.step (books : l.Books) (happening : Happening) : (l.step happening).Books := by
  cases happening with
  | dispatch path client instant =>
      rw [Ledger.step]
      rcases l.table.dispatch_spec l.calls path client instant with
        ⟨error, whole⟩ | ⟨p, member, rest, whole⟩ <;> rw [whole]
      · exact books.refuse error
      · exact books.take member _ _ _
  | dispatchTo serial path client instant =>
      rw [Ledger.step]
      split
      · exact books
      · next p found =>
          rcases l.table.dispatchTo_spec p l.calls path client instant with
            ⟨error, whole⟩ | whole <;> rw [whole]
          · exact books.refuse error
          · exact books.take (Table.mem_allPools_of_serial found) _ _ _
  | look ticket instant =>
      rw [Ledger.step]
      cases looked : l.table.look ticket instant with
      | none => exact books
      | some result =>
          exact books.resume (fun turn => ⟨Pool.turns_look turn, Pool.outline_look turn⟩) looked
  | expire ticket =>
      rw [Ledger.step]
      cases expired : l.table.expire ticket with
      | none => exact books
      | some result =>
          exact books.resume
            (fun turn => ⟨(Pool.turns_expire turn).1, Pool.outline_expire turn⟩) expired
  | cancel ticket =>
      rw [Ledger.step]
      cases cancelled : l.table.cancel ticket with
      | none => exact books
      | some u => exact books.cancel cancelled
  | drop guard =>
      rw [Ledger.step]
      by_cases held : guard ∈ l.live
      · rw [if_pos held]
        exact books.drop held
      · rw [if_neg held]
        exact books
  -- What follows is no step of a call, and lets all pools go on with theirs.
  | perform operation change =>
      exact books.continues (books.numbered.perform change) (books.numbered.continues change)
  | block acl =>
      exact books.continues ⟨books.numbered.sound.withAcl acl, books.numbered.past⟩
        (.of_same rfl rfl rfl rfl)
  | stop =>
      exact books.continues (books.numbered.of_steady ⟨rfl, rfl, rfl, rfl, rfl, rfl⟩)
        (.of_same rfl rfl rfl rfl)

/-- The books are kept in every run. -/
theorem Books.run (books : l.Books) (happenings : List Happening) : (l.run happenings).Books := by
  induction happenings generalizing l with
  | nil => exact books
  | cons happening happenings ih => exact ih (books.step happening)

/-- The counts of a table are those of the calls at it. -/
structure Balanced (l : Ledger) : Prop where
  /-- Live guards and waiting calls are in flight, and nothing else is. -/
  inFlight : l.table.inFlight = l.live.length + l.pending.length
  /-- No call waits twice. -/
  once : l.pending.Nodup
  /-- The calls that have not returned are those that wait at a pool. -/
  pending : ∀ ticket, ticket ∈ l.pending ↔
    ∃ p ∈ l.table.allPools, ∃ w ∈ p.waiting, w.ticket = ticket
  /-- The number of a pool tells it from all others. -/
  distinct : ∀ p ∈ l.table.allPools, ∀ q ∈ l.table.allPools, p.serial = q.serial → p = q
  /-- The limiter whose permit a live guard holds is still there. -/
  held : ∀ g ∈ l.live, ∃ p ∈ l.table.allPools, p.serial = g.serial ∧ g.limiter < p.limiters.length
  /-- A limiter that was ever installed has as many requests inside as live guards hold its
  permits. -/
  inUse : ∀ p ∈ l.table.allPools, ∀ number limiter n, p.limiters[number]? = some limiter →
    limiter.inUse? = some n →
    n = l.live.countP fun g => g.serial = p.serial ∧ g.limiter = number
  /-- A call that is refused before it is let in touches nothing but the metrics. -/
  refused : ∀ ticket path client instant error,
    (l.table.dispatch ticket path client instant).1.admission = .refused error → error.IsEarly →
    (l.table.dispatch ticket path client instant).2 =
      { l.table with metrics := l.table.metrics.recordDispatch error.outcome.label }
  refusedTo : ∀ p ticket path client instant error,
    (l.table.dispatchTo p ticket path client instant).1.admission = .refused error →
    error.IsEarly →
    (l.table.dispatchTo p ticket path client instant).2 =
      { l.table with metrics := l.table.metrics.recordDispatch error.outcome.label }

/-- Where the books are kept, the counts of the table are those of the calls at it. -/
theorem Books.balanced (books : l.Books) : l.Balanced := by
  refine ⟨books.inFlight, books.once, fun ticket => ?_, fun p first q second => ?_, fun g live => ?_,
    fun p member number limiter n found inside => (books.accounted member).used found inside,
    fun _ _ _ _ _ => Table.dispatch_of_early, fun _ _ _ _ _ _ => Table.dispatchTo_of_early⟩
  · simp only [books.waits, Pool.tickets, List.mem_map]
  · exact books.numbered.eq_of_serial first second
  · obtain ⟨p, member, serial⟩ := books.homes live
    refine ⟨p, member, serial, ?_⟩
    by_contra outside
    have nothing := (books.accounted member).beyond (Nat.le_of_not_lt outside)
    exact absurd (List.countP_eq_zero.1 nothing g live) (by simp [serial])

/-- After every run, in which anything may happen between two turns of a call, the counts of the
table are those of the calls at it. -/
theorem balanced_run (settings : PoolSettings) (hostWait : Nat) (acl : AccessList)
    (happenings : List Happening) :
    (({ table := { settings, hostWait, acl } } : Ledger).run happenings).Balanced :=
  ((books_empty settings hostWait acl).run happenings).balanced

-- A limiter of one permit is replaced while one call holds the permit and another waits for it, and
-- then the pool is removed. Both limiters count the call inside, and the waiting call is in flight.
example :
    let limiter (duration : Nat) : LimiterSetting :=
      { pattern := "/a", path := "/x", kind := "concurrency", volume := 1, duration }
    let l := ({ table := {} } : Ledger).run
      [.perform (.addPool ⟨"/a", ["http://[::1]:80"], "round-robin"⟩) trivial,
       .perform (.setLimiter (limiter 1000) 0) trivial,
       .dispatch "/a/x" (.v4 ⟨0⟩) 0, .dispatch "/a/x" (.v4 ⟨0⟩) 0,
       .perform (.setLimiter (limiter 0) 0) trivial, .dispatch "/a/x" (.v4 ⟨0⟩) 0,
       .perform (.removePool "/a") trivial]
    (l.live.length, l.pending, l.table.inFlight,
      l.table.retired.map fun p => p.limiters.map (·.inUse?)) = (2, [1], 3, [[some 1, some 1]]) := by
  decide +kernel

end Ledger

end ClusterGateway
