import ClusterGateway.Proofs.Route.Accord
import ClusterGateway.Proofs.Route.Flow

/-! # Calls for other paths

Limits are kept for each path below a pattern by itself. So how a call fares depends on the calls
for its own path, on the configuration, on who is blocked, on whether the node stops and on which
hosts are alive, but not on calls for other paths or patterns, with one exception: where hosts take
turns, other calls take turns as well, and it may be another host's turn.
-/

namespace ClusterGateway

namespace Flow

variable {pair : String × String} {s s' : Flow} {p q : Pool} {ticket number : Nat} {path : String}

/-! ### Steps of calls for the path -/

/-- A call for the path comes at both tables. -/
theorem Mirrors.arrive_own (mirrors : Mirrors pair s s') (fresh : s.calls.came ticket = none) :
    Mirrors pair { s with calls := s.calls.arrive ticket pair }
      { s' with calls := s'.calls.arrive ticket pair } := by
  have arrived (c : Calls) : (c.arrive ticket pair).came ticket = some pair :=
    Function.update_self _ _ _
  have others (c : Calls) {k : Nat} (different : k ≠ ticket) :
      (c.arrive ticket pair).came k = c.came k := Function.update_of_ne different _ _
  have spares (c : Calls) (serial : Nat) (unseen : c.came ticket = none) :
      c.Spares (c.arrive ticket pair) serial :=
    ⟨fun {k v} known => (others c fun same => by simp [← same, known] at unseen).trans known,
      fun holds _ => holds⟩
  have unseen : s'.calls.came ticket = none := by rw [mirrors.came, fresh]; rfl
  -- The ticket is new, so nobody holds a guard for it yet.
  have unheld : s.calls.held ticket = none := by
    cases holds : s.calls.held ticket with
    | none => rfl
    | some g => exact absurd fresh (mirrors.known holds).1
  refine { mirrors with
    alike := mirrors.alike.imp fun kin => kin.spared (spares _ _ fresh) (spares _ _ unseen)
    came := fun k => ?_
    held := fun {k} own => ?_
    free := fun {k} foreign => ?_
    known := fun {k g} holds => ⟨?_, (mirrors.known holds).2⟩ } <;> by_cases same : k = ticket
  · subst same
    rw [arrived, arrived, Option.filter_some, if_pos (by simp)]
  · rw [others _ same, others _ same, mirrors.came]
  · subst same
    have unheld' : s'.calls.held k = none := mirrors.free (by simp [fresh])
    change Option.Rel _ (s.calls.held k) (s'.calls.held k)
    rw [unheld, unheld']
    exact .none
  · rw [others _ same] at own
    exact mirrors.held own
  · subst same
    exact absurd (arrived _) foreign
  · rw [others _ same] at foreign
    exact mirrors.free foreign
  · subst same
    rw [arrived]
    simp
  · rw [others _ same]
    exact (mirrors.known holds).1

/-- A call for the path has a turn at both tables. -/
theorem Mirrors.turn (mirrors : Mirrors pair s s') {q' : Pool} (member : p ∈ s.table.allPools)
    {p' : Pool} (member' : p' ∈ s'.table.allPools) (kin : Pool.Kin pair s.calls s'.calls p p')
    (arrived : s.calls.came ticket = some pair) (bare : q.bare = p.bare) {d d' : Calls}
    (settles : s.calls.Settles d ticket fun g => g.serial = p.serial)
    (settles' : s'.calls.Settles d' ticket fun g => g.serial = p.serial)
    (after : Pool.Kin pair d d' q q')
    (held : Option.Rel (fun g g' => g'.serial = g.serial) (d.held ticket) (d'.held ticket))
    {u u' : Table} (counted : (s.table.putPool q).Recounted u)
    (counted' : (s'.table.putPool q').Recounted u') :
    Mirrors pair { table := u, calls := d } { table := u', calls := d' } := by
  have serial := Pool.serial_eq_of_bare bare
  have bare' : q'.bare = p'.bare := after.bare.trans (bare.trans kin.bare.symm)
  have put : (s.table.putPool q).Alike (Pool.Kin pair d d') (s'.table.putPool q') := by
    refine mirrors.alike.putPool Pool.Kin.bare (fun {y z} related different => ?_)
      (Pool.serial_eq_of_bare after.bare) after
    -- Other pools are spared: the only guard that is new belongs to this one.
    have other {g : Guard} (here : g.serial = p.serial) : g.serial ≠ y.serial :=
      fun same => different (same.symm.trans (here.trans serial.symm))
    refine related.spared (settles.spares other) (settles'.spares fun {g} here => ?_)
    rw [Pool.serial_eq_of_bare related.bare]
    exact other here
  refine ⟨?_, ?_, put.recounted counted counted', fun k => ?_, fun {k} own => ?_,
    fun {k} foreign => ?_, fun {k g} holds => ?_⟩
  · exact Table.Numbered.recounted (mirrors.numbered.of_steady
      (mirrors.numbered.sound.steady_putPool member (Pool.outline_eq_of_bare bare))) counted
  · exact Table.Numbered.recounted (mirrors.numbered'.of_steady
      (mirrors.numbered'.sound.steady_putPool member' (Pool.outline_eq_of_bare bare'))) counted'
  · rw [settles.came, settles'.came, mirrors.came]
  · by_cases same : k = ticket
    · exact same ▸ held
    · rw [settles.came] at own
      rw [settles.others same, settles'.others same]
      exact mirrors.held own
  · rw [settles.came] at foreign
    have same : k ≠ ticket := fun same => foreign (same ▸ arrived)
    rw [settles'.others same]
    exact mirrors.free foreign
  · have next : u.nextSerial = s.table.nextSerial := counted.nextSerial
    rw [settles.came, next]
    rcases settles.cases holds with old | ⟨rfl, fits⟩
    · exact mirrors.known old
    · exact ⟨by rw [arrived]; simp, fits ▸ mirrors.numbered.sound.serial_lt member⟩

/-- Whether hosts take turns at a pool that was just put back is up to its own balancer. -/
theorem takesTurns_eq {u : Table} (counted : (s.table.putPool q).Recounted u)
    (numbered : u.Numbered) (member : p ∈ s.table.allPools) (serial : q.serial = p.serial) :
    u.takesTurns p.serial = decide (q.balancer.mode = .roundRobin) := by
  have inside : q ∈ u.allPools := by
    obtain ⟨_, _, rfl⟩ := counted
    exact (Table.mem_putPool member serial).2 (Or.inl rfl)
  rw [Table.takesTurns, ← serial, numbered.poolBySerial? inside]
  rfl

/-- What a call for the path is told is the same, and so is what follows. -/
theorem Mirrors.conclude (mirrors : Mirrors pair s s') (member : p ∈ s.table.allPools) {p' : Pool}
    (member' : p' ∈ s'.table.allPools) (kin : Pool.Kin pair s.calls s'.calls p p')
    (arrived : s.calls.came ticket = some pair) {a b : Turn × Pool}
    (inStep : Pool.InStep pair s.calls s'.calls p ticket a b) {u u' : Table}
    (counted : (s.table.putPool a.2).Recounted u)
    (counted' : (s'.table.putPool b.2).Recounted u') :
    (s'.conclude ticket (b.1, u')).1 = (s.conclude ticket (a.1, u)).1 ∧
      Mirrors pair (s.conclude ticket (a.1, u)).2 (s'.conclude ticket (b.1, u')).2 := by
  have bare' : b.2.bare = p'.bare := inStep.kin.bare.trans (inStep.bare.trans kin.bare.symm)
  have home' : ∀ g', b.1.admission = .granted g' → g'.serial = p.serial := by
    intro g' granted
    have agrees := inStep.agrees
    rw [granted] at agrees
    cases admitted : a.1.admission with
    | granted g =>
        rw [admitted] at agrees
        cases agrees with
        | granted serial place => exact serial.trans (inStep.home g admitted)
    | refused error => rw [admitted] at agrees; cases agrees
    | waiting time => rw [admitted] at agrees; cases agrees
  have held : Option.Rel (fun g g' : Guard => g'.serial = g.serial)
      ((s.calls.note ticket a.1.admission).held ticket)
      ((s'.calls.note ticket b.1.admission).held ticket) := by
    have agrees := inStep.agrees
    generalize a.1.admission = x, b.1.admission = y at agrees
    cases agrees with
    | granted serial place =>
        rw [Calls.held_note_granted, Calls.held_note_granted]
        exact .some serial
    | refused error => exact mirrors.held arrived
    | waiting time => exact mirrors.held arrived
  have turned := mirrors.turn member member' kin arrived inStep.bare
    (Calls.settles_note inStep.home s.calls ticket) (Calls.settles_note home' s'.calls ticket)
    inStep.kin held counted counted'
  have turns := takesTurns_eq counted turned.numbered member (Pool.serial_eq_of_bare inStep.bare)
  have turns' := takesTurns_eq counted' turned.numbered' member' (Pool.serial_eq_of_bare bare')
  rw [Pool.mode_eq_of_bare inStep.bare] at turns
  rw [Pool.mode_eq_of_bare bare', Pool.mode_eq_of_bare kin.bare,
    Pool.serial_eq_of_bare kin.bare] at turns'
  have told : u'.answer b.1.admission = u.answer a.1.admission := by
    have agrees := inStep.agrees
    have home := inStep.home
    generalize a.1.admission = x, b.1.admission = y at agrees home
    cases agrees with
    | @granted g g' serial place =>
        rw [Table.answer, Table.answer, serial, home g rfl, turns, turns']
        -- Where hosts take turns the answer does not tell which one it was.
        by_cases rotates : p.balancer.mode = .roundRobin
        · simp [rotates]
        · obtain ⟨host, target⟩ := place rotates
          rw [host, target]
    | refused error => rfl
    | waiting time => rfl
  refine ⟨?_, turned⟩
  rw [Flow.conclude, Flow.conclude, told, inStep.woken]

/-- A call that comes to its pool for the path is told the same in both flows. -/
theorem Mirrors.take (mirrors : Mirrors pair s s') (member : p ∈ s.table.allPools) {p' : Pool}
    (member' : p' ∈ s'.table.allPools) (kin : Pool.Kin pair s.calls s'.calls p p')
    (here : p.pattern = pair.1) (arrived : s.calls.came ticket = some pair) (client : String)
    (instant : Nat) :
    (s'.conclude ticket (s'.table.take p' ticket pair.2 client instant)).1 =
        (s.conclude ticket (s.table.take p ticket pair.2 client instant)).1 ∧
      Mirrors pair (s.conclude ticket (s.table.take p ticket pair.2 client instant)).2
        (s'.conclude ticket (s'.table.take p' ticket pair.2 client instant)).2 :=
  mirrors.conclude member member' kin arrived (kin.acquire here arrived client instant)
    (s.table.recounted_take p ticket pair.2 client instant)
    (s'.table.recounted_take p' ticket pair.2 client instant)

/-- A call that is refused at the table is told the same in both flows. -/
theorem Mirrors.refuse (mirrors : Mirrors pair s s') (ticket : Nat) (error : DispatchError) :
    (s'.conclude ticket (s'.table.refuse error)).1 = (s.conclude ticket (s.table.refuse error)).1 ∧
      Mirrors pair (s.conclude ticket (s.table.refuse error)).2
        (s'.conclude ticket (s'.table.refuse error)).2 :=
  ⟨rfl, mirrors.recounted (Table.recounted_refuse _ _) (Table.recounted_refuse _ _)⟩

/-- The pools at which a call for the path waits, if it does. -/
theorem Mirrors.find? (mirrors : Mirrors pair s s') (arrived : s.calls.came ticket = some pair) :
    Option.Rel (Pool.Kin pair s.calls s'.calls)
      (s.table.allPools.find? fun p => (p.waiter? ticket).isSome)
      (s'.table.allPools.find? fun p => (p.waiter? ticket).isSome) :=
  rel_find? mirrors.alike.allPools fun kin => kin.isSome_waiter arrived

/-- A call that came for the path waits at a pool of its pattern. -/
theorem Mirrors.pattern_of_find (mirrors : Mirrors pair s s')
    (found : s.table.allPools.find? (fun p => (p.waiter? ticket).isSome) = some p)
    (arrived : s.calls.came ticket = some pair) : p.pattern = pair.1 := by
  obtain ⟨member, w, waits⟩ := Table.waiter_of_find found
  obtain ⟨x, -, kin⟩ := mirrors.exists_kin member
  exact congrArg Prod.fst (kin.pair_of_waiter arrived waits)

/-- A call that waits for the path has a turn at both tables, if it has one. -/
theorem Mirrors.resume (mirrors : Mirrors pair s s') (arrived : s.calls.came ticket = some pair)
    {turn : Pool → Option (Turn × Pool)}
    (turns : ∀ {p q}, Pool.Kin pair s.calls s'.calls p q → p.pattern = pair.1 →
      Option.Rel (Pool.InStep pair s.calls s'.calls p ticket) (turn p) (turn q)) :
    (((s'.table.resume turn ticket).map (s'.conclude ticket)).getD (none, s')).1 =
        (((s.table.resume turn ticket).map (s.conclude ticket)).getD (none, s)).1 ∧
      Mirrors pair (((s.table.resume turn ticket).map (s.conclude ticket)).getD (none, s)).2
        (((s'.table.resume turn ticket).map (s'.conclude ticket)).getD (none, s')).2 := by
  rw [Table.resume, Table.resume]
  rcases none_or_some_of_rel (mirrors.find? arrived) with
    ⟨none, none'⟩ | ⟨p, p', found, found', kin⟩
  · rw [none, none']
    exact ⟨rfl, mirrors⟩
  · rw [found, found']
    rcases none_or_some_of_rel (turns kin (mirrors.pattern_of_find found arrived)) with
      ⟨none, none'⟩ | ⟨a, b, turned, turned', inStep⟩
    · simp only [Option.bind_eq_bind, Option.bind_some, none, none', Option.bind_none]
      exact ⟨rfl, mirrors⟩
    · simp only [Option.bind_eq_bind, Option.bind_some, turned, turned']
      exact mirrors.conclude (List.mem_of_find?_eq_some found) (List.mem_of_find?_eq_some found')
        kin arrived inStep (Table.recounted_settle _ _) (Table.recounted_settle _ _)

/-- A call that goes away hears nothing, and wakes those whom it would wake when its time was
over. -/
theorem step_cancel {turn : Turn}
    (found : s.table.allPools.find? (fun p => (p.waiter? ticket).isSome) = some p)
    (expired : p.expire ticket = some (turn, q)) :
    s.step (.cancel ticket) =
      (some ⟨ticket, none, turn.woken⟩, { s with table := (s.table.putPool q).leave }) := by
  have cancelled : s.table.cancel ticket = some (s.table.putPool q).leave := by
    rw [Table.cancel, found, Option.bind_eq_bind, Option.bind_some, expired]
    rfl
  have resumed : s.table.expire ticket = some (turn, (s.table.putPool q).settle turn) := by
    rw [Table.expire, Table.resume, found, Option.bind_eq_bind, Option.bind_some, expired]
    rfl
  rw [step, cancelled, resumed]
  rfl

/-- The caller of a call for the path goes away at both tables. -/
theorem Mirrors.cancel (mirrors : Mirrors pair s s') (arrived : s.calls.came ticket = some pair) :
    (s'.step (.cancel ticket)).1 = (s.step (.cancel ticket)).1 ∧
      Mirrors pair (s.step (.cancel ticket)).2 (s'.step (.cancel ticket)).2 := by
  rcases none_or_some_of_rel (mirrors.find? arrived) with
    ⟨none, none'⟩ | ⟨p, p', found, found', kin⟩
  · rw [step, step, Table.cancel, Table.cancel, none, none']
    exact ⟨rfl, mirrors⟩
  · rcases none_or_some_of_rel (kin.expire (mirrors.pattern_of_find found arrived) arrived) with
      ⟨none, none'⟩ | ⟨⟨turn, q⟩, ⟨turn', q'⟩, turned, turned', inStep⟩
    · rw [step, step, Table.cancel, Table.cancel, found, found', Option.bind_eq_bind,
        Option.bind_some, Option.bind_some, none, none']
      exact ⟨rfl, mirrors⟩
    · have concluded := mirrors.conclude (List.mem_of_find?_eq_some found)
        (List.mem_of_find?_eq_some found') kin arrived inStep (Table.recounted_leave _)
        (Table.recounted_leave _)
      have woken : turn'.woken = turn.woken := inStep.woken
      rw [step_cancel found turned, step_cancel found' turned', woken]
      -- A call that gives up is refused, so it holds what it held.
      obtain ⟨_, _, _, _, rfl, _⟩ := Pool.expire_spec turned
      obtain ⟨_, _, _, _, rfl, _⟩ := Pool.expire_spec turned'
      exact ⟨rfl, concluded.2⟩

/-- A guard of a call for the path is given back at both tables. -/
theorem Mirrors.finish (mirrors : Mirrors pair s s') (arrived : s.calls.came ticket = some pair) :
    (s'.step (.drop ticket)).1 = (s.step (.drop ticket)).1 ∧
      Mirrors pair (s.step (.drop ticket)).2 (s'.step (.drop ticket)).2 := by
  rw [step, step]
  rcases none_or_some_of_rel (mirrors.held arrived) with
    ⟨none, none'⟩ | ⟨g, g', holds, holds', same⟩
  · rw [none, none']
    exact ⟨rfl, mirrors⟩
  · rw [holds, holds']
    dsimp only
    rw [Table.finish, Table.finish, same]
    rcases none_or_some_of_rel (mirrors.alike.poolBySerial? mirrors.lasting g.serial) with
      ⟨none, none'⟩ | ⟨p, p', found, found', kin⟩
    · rw [none, none']
      exact ⟨rfl, (mirrors.recounted ⟨_, _, rfl⟩ ⟨_, _, rfl⟩).drop ticket⟩
    · rw [found, found']
      have serial := (Table.serial_of_find found).symm
      have serial' := same.trans (Table.serial_of_find found').symm
      obtain ⟨woken, after⟩ := kin.giveBack arrived holds serial holds' serial'
      dsimp only
      refine ⟨by rw [woken], Mirrors.drop (mirrors.turn (Table.mem_allPools_of_serial found)
        (Table.mem_allPools_of_serial found') kin arrived (p.beside_giveBack g.limiter).bare
        (s.calls.settles_refl ticket _) (s'.calls.settles_refl ticket _) after
        (mirrors.held arrived) ⟨_, _, rfl⟩ ⟨_, _, rfl⟩) ticket⟩

/-! ### Runs -/

/-- An event is a step of a call for the path at both tables or at neither. -/
theorem Mirrors.pair?_iff (mirrors : Mirrors pair s s') (event : Event) :
    s'.pair? event = some pair ↔ s.pair? event = some pair := by
  cases event with
  | dispatch ticket path client instant =>
      rw [pair?, pair?]
      rcases none_or_some_of_rel (mirrors.alike.route path) with
        ⟨none, none'⟩ | ⟨m, n, found, found', kin, same⟩
      · rw [none, none']
      · rw [found, found', Option.map_some, Option.map_some, same,
          Pool.pattern_eq_of_bare kin.bare]
  | dispatchTo serial ticket path client instant =>
      rw [pair?, pair?]
      rcases none_or_some_of_rel (mirrors.alike.poolBySerial? mirrors.lasting serial) with
        ⟨none, none'⟩ | ⟨p, q, found, found', kin⟩
      · rw [none, none']
      · rw [found, found', Option.map_some, Option.map_some, Pool.pattern_eq_of_bare kin.bare]
  | look ticket instant => exact mirrors.came_iff ticket
  | expire ticket => exact mirrors.came_iff ticket
  | cancel ticket => exact mirrors.came_iff ticket
  | drop ticket => exact mirrors.came_iff ticket
  | perform operation change => rfl
  | block acl => rfl
  | stop => rfl

/-- A step of a call for the path, or something that is none of a call, happens at both tables. -/
theorem Mirrors.own_step (mirrors : Mirrors pair s s') {event : Event}
    (fresh : ∀ ticket, event.arrival? = some ticket → s.calls.came ticket = none)
    (own : s.concerns pair event = true) :
    (s'.step event).1 = (s.step event).1 ∧ Mirrors pair (s.step event).2 (s'.step event).2 := by
  cases event with
  | dispatch ticket path client instant =>
      have here : s.pair? (.dispatch ticket path client instant) = some pair :=
        of_decide_eq_true own
      have there := (mirrors.pair?_iff _).2 here
      have arrived := mirrors.arrive_own (fresh ticket rfl)
      rw [step, step, there, Table.dispatch, Table.dispatch, Table.resolve, Table.resolve, here]
      rw [pair?] at here
      -- Either table has a pool for the path, and these are kin, or neither has one.
      rcases none_or_some_of_rel (arrived.alike.route path) with
        ⟨none, none'⟩ | ⟨m, n, found, found', kin, same⟩
      · rw [none, none']
        exact arrived.refuse ticket _
      · rw [found, Option.map_some] at here
        obtain ⟨pattern, rest⟩ := Prod.ext_iff.1 (Option.some.inj here)
        rw [found, found']
        dsimp only
        rw [same, show m.path = pair.2 from rest, mirrors.alike.checkClient client]
        cases s.table.checkClient client with
        | error error => exact arrived.refuse ticket error
        | ok =>
            exact arrived.take (Table.mem_allPools_of_route found)
              (Table.mem_allPools_of_route found') kin pattern (Function.update_self _ _ _)
              client.text instant
  | dispatchTo serial ticket path client instant =>
      have here : s.pair? (.dispatchTo serial ticket path client instant) = some pair :=
        of_decide_eq_true own
      have there := (mirrors.pair?_iff _).2 here
      have arrived := mirrors.arrive_own (fresh ticket rfl)
      rw [step, step, there, here]
      rw [pair?] at here
      rcases none_or_some_of_rel (arrived.alike.poolBySerial? arrived.lasting serial) with
        ⟨none, none'⟩ | ⟨p, q, found, found', kin⟩
      · rw [none] at here
        exact absurd here (by simp)
      · rw [found, Option.map_some] at here
        obtain ⟨pattern, rest⟩ := Prod.ext_iff.1 (Option.some.inj here)
        rw [found, found', show path = pair.2 from rest]
        dsimp only
        rw [Table.dispatchTo, Table.dispatchTo, mirrors.alike.checkClient client]
        cases s.table.checkClient client with
        | error error => exact arrived.refuse ticket error
        | ok =>
            exact arrived.take (Table.mem_allPools_of_serial found)
              (Table.mem_allPools_of_serial found') kin pattern (Function.update_self _ _ _)
              client.text instant
  | look ticket instant =>
      have arrived : s.calls.came ticket = some pair := of_decide_eq_true own
      exact mirrors.resume arrived fun kin here => kin.look here arrived instant
  | expire ticket =>
      have arrived : s.calls.came ticket = some pair := of_decide_eq_true own
      exact mirrors.resume arrived fun kin here => kin.expire here arrived
  | cancel ticket => exact mirrors.cancel (of_decide_eq_true own)
  | drop ticket => exact mirrors.finish (of_decide_eq_true own)
  | perform operation change =>
      exact ⟨rfl, mirrors.change (mirrors.numbered.perform change)
        (mirrors.numbered'.perform change)
        (mirrors.alike.perform mirrors.lasting (Nat.le_refl _) change)
        (mirrors.numbered.continues change).nextSerial⟩
  | block acl =>
      have alike := mirrors.alike
      exact ⟨rfl, mirrors.change ⟨mirrors.numbered.sound.withAcl acl, mirrors.numbered.past⟩
        ⟨mirrors.numbered'.sound.withAcl acl, mirrors.numbered'.past⟩
        { alike with acl := rfl } (Nat.le_refl _)⟩
  | stop =>
      have alike := mirrors.alike
      exact ⟨rfl, mirrors.change
        (mirrors.numbered.of_steady ⟨rfl, rfl, rfl, rfl, rfl, rfl⟩)
        (mirrors.numbered'.of_steady ⟨rfl, rfl, rfl, rfl, rfl, rfl⟩)
        { alike with stopping := rfl } (Nat.le_refl _)⟩

/-- An event notes the arrival of no call but its own. -/
theorem came_step (s : Flow) (event : Event) {k : Nat} (other : event.arrival? ≠ some k) :
    (s.step event).2.calls.came k = s.calls.came k := by
  have arrive (pair : Option (String × String)) {ticket : Nat} (different : some ticket ≠ some k) :
      (s.arrive ticket pair).calls.came k = s.calls.came k := by
    cases pair with
    | none => rfl
    | some pair => exact Function.update_of_ne (fun same => different (congrArg some same.symm)) _ _
  have conclude (t : Flow) (ticket : Nat) (result : Turn × Table) :
      (t.conclude ticket result).2.calls.came = t.calls.came := Calls.came_note _ _ _
  have resume (ticket : Nat) (result : Option (Turn × Table)) :
      ((result.map (s.conclude ticket)).getD (none, s)).2.calls.came = s.calls.came := by
    cases result with
    | none => rfl
    | some result => exact conclude s ticket result
  cases event with
  | dispatch ticket path client instant =>
      rw [step, conclude]
      exact arrive _ other
  | dispatchTo serial ticket path client instant =>
      rw [step]
      split
      · rfl
      · rw [conclude]
        exact arrive _ other
  | look ticket instant => exact congrFun (resume ticket _) k
  | expire ticket => exact congrFun (resume ticket _) k
  | cancel ticket =>
      rw [step]
      split <;> rfl
  | drop ticket =>
      rw [step]
      split <;> rfl
  | perform | block | stop => rfl

/-- A step of a call for the path concerns the path. -/
theorem concerns_of_pair? {event : Event} (own : s.pair? event = some pair) :
    s.concerns pair event = true := by
  cases event with
  | perform | block | stop => rfl
  | dispatch | dispatchTo | look | expire | cancel | drop => exact decide_eq_true own

/-- What comes of the calls for a path comes of them without the other calls as well. -/
theorem Mirrors.replies (mirrors : Mirrors pair s s') {events : List Event}
    (once : (events.filterMap Event.arrival?).Nodup)
    (fresh : ∀ ticket ∈ events.filterMap Event.arrival?, s.calls.came ticket = none) :
    s'.replies pair (s.own pair events) = s.replies pair events := by
  induction events generalizing s s' with
  | nil => rfl
  | cons event events ih =>
      have unseen (ticket : Nat) (arrives : event.arrival? = some ticket) :
          s.calls.came ticket = none :=
        fresh ticket (List.mem_filterMap.2 ⟨event, List.mem_cons_self, arrives⟩)
      rw [List.filterMap_cons] at once fresh
      have later : (events.filterMap Event.arrival?).Nodup := by
        split at once
        · exact once
        · exact once.of_cons
      have still (ticket : Nat) (member : ticket ∈ events.filterMap Event.arrival?) :
          (s.step event).2.calls.came ticket = none := by
        split at once <;> rename_i arrives <;> rw [arrives] at fresh
        · rw [came_step s event (by simp [arrives])]
          exact fresh ticket member
        · have other : event.arrival? ≠ some ticket := by
            rw [arrives]
            rintro ⟨⟩
            exact (List.nodup_cons.1 once).1 member
          rw [came_step s event other]
          exact fresh ticket (List.mem_cons_of_mem _ member)
      rw [own]
      by_cases concerned : s.concerns pair event = true
      · obtain ⟨reply, after⟩ := mirrors.own_step unseen concerned
        rw [if_pos concerned, Flow.replies, Flow.replies, reply, ih after later still]
        by_cases mine : s.pair? event = some pair
        · rw [if_pos mine, if_pos ((mirrors.pair?_iff event).2 mine)]
        · rw [if_neg mine, if_neg fun same => mine ((mirrors.pair?_iff event).1 same)]
      · have foreign := eq_false_of_ne_true concerned
        rw [if_neg concerned, Flow.replies, ih (mirrors.stray_step unseen foreign) later still,
          if_neg fun mine => concerned (concerns_of_pair? mine), List.nil_append]

/-- At the outset nothing has come in either flow. -/
theorem mirrors_empty (pair : String × String) (settings : PoolSettings) (hostWait : Nat)
    (acl : AccessList) :
    Mirrors pair { table := { settings, hostWait, acl } } { table := { settings, hostWait, acl } }
    where
  numbered := Table.numbered_empty settings hostWait acl
  numbered' := Table.numbered_empty settings hostWait acl
  alike := ⟨rfl, rfl, rfl, rfl, rfl, rfl, fun _ => .none, .nil⟩
  came := fun _ => rfl
  held := fun came => absurd came (by simp)
  free := fun _ => rfl
  known := fun holds => absurd holds (by simp)

/-- Let two runs of a table have the calls for one path below one pattern in common, with the turns
that these have and the guards that they give back, and all that is done in between to the
configuration, to hosts and to who is blocked, and when the node stops. They may differ in all calls
for other paths or patterns. Then every call for the path is told the same in both, at each of its
turns, be it that it is served, or waits, or is refused for want of a permit or of a host or before
it is let in; and it wakes the same calls. Only whose turn it is among hosts that take turns may
differ. -/
theorem throttling_is_isolated (settings : PoolSettings) (hostWait : Nat) (acl : AccessList)
    (pair : String × String) {events others : List Event}
    (once : (events.filterMap Event.arrival?).Nodup)
    (once' : (others.filterMap Event.arrival?).Nodup)
    (same : own pair { table := { settings, hostWait, acl } } events =
      own pair { table := { settings, hostWait, acl } } others) :
    replies pair { table := { settings, hostWait, acl } } events =
      replies pair { table := { settings, hostWait, acl } } others := by
  have mirrors := mirrors_empty pair settings hostWait acl
  rw [← mirrors.replies once fun _ _ => rfl, same, mirrors.replies once' fun _ _ => rfl]

/-- A limiter lets one call in at a time, and a second one waits until the first one is done. -/
def quietRun : List Event :=
  [.perform (.addPool ⟨"/a", ["http://[::1]:80", "http://[::2]:80"], "round-robin"⟩) trivial,
   .perform (.setLimiter
     { pattern := "/a", path := "/x", kind := "concurrency", volume := 1, duration := 9 } 0)
     trivial,
   .dispatch 0 "/a/x" (.v4 ⟨0⟩) 0, .dispatch 1 "/a/x" (.v4 ⟨0⟩) 0, .drop 0, .look 1 0]

/-- The same with calls for another path in between. -/
def busyRun : List Event :=
  [.perform (.addPool ⟨"/a", ["http://[::1]:80", "http://[::2]:80"], "round-robin"⟩) trivial,
   .perform (.setLimiter
     { pattern := "/a", path := "/x", kind := "concurrency", volume := 1, duration := 9 } 0)
     trivial,
   .dispatch 2 "/a/y" (.v4 ⟨0⟩) 0, .dispatch 0 "/a/x" (.v4 ⟨0⟩) 0, .drop 2,
   .dispatch 1 "/a/x" (.v4 ⟨0⟩) 0, .dispatchTo 0 3 "/y" (.v4 ⟨0⟩) 0, .drop 0, .look 1 0]

/-- Calls for another path in between change nothing for two calls that share a limiter: the second
one is told to wait until the first one is done. -/
theorem throttling_is_isolated_busyRun :
    (quietRun.filterMap Event.arrival?).Nodup ∧ (busyRun.filterMap Event.arrival?).Nodup ∧
      own ("/a", "/x") { table := {} } quietRun = own ("/a", "/x") { table := {} } busyRun ∧
      replies ("/a", "/x") { table := {} } quietRun =
        replies ("/a", "/x") { table := {} } busyRun ∧
      replies ("/a", "/x") { table := {} } quietRun =
        [⟨0, some (.routed 0 none), []⟩, ⟨1, some (.waiting 9), []⟩, ⟨0, none, [1]⟩,
          ⟨1, some (.routed 0 none), []⟩] := by
  have same : own ("/a", "/x") { table := {} } quietRun =
      own ("/a", "/x") { table := {} } busyRun := by
    simp (disch := decide +kernel) only [quietRun, busyRun, own, ↓if_pos, ↓if_neg]
  exact ⟨by decide, by decide, same,
    throttling_is_isolated {} 5000 .empty ("/a", "/x") (by decide) (by decide) same,
    by decide +kernel⟩

end Flow

end ClusterGateway
