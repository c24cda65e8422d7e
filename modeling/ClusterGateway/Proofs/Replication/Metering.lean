import ClusterGateway.Proofs.Replication.Replica
import ClusterGateway.Proofs.Route.Counts

/-! # The metrics of a machine at work

The gauges of a machine show its pools and its blocked networks at every moment between two steps,
and its counters add up: over all kinds of change and of fault to the entries that were applied,
over all outcomes to the calls that have had an answer. An entry that removes a host waits for the
checks of that host before it is counted, and anything may happen meanwhile.
-/

namespace ClusterGateway

/-! ### Counters -/

namespace Dict

/-- A key less than all keys of a list is not found there. -/
theorem lookup_of_less {α : Type} {key : String} {l : List (String × α)}
    (less : ∀ e ∈ l, key < e.1) : lookup key l = none := by
  induction l with
  | nil => rfl
  | cons head rest ih =>
      have first := less head List.mem_cons_self
      rw [lookup, if_neg, ih fun e member => less e (List.mem_cons_of_mem head member)]
      rintro rfl
      exact String.lt_irrefl _ first

/-- Placing a number under a key moves the sum of all numbers by the difference to what stood
there. -/
theorem sum_place (key : String) (n : Nat) {l : List (String × Nat)}
    (ascending : l.Pairwise (fun a b => a.1 < b.1)) :
    ((place key n l).map Prod.snd).sum + (lookup key l).getD 0 = (l.map Prod.snd).sum + n := by
  induction l with
  | nil => simp [place, lookup]
  | cons head rest ih =>
      obtain ⟨k, b⟩ := head
      rw [List.pairwise_cons] at ascending
      rw [place]
      split
      · next less =>
          have absent : lookup key ((k, b) :: rest) = none := lookup_of_less fun e member => by
            rcases List.mem_cons.1 member with rfl | later
            · exact less
            · exact String.lt_trans less (ascending.1 e later)
          rw [absent]
          simp only [List.map_cons, List.sum_cons, Option.getD_none]
          omega
      · split
        · next same =>
            rw [lookup, if_pos same.symm]
            simp only [List.map_cons, List.sum_cons, Option.getD_some]
            omega
        · next different =>
            have counted := ih ascending.2
            rw [lookup, if_neg (Ne.symm different)]
            simp only [List.map_cons, List.sum_cons]
            omega

end Dict

namespace Metrics

/-- The sum of a counter over all its labels. -/
def total (counts : Dict Nat) : Nat := counts.values.sum

/-- Writing one series of a counter moves its total by the difference to what stood there. -/
theorem total_insert (counts : Dict Nat) (label : String) (n : Nat) :
    total (counts.insert label n) + (counts.get? label).getD 0 = total counts + n :=
  Dict.sum_place label n counts.ascending

/-- Bumping one series of a counter adds one to its total. -/
theorem total_bump (counts : Dict Nat) (label : String) :
    total (bump counts label) = total counts + 1 := by
  have whole := total_insert counts label ((counts.get? label).getD 0 + 1)
  rw [bump]
  omega

/-- Reading a series may bring it into being, but adds nothing. -/
theorem total_read (counts : Dict Nat) (label : String) :
    total (read counts label).2 = total counts := by
  rw [read]
  split
  · rfl
  · next absent =>
      have whole := total_insert counts label 0
      rw [absent] at whole
      exact whole

/-- One series of a counter stands one higher, and the others stand where they stood. -/
def OneMore (before after : Dict Nat) : Prop :=
  ∃ label, (after.get? label).getD 0 = (before.get? label).getD 0 + 1 ∧
    ∀ other, other ≠ label → after.get? other = before.get? other

/-- Bumping a series leaves all other series as they are. -/
theorem oneMore_bump (counts : Dict Nat) (label : String) : OneMore counts (bump counts label) := by
  refine ⟨label, ?_, fun other different => ?_⟩
  · rw [bump, Dict.get?_insert, if_pos rfl]
    rfl
  · rw [bump, Dict.get?_insert, if_neg (Ne.symm different)]

/-- Just one series of the counters of entries stands one higher, and no decision is counted. -/
structure CountsEntry (before after : Metrics) : Prop where
  once : OneMore before.applied after.applied ∧ after.failures = before.failures ∨
    after.applied = before.applied ∧ OneMore before.failures after.failures
  dispatched : after.dispatched = before.dispatched

end Metrics

/-- Whether this is an answer to a call. -/
def Admission.isAnswer : Admission → Bool
  | .granted _ | .refused _ => true
  | .waiting _ => false

/-- An answer is counted once, and nothing else in the metrics changes with it. -/
theorem Metrics.answered (m : Metrics) (told : Option Admission) :
    (told.map m.withAnswer).getD m =
        { m with dispatched := ((told.map m.withAnswer).getD m).dispatched } ∧
      total ((told.map m.withAnswer).getD m).dispatched =
        total m.dispatched + if told.any (·.isAnswer) then 1 else 0 := by
  cases told with
  | none => exact ⟨rfl, rfl⟩
  | some admission =>
      refine ⟨m.withAnswer_eq admission, ?_⟩
      cases admission with
      | granted | refused => exact total_bump _ _
      | waiting => rfl

/-! ### Entries -/

namespace Table

variable {t u : Table}

/-- The gauges show the pools and the blocked networks. -/
structure Shows (t : Table) : Prop where
  pools : t.metrics.pools = t.router.size
  aclRules : t.metrics.aclRules = t.acl.size

/-- A change leaves the counters alone, and the gauges right. -/
structure Stays (t u : Table) : Prop where
  applied : u.metrics.applied = t.metrics.applied
  failures : u.metrics.failures = t.metrics.failures
  dispatched : u.metrics.dispatched = t.metrics.dispatched
  shows : t.Shows → u.Shows

theorem Stays.refl (t : Table) : t.Stays t := ⟨rfl, rfl, rfl, id⟩

/-- A change of the pools that shows their number. -/
theorem Refits.stays (refits : t.Refits u)
    (pools : t.metrics.pools = t.router.size → u.metrics.pools = u.router.size) : t.Stays u := by
  have same := refits.metrics
  refine ⟨by rw [same], by rw [same], by rw [same], fun shows => ⟨pools shows.pools, ?_⟩⟩
  rw [same, refits.acl]
  exact shows.aclRules

/-- Adding a pool moves the gauge of pools, and no counter. -/
theorem stays_addPool {l : Location} {added : Bool} (answered : t.addPool l = .ok (added, u)) :
    t.Stays u := by
  refine (refits_addPool answered).stays fun shown => ?_
  rw [addPool] at answered
  obtain ⟨⟨fresh, v⟩, inserted, same⟩ := exists_of_map_ok answered
  obtain ⟨-, rfl⟩ := Prod.mk.inj same
  rcases insertPool_spec inserted with ⟨rfl, rfl⟩ | ⟨rfl, -⟩
  · exact shown
  · rfl

theorem stays_removePool {pattern : String} (removed : t.removePool pattern = .ok u) :
    t.Stays u := by
  refine (refits_removePool removed).stays fun _ => ?_
  obtain ⟨p, -, rfl⟩ := removePool_spec removed
  rfl

/-- Adding a host moves neither gauges nor counters. -/
theorem stays_addHost {pattern raw key : String} (added : t.addHost pattern raw = .ok (key, u)) :
    t.Stays u := by
  refine (refits_addHost added).stays fun shown => ?_
  obtain ⟨p, q, change, -, -, rfl⟩ := addHost_spec added
  exact shown.trans (size_putPool t q).symm

/-- Removing a host moves neither gauges nor counters, whether its checks stop in time or not. -/
theorem stays_removeHost (t : Table) (pattern host : String) (checksStop : Bool) :
    t.Stays (t.removeHost pattern host checksStop).2 := by
  refine (refits_removeHost t pattern host checksStop).stays fun shown => ?_
  rw [removeHost]
  dsimp only
  split
  · exact shown
  · split
    · exact shown.trans (size_putPool _ _).symm
    · exact shown

/-- Changing a balancer moves neither gauges nor counters. -/
theorem stays_changeBalancer {pattern mode : String}
    (changed : t.changeBalancer pattern mode = .ok u) : t.Stays u := by
  refine (refits_changeBalancer changed).stays fun shown => ?_
  obtain ⟨p, q, -, -, rfl⟩ := changeBalancer_spec changed
  exact shown.trans (size_putPool t q).symm

theorem stays_setLimiter {s : LimiterSetting} {instant : Nat}
    (changed : t.setLimiter s instant = .ok u) : t.Stays u := by
  refine (refits_setLimiter changed).stays fun shown => ?_
  obtain ⟨p, limiter, -, -, rfl⟩ := setLimiter_spec changed
  exact shown.trans (size_putPool t _).symm

/-- A step of a call or of a check keeps the gauges right. -/
theorem Sits.shows (sits : t.Sits u) (pools : u.metrics.pools = t.metrics.pools)
    (aclRules : u.metrics.aclRules = t.metrics.aclRules) (shows : t.Shows) : u.Shows :=
  ⟨by rw [pools, sits.size, shows.pools], by rw [aclRules, sits.acl, shows.aclRules]⟩

end Table

namespace Machine

variable {m : Machine} {t : Table}

/-- Changing the access list moves the gauge of blocked networks, and no counter. -/
theorem stays_mutate {action : AclAction} {cidr : String} {u : Table}
    (changed : mutate t action cidr = .ok u) : t.Stays u := by
  simp only [mutate] at changed
  obtain ⟨acl, -, rfl⟩ := Table.exists_of_map_ok changed
  exact ⟨rfl, rfl, rfl, fun shows => ⟨shows.pools, rfl⟩⟩

/-- The outcome of a change keeps the counters, and the gauges right, if the change does when it
succeeds. -/
theorem stays_outcome {ε : Type} {wrap : ε → ApplyError} {result : Except ε Table}
    (stays : ∀ u, result = .ok u → t.Stays u) : t.Stays (outcome t wrap result).2 := by
  cases result with
  | ok u => exact stays u rfl
  | error error => exact .refl t

/-- The change of an entry counts nothing, and what it changes is shown. -/
theorem stays_execute (t : Table) (around : Surroundings) (entry : LogEntry) :
    t.Stays (execute t around entry).2 := by
  cases entry with
  | createPool l =>
      refine stays_outcome fun u made => ?_
      obtain ⟨⟨added, u⟩, answered, rfl⟩ := Table.exists_of_map_ok made
      exact Table.stays_addPool answered
  | setRateLimiter s => exact stays_outcome fun u => Table.stays_setLimiter
  | aclMutate action cidr => exact stays_outcome fun u => stays_mutate
  | removePool pattern => exact stays_outcome fun u => Table.stays_removePool
  | removeHost pattern host => exact t.stays_removeHost pattern host around.checksStop
  | addHost pattern raw =>
      refine stays_outcome fun u made => ?_
      obtain ⟨⟨key, u⟩, added, rfl⟩ := Table.exists_of_map_ok made
      exact Table.stays_addHost added
  | changeBalancer pattern mode => exact stays_outcome fun u => Table.stays_changeBalancer

/-- Applies an entry, but does not count it yet; answers with the kind of the change, or why there
was none. -/
def enter (m : Machine) (around : Surroundings) (index : LogIndex) (bytes : Bytes) :
    Except ApplyError OpCode × Machine :=
  let m := { m with lastApplied := index }
  if m.diverged then (.error .diverged, m)
  else
    match LogEntry.decode bytes with
    | .error error => (.error (.decode error), { m with diverged := true })
    | .ok entry =>
      let (result, table) := execute m.table around entry
      (result.map fun _ => entry.op, { m with table })

/-- Counts an entry by what came of it. -/
def count (m : Machine) : Except ApplyError OpCode → Machine
  | .ok op => { m with table := countApplied m.table op }
  | .error error => { m with table := countFailure m.table error }

/-- An entry is applied and then counted. -/
theorem apply_eq (m : Machine) (around : Surroundings) (index : LogIndex) (bytes : Bytes) :
    m.apply around index bytes =
      ((m.enter around index bytes).1.map fun _ => (),
        (m.enter around index bytes).2.count (m.enter around index bytes).1) := by
  rw [apply, enter]
  dsimp only
  split
  · rfl
  · cases LogEntry.decode bytes with
    | error error => rfl
    | ok entry =>
        dsimp only
        obtain ⟨result, table⟩ := execute m.table around entry
        cases result <;> rfl

/-- Applying an entry keeps the counters, and the gauges right, until the entry is counted. -/
theorem stays_enter (m : Machine) (around : Surroundings) (index : LogIndex) (bytes : Bytes) :
    m.table.Stays (m.enter around index bytes).2.table := by
  rw [enter]
  dsimp only
  split
  · exact .refl _
  · cases LogEntry.decode bytes with
    | error error => exact .refl _
    | ok entry => exact stays_execute m.table around entry

/-- Counting an entry moves one series of one of the two counters by one. -/
theorem countsEntry_count (m : Machine) (result : Except ApplyError OpCode) :
    m.table.metrics.CountsEntry (m.count result).table.metrics := by
  cases result with
  | ok op => exact ⟨Or.inl ⟨Metrics.oneMore_bump _ _, rfl⟩, rfl⟩
  | error error => exact ⟨Or.inr ⟨rfl, Metrics.oneMore_bump _ _⟩, rfl⟩

/-- Counting an entry adds one to the counters of entries taken together. -/
theorem total_count (m : Machine) (result : Except ApplyError OpCode) :
    Metrics.total (m.count result).table.metrics.applied +
        Metrics.total (m.count result).table.metrics.failures =
      Metrics.total m.table.metrics.applied + Metrics.total m.table.metrics.failures + 1 := by
  cases result with
  | ok op =>
      have more := Metrics.total_bump m.table.metrics.applied op.label
      change Metrics.total (Metrics.bump _ _) + Metrics.total m.table.metrics.failures = _
      rw [more, Nat.add_right_comm]
  | error error =>
      have more := Metrics.total_bump m.table.metrics.failures (Report.kind error).label
      change Metrics.total m.table.metrics.applied + Metrics.total (Metrics.bump _ _) = _
      rw [more, Nat.add_assoc]

theorem shows_count {m : Machine} (shows : m.table.Shows) (result : Except ApplyError OpCode) :
    (m.count result).table.Shows := by
  cases result <;> exact ⟨shows.pools, shows.aclRules⟩

/-- Each entry stands in one series, whatever came of it. -/
theorem countsEntry_apply (m : Machine) (around : Surroundings) (index : LogIndex)
    (bytes : Bytes) :
    m.table.metrics.CountsEntry (m.apply around index bytes).2.table.metrics := by
  have stays := m.stays_enter around index bytes
  obtain ⟨once, dispatched⟩ := countsEntry_count (m.enter around index bytes).2
    (m.enter around index bytes).1
  rw [stays.applied, stays.failures] at once
  rw [stays.dispatched] at dispatched
  rw [apply_eq]
  exact ⟨once, dispatched⟩

/-- A snapshot counts nothing, and its pools and blocked networks are shown. -/
theorem stays_adopt (m : Machine) (around : Surroundings) (s : StateSnapshot) :
    m.table.Stays (m.adopt around s).table := by
  rw [adopt]
  generalize (AccessList.ofRecords (canonicalRecords s.records)).toOption = acl
  obtain ⟨-, -, metrics⟩ := m.table.restore_spec s.routing acl around.instant
  exact ⟨(congrArg Metrics.applied metrics :), (congrArg Metrics.failures metrics :),
    (congrArg Metrics.dispatched metrics :), fun _ => ⟨(congrArg Metrics.pools metrics :), rfl⟩⟩

end Machine

/-! ### Runs -/

/-- A machine at work. -/
structure Worker where
  ledger : Ledger
  diverged : Bool := false
  lastApplied : LogIndex := .zero
  /-- What came of the entries that are applied but not counted yet. -/
  uncounted : List (Except ApplyError OpCode) := []
  /-- How many entries were handed to the machine. -/
  entries : Nat := 0
  /-- How many calls have had an answer. -/
  answers : Nat := 0

namespace Worker

/-- Whatever can happen to a machine whose table changes through entries and snapshots alone, until
its pools are shut down. -/
inductive Event where
  | apply (around : Surroundings) (index : LogIndex) (bytes : Bytes)
  /-- An entry is applied and has to wait before it is counted. -/
  | enter (around : Surroundings) (index : LogIndex) (bytes : Bytes)
  /-- One of the entries that have waited is counted. -/
  | count (number : Nat)
  | restore (around : Surroundings) (bytes : Bytes)
  | shutdownPools
  | happen (happening : Happening) (ordinary : happening.IsStep)
  /-- The node is asked to stop. -/
  | stop
  /-- Someone reads how many entries of a kind were applied. -/
  | readApplied (label : String)
  /-- Someone reads how many calls had an outcome. -/
  | readDispatched (label : String)

variable {w : Worker}

def table (w : Worker) : Table := w.ledger.table

def machine (w : Worker) : Machine := ⟨w.table, w.diverged, w.lastApplied⟩

def withTable (w : Worker) (table : Table) : Worker :=
  { w with ledger := { w.ledger with table } }

def withMachine (w : Worker) (m : Machine) : Worker :=
  { w.withTable m.table with diverged := m.diverged, lastApplied := m.lastApplied }

def withMetrics (w : Worker) (metrics : Metrics) : Worker := w.withTable { w.table with metrics }

/-- Lets something happen; what is not possible changes nothing. -/
def step (w : Worker) : Event → Worker
  | .apply around index bytes =>
    { w.withMachine (w.machine.apply around index bytes).2 with entries := w.entries + 1 }
  | .enter around index bytes =>
    let (result, m) := w.machine.enter around index bytes
    { w.withMachine m with entries := w.entries + 1, uncounted := w.uncounted ++ [result] }
  | .count number =>
    match w.uncounted[number]? with
    | none => w
    | some result =>
      { w.withMachine (w.machine.count result) with uncounted := w.uncounted.eraseIdx number }
  | .restore around bytes =>
    match w.machine.restore around bytes with
    | .ok m => w.withMachine m
    | .error _ => w
  | .shutdownPools => w.withTable w.table.shutdownPools
  | .happen happening _ =>
    { w with
      ledger := w.ledger.step happening
      answers := w.answers + if (w.ledger.admission? happening).any (·.isAnswer) then 1 else 0 }
  | .stop => w.withTable { w.table with stopping := true }
  | .readApplied label => w.withMetrics (w.table.metrics.appliedCount label).2
  | .readDispatched label => w.withMetrics (w.table.metrics.dispatchCount label).2

def run (w : Worker) (events : List Event) : Worker := events.foldl step w

/-- A machine that begins. -/
def started (settings : PoolSettings) (hostWait : Nat) : Worker where
  ledger := { table := (Machine.fresh settings hostWait).table }

/-- The metrics tell what the machine has, and what has been done. -/
structure Metered (w : Worker) : Prop where
  pools : w.table.metrics.pools = w.table.router.size
  aclRules : w.table.metrics.aclRules = w.table.acl.size
  entries : Metrics.total w.table.metrics.applied + Metrics.total w.table.metrics.failures +
    w.uncounted.length = w.entries
  answers : Metrics.total w.table.metrics.dispatched = w.answers

theorem metered_started (settings : PoolSettings) (hostWait : Nat) :
    (started settings hostWait).Metered := ⟨rfl, rfl, rfl, rfl⟩

theorem Metered.shows (metered : w.Metered) : w.table.Shows := ⟨metered.pools, metered.aclRules⟩

/-- Whatever leaves the counters alone and the gauges right keeps the metrics right. -/
theorem Metered.withTable (metered : w.Metered) {t : Table} (stays : w.table.Stays t) :
    (w.withTable t).Metered := by
  obtain ⟨pools, aclRules⟩ := stays.shows metered.shows
  refine ⟨pools, aclRules, ?_, ?_⟩
  · change Metrics.total t.metrics.applied + Metrics.total t.metrics.failures + _ = _
    rw [stays.applied, stays.failures]
    exact metered.entries
  · change Metrics.total t.metrics.dispatched = _
    rw [stays.dispatched]
    exact metered.answers

/-- An entry that is applied waits to be counted. -/
theorem Metered.enter (metered : w.Metered) (around : Surroundings) (index : LogIndex)
    (bytes : Bytes) : (w.step (.enter around index bytes)).Metered := by
  have kept := metered.withTable (w.machine.stays_enter around index bytes)
  refine ⟨kept.pools, kept.aclRules, ?_, kept.answers⟩
  have entries := kept.entries
  change _ + (w.uncounted ++ [_]).length = w.entries + 1
  rw [List.length_append, List.length_singleton, ← Nat.add_assoc]
  exact congrArg Nat.succ entries

/-- Counting an entry that was applied keeps the metrics right: it waits no more, and stands in one
series. -/
theorem Metered.count (metered : w.Metered) (number : Nat) : (w.step (.count number)).Metered := by
  rw [step]
  split
  · exact metered
  · next result found =>
      obtain ⟨pools, aclRules⟩ := Machine.shows_count (m := w.machine) metered.shows result
      refine ⟨pools, aclRules, ?_, ?_⟩
      · obtain ⟨there, -⟩ := List.getElem?_eq_some_iff.1 found
        have entries := metered.entries
        change Metrics.total (w.machine.count result).table.metrics.applied +
          Metrics.total (w.machine.count result).table.metrics.failures +
          (w.uncounted.eraseIdx number).length = w.entries
        rw [Machine.total_count, List.length_eraseIdx_of_lt there]
        change Metrics.total w.table.metrics.applied + Metrics.total w.table.metrics.failures + 1 +
          (w.uncounted.length - 1) = w.entries
        omega
      · change Metrics.total (w.machine.count result).table.metrics.dispatched = w.answers
        rw [(w.machine.countsEntry_count result).dispatched]
        exact metered.answers

/-- To apply an entry without a wait is to apply it and to count it at once. -/
theorem step_apply (w : Worker) (around : Surroundings) (index : LogIndex) (bytes : Bytes) :
    w.step (.apply around index bytes) =
      (w.step (.enter around index bytes)).step (.count w.uncounted.length) := by
  simp only [step]
  rw [List.getElem?_concat_length, Machine.apply_eq]
  simp only [List.eraseIdx_append_of_length_le, Nat.sub_self, List.eraseIdx_cons_zero,
    List.append_nil, Nat.le_refl]
  rfl

/-- Whatever happens to a machine keeps its metrics right. -/
theorem Metered.step (metered : w.Metered) (event : Event) : (w.step event).Metered := by
  cases event with
  | apply around index bytes =>
      rw [step_apply]
      exact (metered.enter around index bytes).count _
  | enter around index bytes => exact metered.enter around index bytes
  | count number => exact metered.count number
  | restore around bytes =>
      rw [Worker.step, Machine.restore]
      cases StateSnapshot.ofBytes bytes with
      | error error => exact metered
      | ok s =>
          have kept := metered.withTable (w.machine.stays_adopt around s)
          exact ⟨kept.pools, kept.aclRules, kept.entries, kept.answers⟩
  | shutdownPools =>
      exact metered.withTable (w.table.refits_shutdownPools.stays fun _ => rfl)
  | happen happening ordinary =>
      obtain ⟨sits, metrics⟩ := w.ledger.tells_step ordinary
      obtain ⟨same, counted⟩ := w.ledger.table.metrics.answered (w.ledger.admission? happening)
      rw [← metrics] at same counted
      obtain ⟨pools, aclRules⟩ := sits.shows (congrArg Metrics.pools same :)
        (congrArg Metrics.aclRules same :) metered.shows
      refine ⟨pools, aclRules, ?_, counted.trans (congrArg (· + _) metered.answers)⟩
      change Metrics.total (w.ledger.step happening).table.metrics.applied +
        Metrics.total (w.ledger.step happening).table.metrics.failures + _ = _
      rw [same]
      exact metered.entries
  | stop => exact metered.withTable ⟨rfl, rfl, rfl, fun shows => ⟨shows.pools, shows.aclRules⟩⟩
  | readApplied label =>
      refine ⟨metered.pools, metered.aclRules, ?_, metered.answers⟩
      change Metrics.total (Metrics.read w.table.metrics.applied label).2 + _ + _ = w.entries
      rw [Metrics.total_read]
      exact metered.entries
  | readDispatched label =>
      refine ⟨metered.pools, metered.aclRules, metered.entries, ?_⟩
      change Metrics.total (Metrics.read w.table.metrics.dispatched label).2 = w.answers
      rw [Metrics.total_read]
      exact metered.answers

/-- The metrics of a machine are right after every run. -/
theorem Metered.run (metered : w.Metered) (events : List Event) : (w.run events).Metered := by
  induction events generalizing w with
  | nil => exact metered
  | cons event events ih => exact ih (metered.step event)

/-- After every run the gauges show the pools and the blocked networks, the counters of entries add
up to the entries that were handed over and no longer wait, and the counter of decisions to the
calls that have had an answer. Whatever comes of an entry, it adds one to a single series when it is
counted. -/
theorem metrics_never_drift (settings : PoolSettings) (hostWait : Nat) (events : List Event) :
    let w := (started settings hostWait).run events
    w.Metered ∧
      (∀ around index bytes, w.table.metrics.CountsEntry
        (w.machine.apply around index bytes).2.table.metrics) ∧
      ∀ result, w.table.metrics.CountsEntry (w.machine.count result).table.metrics :=
  let w := (started settings hostWait).run events
  ⟨(metered_started settings hostWait).run events, w.machine.countsEntry_apply,
    w.machine.countsEntry_count⟩

end Worker

end ClusterGateway
