import ClusterGateway.Proofs.Replication.Delivery
import ClusterGateway.Proofs.Replication.Restoring

/-! # Positions after a recovery

A recovery takes over the index of the snapshot that it finds on disk, and the entries committed
after it are numbered on from there. Machines learn their position from entries alone: a snapshot
says nothing of it. So right after a recovery each machine still reports the last entry that it was
given itself, or none at all, and only the next commit brings all of them in line with the log.
-/

namespace ClusterGateway

/-- Positions one after another, as numbers, as long as these fit into 64 bits. -/
theorem LogIndex.map_toNat_onwards {i : LogIndex} {n : Nat} (fits : i.val.toNat + n < 2 ^ 64) :
    ((List.range' 1 n).map i.onwards).map (·.val.toNat) = List.range' (i.val.toNat + 1) n := by
  apply List.ext_getElem (by simp)
  intro k within _
  rw [List.length_map, List.length_map, List.length_range'] at within
  simp only [List.getElem_map, List.getElem_range', Nat.one_mul]
  rw [toNat_onwards (by omega)]
  omega

namespace Machine

/-- A machine reports the last entry that it was given, whatever came of it. -/
theorem lastApplied_apply (m : Machine) (around : Surroundings) (index : LogIndex)
    (bytes : Bytes) : (m.apply around index bytes).2.lastApplied = index := by
  rw [apply]
  dsimp only
  split
  · rfl
  · split
    · rfl
    · split <;> rfl

/-- Taking over a snapshot leaves the position that a machine reports as it is. -/
theorem lastApplied_undergo_restore (m : Machine) (around : Surroundings) (bytes : Bytes) :
    (m.undergo (.restore around bytes)).lastApplied = m.lastApplied := by
  simp only [undergo, restore]
  cases StateSnapshot.ofBytes bytes <;> rfl

end Machine

/-- A recovery goes on from the snapshot that it has read. -/
def ClusterEvent.Resumes : ClusterEvent → Prop
  | resume _ => True
  | _ => False

namespace Cluster

/-- The index of the commit that ends with an event. -/
def ending? (c : Cluster) : ClusterEvent → Option LogIndex
  | .conclude _ =>
    match c.underway with
    | some u => if c.consensus.machines.length ≤ u.reached then some u.index else none
    | none => none
  | _ => none

/-- The indices of the commits that end in the course of a run. -/
def ended (c : Cluster) : List ClusterEvent → List LogIndex
  | [] => []
  | event :: events => (c.ending? event).toList ++ (c.step event).ended events

/-- How many machines the commit under way has reached. -/
def reached (c : Cluster) : Nat :=
  match c.underway with
  | some u => u.reached
  | none => 0

/-- The position that a machine reports after `n` commits, the first of which has the index after
`first`. Before the first one it is the position `before`. -/
def report (c : Cluster) (first : LogIndex) (n k : Nat) (before : LogIndex) : LogIndex :=
  if k < c.reached then first.onwards (n + 1)
  else if n = 0 then before
  else first.onwards n

/-- What the machines report depends only on how far the commit under way has come. -/
theorem report_congr {c after : Cluster} (same : after.reached = c.reached) :
    after.report = c.report := by
  funext first n k before
  rw [report, report, same]

/-- With no commit under way, every machine reports the last of the commits, or its old position if
there was none. -/
theorem report_idle {c : Cluster} (idle : c.underway = none) (first : LogIndex) (n k : Nat)
    (before : LogIndex) :
    c.report first n k before = if n = 0 then before else first.onwards n := by
  rw [report, reached, idle]
  exact if_neg (Nat.not_lt_zero k)

/-- So many commits have ended since the log was at `first` and the machines reported `reports`. -/
structure Numbered (first : LogIndex) (reports : List LogIndex) (n : Nat) (c : Cluster) :
    Prop where
  last : c.consensus.lastIndex = first.onwards n
  underway : ∀ u, c.underway = some u → u.index = first.onwards (n + 1)
  reported : ∀ k, (c.consensus.machine? k).map (·.lastApplied) =
    (reports[k]?).map (c.report first n k)

variable {c : Cluster} {first : LogIndex} {reports : List LogIndex} {n : Nat}

/-- At the outset no commit has ended, and every machine reports what it reports. -/
theorem numbered_idle (consensus : Consensus) (loaded : List PersistedSnapshot) :
    Numbered consensus.lastIndex (consensus.machines.map (·.lastApplied)) 0
      ⟨consensus, none, loaded⟩ where
  last := rfl
  underway u begun := absurd begun (by simp)
  reported k := by
    rw [List.getElem?_map, Option.map_map]
    exact congrArg (Option.map · _) (funext fun m => (report_idle rfl _ 0 k _).symm)

/-- Positions stay as they are whatever else changes. -/
theorem Numbered.frame (held : c.Numbered first reports n) {after : Cluster}
    (lastIndex : after.consensus.lastIndex = c.consensus.lastIndex)
    (underway : after.underway = c.underway)
    (same : ∀ k, (after.consensus.machine? k).map (·.lastApplied) =
      (c.consensus.machine? k).map (·.lastApplied)) : after.Numbered first reports n where
  last := lastIndex.trans held.last
  underway u begun := held.underway u (underway ▸ begun)
  reported k := by
    have reached : after.reached = c.reached := by rw [Cluster.reached, Cluster.reached, underway]
    rw [same, held.reported, report_congr reached]

/-- A commit that begins has reached no machine, so the reports stay as they are. -/
theorem Numbered.begin (held : c.Numbered first reports n) :
    (c.step .begin).Numbered first reports n := by
  simp only [step]
  split
  · next number bytes pending idle waiting =>
    exact {
      last := held.last
      underway := fun u begun => by
        cases begun
        exact congrArg LogIndex.next held.last
      reported := fun k => (held.reported k).trans <|
        congrArg (Option.map · _) (funext fun before =>
          (report_idle idle first n k before).trans (if_neg (Nat.not_lt_zero k)).symm) }
  · exact held

/-- The next machine that the commit under way reaches reports its index, and the others report what
they did. -/
theorem Numbered.deliver (held : c.Numbered first reports n) (around : Surroundings) :
    (c.step (.deliver around)).Numbered first reports n := by
  cases begun : c.underway with
  | none =>
      simp only [step, begun]
      exact held
  | some u =>
      cases found : c.consensus.machine? u.reached with
      | none =>
          simp only [step, begun, found]
          exact held
      | some receiver =>
          simp only [step, begun, found]
          refine ⟨(Consensus.lastIndex_putMachine ..).trans held.last, fun v same => ?_,
            fun k => ?_⟩
          · cases same
            exact held.underway u begun
          · have here := held.reported k
            rw [Consensus.machine?_putMachine]
            by_cases next : u.reached = k
            · subst next
              rw [found] at here
              obtain ⟨before, known, -⟩ := Option.map_eq_some_iff.1 here.symm
              rw [if_pos rfl, found, known, Option.map_some, Option.map_some, Option.map_some,
                Machine.lastApplied_apply, held.underway u begun, report]
              exact congrArg some (if_pos (Nat.lt_succ_self _)).symm
            · have side : k < u.reached + 1 ↔ k < u.reached := by omega
              rw [if_neg next, here]
              refine congrArg (Option.map · _) (funext fun before => ?_)
              simp only [report, reached, begun, side]

/-- A commit ends when all machines have reported its index, and this index is the next one. -/
theorem Numbered.conclude (held : c.Numbered first reports n) (ctx : StepContext) :
    c.ending? (.conclude ctx) = none ∧ (c.step (.conclude ctx)).Numbered first reports n ∨
      c.ending? (.conclude ctx) = some (first.onwards (n + 1)) ∧
        (c.step (.conclude ctx)).Numbered first reports (n + 1) := by
  cases begun : c.underway with
  | none =>
      refine Or.inl ⟨by simp only [ending?, begun], ?_⟩
      simp only [step, begun]
      exact held
  | some u =>
      by_cases all : c.consensus.machines.length ≤ u.reached
      · obtain ⟨storage, index, snapshot, due⟩ :=
          Consensus.takeDueSnapshot_spec { c.consensus with lastIndex := u.index } ctx
        refine Or.inr ⟨by simp only [ending?, begun, if_pos all, held.underway u begun], ?_⟩
        simp only [step, begun, if_pos all, due]
        refine ⟨held.underway u begun, (fun v later => absurd later (by simp)), fun k => ?_⟩
        have here := held.reported k
        change (c.consensus.machine? k).map _ = _
        rw [here]
        -- Those that are no machines at all report nothing in either case.
        cases known : reports[k]? with
        | none => rfl
        | some before =>
            rw [known] at here
            obtain ⟨m, found, -⟩ := Option.map_eq_some_iff.1 here
            have within := (List.getElem?_eq_some_iff.1 found).1
            have now : c.report first n k before = first.onwards (n + 1) := by
              rw [report, reached, begun]
              exact if_pos (Nat.lt_of_lt_of_le within all)
            rw [Option.map_some, Option.map_some, now]
            exact congrArg some
              ((report_idle rfl first (n + 1) k before).trans (if_neg (Nat.succ_ne_zero n))).symm
      · refine Or.inl ⟨by simp only [ending?, begun, if_neg all], ?_⟩
        simp only [step, begun, if_neg all]
        exact held

/-- Installing a snapshot moves neither the log nor the positions of the machines. -/
theorem Numbered.install (held : c.Numbered first reports n) (ctx : StepContext) (bytes : Bytes) :
    (c.step (.install ctx bytes)).Numbered first reports n := by
  cases idle : c.underway with
  | some u =>
      simp only [step, attempt, idle]
      exact held
  | none =>
      obtain ⟨aside, machines⟩ := step_install idle ctx bytes
      refine held.frame aside.lastIndex aside.underway fun k => ?_
      rw [Consensus.machine?, machines, List.getElem?_mapIdx, Option.map_map]
      exact congrArg (Option.map · _)
        (funext fun m => m.lastApplied_undergo_restore (ctx.around k) bytes)

/-- Requests and checks move neither the log nor the positions of the machines. -/
theorem Numbered.traffic (held : c.Numbered first reports n) (machine : Nat) (event : Traffic) :
    (c.step (.traffic machine event)).Numbered first reports n := by
  obtain ⟨aside, machines⟩ := c.step_traffic machine event
  refine held.frame aside.lastIndex aside.underway fun k => ?_
  rw [Consensus.machine?, machines, List.getElem?_modify, Option.map_eq_map, Option.map_map]
  refine congrArg (Option.map · _) (funext fun m => ?_)
  rw [Function.comp_apply]
  split <;> rfl

/-- An event ends the next commit or none, unless it is a recovery. -/
theorem Numbered.step (held : c.Numbered first reports n) {event : ClusterEvent}
    (other : ¬ event.Resumes) :
    c.ending? event = none ∧ (c.step event).Numbered first reports n ∨
      c.ending? event = some (first.onwards (n + 1)) ∧
        (c.step event).Numbered first reports (n + 1) := by
  cases event with
  | submit bytes => exact Or.inl ⟨rfl, held.frame rfl rfl fun _ => rfl⟩
  | begin => exact Or.inl ⟨rfl, held.begin⟩
  | deliver around => exact Or.inl ⟨rfl, held.deliver around⟩
  | conclude ctx => exact held.conclude ctx
  | takeSnapshot ctx =>
      obtain ⟨aside, machines⟩ := c.step_takeSnapshot ctx
      refine Or.inl ⟨rfl, held.frame aside.lastIndex aside.underway fun k => ?_⟩
      rw [Consensus.machine?, machines]
      rfl
  | install ctx bytes => exact Or.inl ⟨rfl, held.install ctx bytes⟩
  | load =>
      refine Or.inl ⟨rfl, ?_⟩
      simp only [Cluster.step]
      split
      · exact held.frame rfl rfl fun _ => rfl
      · exact held
  | resume ctx => exact absurd trivial other
  | traffic machine event => exact Or.inl ⟨rfl, held.traffic machine event⟩

/-- Without a recovery the commits of a run have indices one after another. -/
theorem Numbered.run (held : c.Numbered first reports n) {events : List ClusterEvent}
    (others : ∀ event ∈ events, ¬ event.Resumes) :
    c.ended events = (List.range' (n + 1) (c.ended events).length).map first.onwards ∧
      (c.run events).Numbered first reports (n + (c.ended events).length) := by
  induction events generalizing c n with
  | nil => exact ⟨rfl, held⟩
  | cons event events ih =>
      have rest : ∀ later ∈ events, ¬ later.Resumes :=
        fun later member => others later (List.mem_cons_of_mem event member)
      rw [ended, Cluster.run, List.foldl_cons, ← Cluster.run]
      obtain ⟨quiet, kept⟩ | ⟨ending, kept⟩ := held.step (others event List.mem_cons_self)
      · rw [quiet, Option.toList_none, List.nil_append]
        exact ih kept rest
      · obtain ⟨numbers, after⟩ := ih kept rest
        rw [ending, Option.toList_some, List.singleton_append, List.length_cons,
          List.range'_succ, List.map_cons, ← numbers]
        refine ⟨rfl, ?_⟩
        rw [Nat.add_comm _ 1, ← Nat.add_assoc]
        exact after

end Cluster

namespace Consensus

/-- A recovery that finds a snapshot takes over its index, and no machine reports another position
than before. -/
theorem recover_spec {c after : Consensus} {ctx : StepContext} {index : LogIndex}
    (recovered : c.recover ctx = .ok (some index, after)) :
    ∃ stored, c.storage.load = .ok (some stored) ∧ stored.index = index ∧
      after.lastIndex = index ∧ after.lastSnapshotIndex = index ∧
      after.machines.map (·.lastApplied) = c.machines.map (·.lastApplied) := by
  obtain ⟨stored, s, found, -, same⟩ | ⟨-, same⟩ | ⟨error, same, -⟩ := c.recover_cases ctx
  · rw [same] at recovered
    obtain ⟨index, rfl⟩ := Prod.mk.inj (Except.ok.inj recovered)
    refine ⟨stored, found, Option.some.inj index, Option.some.inj index, Option.some.inj index, ?_⟩
    change (c.adopt ctx s).machines.map _ = _
    rw [machines_adopt]
    refine List.ext_getElem? fun k => ?_
    rw [List.getElem?_map, List.getElem?_mapIdx, List.getElem?_map, Option.map_map]
    rfl
  · rw [same] at recovered
    exact absurd (Prod.mk.inj (Except.ok.inj recovered)).1 (by simp)
  · rw [same] at recovered
    exact absurd recovered (by simp)

end Consensus

namespace Cluster

/-- From a recovery on, until the next one, the log goes on from the index of the stored snapshot,
and entries are numbered one after another as long as 64 bits suffice. Whenever no commit is under
way all machines report the last index, once there was a commit; up to then each reports what it did
before the recovery. -/
theorem goes_on_from_recovery {c after : Consensus} {ctx : StepContext} {index : LogIndex}
    (recovered : c.recover ctx = .ok (some index, after)) (loaded : List PersistedSnapshot)
    {events : List ClusterEvent} (others : ∀ event ∈ events, ¬ event.Resumes) :
    let start : Cluster := ⟨after, none, loaded⟩
    let indices := start.ended events
    let later := start.run events
    (∃ stored, c.storage.load = .ok (some stored) ∧ stored.index = index) ∧
      after.lastIndex = index ∧
      after.machines.map (·.lastApplied) = c.machines.map (·.lastApplied) ∧
      later.consensus.lastIndex = index.onwards indices.length ∧
      (index.val.toNat + indices.length < 2 ^ 64 →
        indices.map (·.val.toNat) = List.range' (index.val.toNat + 1) indices.length ∧
          later.consensus.lastIndex.val.toNat = index.val.toNat + indices.length) ∧
      (later.underway = none → indices = [] →
        later.consensus.machines.map (·.lastApplied) = c.machines.map (·.lastApplied)) ∧
      (later.underway = none → indices ≠ [] →
        ∀ m ∈ later.consensus.machines, m.lastApplied = later.consensus.lastIndex) := by
  intro start indices later
  obtain ⟨stored, found, same, last, -, reports⟩ := Consensus.recover_spec recovered
  obtain ⟨numbers, held⟩ := (numbered_idle after loaded).run others
  rw [Nat.zero_add, last, reports] at held
  rw [Nat.zero_add, last] at numbers
  -- With no commit under way one rule tells what every machine reports.
  have told (idle : later.underway = none) (k : Nat) :
      (later.consensus.machine? k).map (·.lastApplied) =
        ((c.machines.map (·.lastApplied))[k]?).map fun before =>
          if indices.length = 0 then before else index.onwards indices.length :=
    (held.reported k).trans (congrArg (Option.map · _) (funext fun before =>
      report_idle idle index indices.length k before))
  refine ⟨⟨stored, found, same⟩, last, reports, held.last, fun fits => ⟨?_, ?_⟩,
    fun idle bare => ?_, fun idle more m member => ?_⟩
  · exact (congrArg (List.map (·.val.toNat)) numbers).trans (LogIndex.map_toNat_onwards fits)
  · exact (congrArg (·.val.toNat) held.last).trans (LogIndex.toNat_onwards fits)
  · refine List.ext_getElem? fun k => ?_
    rw [List.getElem?_map]
    refine (told idle k).trans ?_
    rw [bare]
    exact Option.map_id_apply
  · obtain ⟨k, located⟩ := List.mem_iff_getElem?.1 member
    have here := told idle k
    rw [Consensus.machine?, located, Option.map_some] at here
    obtain ⟨before, -, now⟩ := Option.map_eq_some_iff.1 here.symm
    rw [if_neg fun none => more (List.eq_nil_of_length_eq_zero none)] at now
    exact now.symm.trans held.last.symm

/-- A group of two machines that have done nothing, with a snapshot on disk that was taken at an
index. -/
def restarted (index : LogIndex) : Consensus where
  followers := [{}]
  storage := .folder "data"
    (.file (PersistedSnapshot.mk index .epoch {} (StateSnapshot.document {})).toBytes)

/-- An entry reaches both machines, while the snapshot of another node is restored. -/
def nextCommit : List ClusterEvent :=
  [.install {} (StateSnapshot.toBytes {}), .submit (LogEntry.aclMutate .insert "10.0.0.0/8").encode,
   .begin, .deliver {}, .traffic 0 (.expire 0), .deliver {}, .conclude {}]

/-- The entry after a recovery at the seventh has the eighth index, which both machines report. -/
theorem goes_on_from_recovery_at_seven :
    ∃ after, (restarted ⟨7⟩).recover {} = .ok (some ⟨7⟩, after) ∧
      (∀ event ∈ nextCommit, ¬ event.Resumes) ∧
      ((⟨after, none, []⟩ : Cluster).ended nextCommit).map (·.val.toNat) = [8] ∧
      ∀ m ∈ ((⟨after, none, []⟩ : Cluster).run nextCommit).consensus.machines,
        m.lastApplied = ⟨8⟩ := by
  have done : ((restarted ⟨7⟩).recover {}).toOption.map (fun r =>
      (r.1, (⟨r.2, none, []⟩ : Cluster).ended nextCommit,
        ((⟨r.2, none, []⟩ : Cluster).run nextCommit).underway.isNone)) =
      some (some ⟨7⟩, [⟨8⟩], true) := by decide +kernel
  have others : ∀ event ∈ nextCommit, ¬ event.Resumes := by
    simp [nextCommit, ClusterEvent.Resumes]
  cases recovered : (restarted ⟨7⟩).recover {} with
  | error error =>
      rw [recovered] at done
      exact absurd done (by simp [Except.toOption])
  | ok result =>
      obtain ⟨found, after⟩ := result
      rw [recovered] at done
      obtain ⟨rfl, rest⟩ := Prod.mk.inj (Option.some.inj done)
      obtain ⟨indices, idle⟩ := Prod.mk.inj rest
      dsimp only at indices idle
      obtain ⟨-, -, -, last, numbers, -, reported⟩ := goes_on_from_recovery recovered [] others
      rw [indices] at last numbers reported
      refine ⟨after, rfl, others, ?_, fun m member => ?_⟩
      · rw [indices]
        exact (numbers (by decide)).1
      · rw [reported (Option.isNone_iff_eq_none.1 idle) (by simp) m member, last]
        rfl

/-- Right after a recovery the machines do not report the index of the snapshot; and after a
recovery at the greatest index the next entry gets the one that stands before the first entry. -/
theorem recovered_machines_lag :
    (∃ after, (restarted ⟨7⟩).recover {} = .ok (some ⟨7⟩, after) ∧ after.lastIndex = ⟨7⟩ ∧
        after.machines.map (·.lastApplied) = [.zero, .zero]) ∧
      ∃ after, (restarted .greatest).recover {} = .ok (some .greatest, after) ∧
        (⟨after, none, []⟩ : Cluster).ended nextCommit = [.zero] := by
  have first : ((restarted ⟨7⟩).recover {}).toOption.map (fun r =>
      (r.1, r.2.lastIndex, r.2.machines.map (·.lastApplied))) =
      some (some ⟨7⟩, ⟨7⟩, [.zero, .zero]) := by decide +kernel
  have second : ((restarted .greatest).recover {}).toOption.map (fun r =>
      (r.1, (⟨r.2, none, []⟩ : Cluster).ended nextCommit)) =
      some (some .greatest, [.zero]) := by decide +kernel
  constructor
  · cases recovered : (restarted ⟨7⟩).recover {} with
    | error error =>
        rw [recovered] at first
        exact absurd first (by simp [Except.toOption])
    | ok result =>
        obtain ⟨found, after⟩ := result
        rw [recovered] at first
        obtain ⟨rfl, rest⟩ := Prod.mk.inj (Option.some.inj first)
        obtain ⟨last, reports⟩ := Prod.mk.inj rest
        exact ⟨after, rfl, last, reports⟩
  · cases recovered : (restarted .greatest).recover {} with
    | error error =>
        rw [recovered] at second
        exact absurd second (by simp [Except.toOption])
    | ok result =>
        obtain ⟨found, after⟩ := result
        rw [recovered] at second
        obtain ⟨rfl, indices⟩ := Prod.mk.inj (Option.some.inj second)
        exact ⟨after, rfl, indices⟩

end Cluster

end ClusterGateway
