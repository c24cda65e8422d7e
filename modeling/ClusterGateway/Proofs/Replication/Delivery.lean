import ClusterGateway.Proofs.Replication.Agreement
import ClusterGateway.Proofs.Replication.CatchUp

/-! # Every proposal is delivered once

Many may propose at one time. For each proposal a task asks for the log, gets it when its turn
comes, hands the entry to one machine after another and lets go of the log; the proposer may have
stopped waiting long before. Whatever the order in which all this happens, once every task has come
to its end all machines have gone through one sequence of entries, with every proposal in it once,
and who was told of a commit finds the entry at the index that was told.
-/

namespace ClusterGateway

/-- The position so many entries after another one. -/
def LogIndex.onwards (i : LogIndex) : Nat → LogIndex
  | 0 => i
  | n + 1 => (i.onwards n).next

/-- As long as the positions fit into 64 bits, going on by so many entries adds their number. -/
theorem LogIndex.toNat_onwards {i : LogIndex} {n : Nat} (fits : i.val.toNat + n < 2 ^ 64) :
    (i.onwards n).val.toNat = i.val.toNat + n := by
  induction n with
  | zero => rfl
  | succ n ih =>
      rw [onwards, val_next, UInt64.toNat_add, ih (by omega)]
      exact Nat.mod_eq_of_lt (by simpa [Nat.add_assoc] using fits)

theorem getElem?_append_of_eq_some {α : Type} {l : List α} {k : Nat} {a : α}
    (found : l[k]? = some a) (more : List α) : (l ++ more)[k]? = some a :=
  (List.getElem?_append_left (List.getElem?_eq_some_iff.1 found).1).trans found

/-- What stands in a list with one more entry stood there before or is the new entry in the last
place. -/
theorem getElem?_concat_eq_some {α : Type} {l : List α} {k : Nat} {a last : α}
    (found : (l ++ [last])[k]? = some a) : l[k]? = some a ∨ k = l.length ∧ a = last := by
  rw [List.getElem?_append] at found
  split at found
  · exact Or.inl found
  · next late =>
    obtain ⟨within, rfl⟩ := List.getElem?_eq_some_iff.1 found
    rw [List.length_singleton] at within
    exact Or.inr ⟨by omega, List.getElem_singleton _⟩

namespace Machine

theorem run_append (m : Machine) (first second : List Event) :
    m.run (first ++ second) = (m.run first).run second := List.foldl_append ..

/-- The entry that an event brings to a machine. -/
def Event.delivery? : Event → Option (LogIndex × Bytes)
  | apply _ index bytes => some (index, bytes)
  | _ => none

/-- The entries that a machine was given in the course of a history. -/
def deliveries (history : List Event) : List (LogIndex × Bytes) := history.filterMap Event.delivery?

/-- In the course of a history a machine applied an entry with this outcome. -/
def Answered (m : Machine) (history : List Event) (index : LogIndex) (bytes : Bytes)
    (outcome : Except ApplyError Unit) : Prop :=
  ∃ before around after, history = before ++ .apply around index bytes :: after ∧
    outcome = ((m.run before).apply around index bytes).1

variable {m : Machine} {history : List Event} {index : LogIndex} {bytes : Bytes}
  {outcome : Except ApplyError Unit}

/-- An answer that a machine gave in the course of a history is an answer in every longer
history. -/
theorem Answered.append (answered : m.Answered history index bytes outcome) (more : List Event) :
    m.Answered (history ++ more) index bytes outcome := by
  obtain ⟨before, around, after, rfl, same⟩ := answered
  exact ⟨before, around, after ++ more, by simp, same⟩

/-- The last entry of a history has the outcome that the machine gives after all the rest. -/
theorem answered_last (m : Machine) (history : List Event) (around : Surroundings)
    (index : LogIndex) (bytes : Bytes) :
    m.Answered (history ++ [.apply around index bytes]) index bytes
      ((m.run history).apply around index bytes).1 :=
  ⟨history, around, [], rfl, rfl⟩

end Machine

/-! ### What changes no proposal -/

namespace Consensus

theorem pending_putMachine (c : Consensus) (n : Nat) (m : Machine) :
    (c.putMachine n m).pending = c.pending := by
  cases n <;> rfl

theorem lastIndex_putMachine (c : Consensus) (n : Nat) (m : Machine) :
    (c.putMachine n m).lastIndex = c.lastIndex := by
  cases n <;> rfl

end Consensus

namespace Cluster

/-- A change leaves the proposals, the last index and the commit under way as they are. -/
structure Aside (c after : Cluster) : Prop where
  pending : after.consensus.pending = c.consensus.pending
  lastIndex : after.consensus.lastIndex = c.consensus.lastIndex
  underway : after.underway = c.underway

/-- Taking a snapshot leaves the machines alone, and all that matters for the order of entries. -/
theorem step_takeSnapshot (c : Cluster) (ctx : StepContext) :
    c.Aside (c.step (.takeSnapshot ctx)) ∧
      (c.step (.takeSnapshot ctx)).consensus.machines = c.consensus.machines := by
  simp only [step, attempt]
  split
  · next after idle taken =>
    cases done : c.consensus.takeSnapshot ctx with
    | error error =>
        rw [done] at taken
        cases taken
    | ok result =>
        obtain ⟨index, consensus⟩ := result
        rw [done] at taken
        cases taken
        obtain ⟨-, storage, rfl⟩ := Consensus.takeSnapshot_spec done
        exact ⟨⟨rfl, rfl, rfl⟩, rfl⟩
  · exact ⟨⟨rfl, rfl, rfl⟩, rfl⟩

/-- A snapshot reaches all machines or, if it cannot be read, none. -/
theorem step_install {c : Cluster} (idle : c.underway = none) (ctx : StepContext) (bytes : Bytes) :
    c.Aside (c.step (.install ctx bytes)) ∧
      (c.step (.install ctx bytes)).consensus.machines =
        c.consensus.machines.mapIdx fun n m => m.undergo (.restore (ctx.around n) bytes) := by
  cases read : StateSnapshot.ofBytes bytes with
  | error error =>
      have failed : c.consensus.installSnapshot ctx bytes = .error error := by
        rw [Consensus.installSnapshot, Machine.restore_of_error read]
        rfl
      simp only [step, attempt, idle, failed, Machine.undergo, Machine.restore_of_error read]
      refine ⟨⟨rfl, rfl, rfl⟩, ?_⟩
      exact (List.mapIdx_eq_iff.2 fun n => by simp [Except.toOption]).symm
  | ok s =>
      have done : c.consensus.installSnapshot ctx bytes =
          .ok { c.consensus with
            primary := c.consensus.primary.adopt (ctx.around 0) s
            followers := c.consensus.followers.mapIdx fun n m =>
              m.adopt (ctx.around (n + 1)) s } := by
        rw [Consensus.installSnapshot, Consensus.restoreAll_of_read read, Machine.restore, read]
        simp only [Nat.add_comm 1]
        rfl
      simp only [step, attempt, done, idle, Machine.undergo, Machine.restore, read]
      refine ⟨⟨rfl, rfl, idle.symm⟩, ?_⟩
      rw [Consensus.machines, Consensus.machines, List.mapIdx_cons]
      rfl

/-- What a machine does for requests matters for no other machine, nor for the order of entries. -/
theorem step_traffic (c : Cluster) (n : Nat) (event : Traffic) :
    c.Aside (c.step (.traffic n event)) ∧
      (c.step (.traffic n event)).consensus.machines =
        c.consensus.machines.modify n (·.undergo (.traffic event)) := by
  rw [List.modify_eq_set_getElem?]
  simp only [step]
  split
  · next m found =>
    refine ⟨⟨Consensus.pending_putMachine .., Consensus.lastIndex_putMachine .., rfl⟩, ?_⟩
    rw [Consensus.machine?] at found
    rw [Consensus.machines_putMachine, found]
    rfl
  · next absent =>
    refine ⟨⟨rfl, rfl, rfl⟩, ?_⟩
    rw [Consensus.machine?] at absent
    rw [absent]
    rfl

end Cluster

/-- An entry that someone proposes. -/
structure Proposal where
  bytes : Bytes
  /-- For how many milliseconds the proposer waits. -/
  time : Nat
  /-- What the proposer was told. -/
  answer : Option (Except ConsensusError Commit) := none

/-- Tells a proposer something, unless the proposer does not wait any more. -/
def Proposal.tell (p : Proposal) (answer : Except ConsensusError Commit) : Proposal :=
  if p.answer.isSome then p else { p with answer := some answer }

/-- Consensus with all that was proposed to it. -/
structure Exchange where
  cluster : Cluster
  proposals : List Proposal := []
  /-- The numbers and entries of the proposals whose tasks have asked for the log, in the order in
  which they did. -/
  line : List (Nat × Bytes) := []
  /-- The commits that have ended. -/
  commits : List Commit := []
  /-- What came of the last entry that the primary was given. -/
  outcome : Option (Except ApplyError Unit) := none
  /-- What has happened to each machine. -/
  histories : Nat → List Machine.Event := fun _ => []

/-- What can happen. Proposals and machines are referred to by their numbers. -/
inductive ExchangeEvent where
  /-- Someone proposes an entry. -/
  | propose (bytes : Bytes) (time : Nat)
  /-- The task for a proposal asks for the log. -/
  | enter (number : Nat)
  /-- The first task in line gets the log. -/
  | begin
  /-- The next machine applies the entry. -/
  | deliver (around : Surroundings)
  /-- The task lets go of the log, since all machines have applied the entry. -/
  | conclude (ctx : StepContext)
  /-- A proposer is told what came of the commit. -/
  | hear (number : Nat)
  /-- A proposer has waited long enough. -/
  | giveUp (number : Nat)
  /-- A snapshot is taken. -/
  | takeSnapshot (ctx : StepContext)
  /-- A snapshot is restored to all machines. -/
  | install (ctx : StepContext) (bytes : Bytes)
  /-- A request or a check takes a step at a machine. -/
  | traffic (machine : Nat) (event : Traffic)

/-- The entry that an event proposes. -/
def ExchangeEvent.proposed? : ExchangeEvent → Option Bytes
  | propose bytes _ => some bytes
  | _ => none

namespace Exchange

/-- Consensus to which nothing was proposed yet. -/
def start (c : Consensus) : Exchange where
  cluster := { consensus := c }

/-- Tells a proposer something. -/
def tell (x : Exchange) (number : Nat) (answer : Proposal → Except ConsensusError Commit) :
    Exchange :=
  { x with proposals := x.proposals.modify number fun p => p.tell (answer p) }

/-- The commit of a proposal, if it has ended. -/
def commitOf? (x : Exchange) (number : Nat) : Option Commit := do
  let place ← x.line.findIdx? (·.1 = number)
  x.commits[place]?

/-- Notes that something happened to a machine. -/
def note (histories : Nat → List Machine.Event) (n : Nat) (event : Machine.Event) :
    Nat → List Machine.Event :=
  fun k => if k = n then histories k ++ [event] else histories k

/-- The commit that is about to end. -/
def ending? (x : Exchange) : Option Commit :=
  match x.cluster.underway, x.outcome with
  | some u, some outcome =>
    if x.cluster.consensus.machines.length ≤ u.reached then some ⟨u.index, outcome⟩ else none
  | _, _ => none

/-- Lets something happen; what is not possible changes nothing. -/
def step (x : Exchange) : ExchangeEvent → Exchange
  | .propose bytes time => { x with proposals := x.proposals ++ [{ bytes, time }] }
  | .enter number =>
    match x.proposals[number]? with
    | some p =>
      if number ∈ x.line.map (·.1) then x
      else
        { x with
          cluster := x.cluster.step (.submit p.bytes)
          line := x.line ++ [(number, p.bytes)] }
    | none => x
  | .begin => { x with cluster := x.cluster.step .begin }
  | .deliver around =>
    match x.cluster.underway with
    | some u =>
      match x.cluster.consensus.machine? u.reached with
      | some m =>
        { x with
          cluster := x.cluster.step (.deliver around)
          outcome :=
            if u.reached = 0 then some (m.apply around u.index u.bytes).1 else x.outcome
          histories := note x.histories u.reached (.apply around u.index u.bytes) }
      | none => x
    | none => x
  | .conclude ctx =>
    { x with
      cluster := x.cluster.step (.conclude ctx)
      commits := x.commits ++ x.ending?.toList }
  | .hear number =>
    match x.commitOf? number with
    | some done => x.tell number fun _ => .ok done
    | none => x
  | .giveUp number => x.tell number fun p => .error (.timeout p.time)
  | .takeSnapshot ctx => { x with cluster := x.cluster.step (.takeSnapshot ctx) }
  | .install ctx bytes =>
    match x.cluster.underway with
    | some _ => x
    | none =>
      { x with
        cluster := x.cluster.step (.install ctx bytes)
        histories := fun n => x.histories n ++ [.restore (ctx.around n) bytes] }
  | .traffic machine event =>
    { x with
      cluster := x.cluster.step (.traffic machine event)
      histories := note x.histories machine (.traffic event) }

/-- Lets things happen one after another. -/
def run (x : Exchange) (events : List ExchangeEvent) : Exchange := events.foldl step x

theorem run_append (x : Exchange) (first second : List ExchangeEvent) :
    x.run (first ++ second) = (x.run first).run second := List.foldl_append ..

/-- How many tasks have had the log. -/
def begun (x : Exchange) : Nat :=
  x.commits.length + if x.cluster.underway.isSome then 1 else 0

/-! ### The line -/

/-- The tasks get the log in the order in which they have asked for it. The first commit has the
index after `first`. -/
structure Ordered (first : LogIndex) (x : Exchange) : Prop where
  known : ∀ e ∈ x.line, ∃ p, x.proposals[e.1]? = some p ∧ p.bytes = e.2
  once : (x.line.map (·.1)).Nodup
  waiting : x.cluster.consensus.pending.map (·.2) = (x.line.drop x.begun).map (·.2)
  last : x.cluster.consensus.lastIndex = first.onwards x.commits.length
  underway : ∀ u, x.cluster.underway = some u →
    u.index = first.onwards (x.commits.length + 1) ∧
      ∃ number, x.line[x.commits.length]? = some (number, u.bytes)
  heard : ∀ u, x.cluster.underway = some u → 0 < u.reached → x.outcome.isSome = true
  committed : ∀ (k : Nat) (done : Commit), x.commits[k]? = some done →
    done.index = first.onwards (k + 1)
  within : x.commits.length ≤ x.line.length
  answered : ∀ (number : Nat) (p : Proposal) (done : Commit), x.proposals[number]? = some p →
    p.answer = some (.ok done) → ∃ k : Nat, x.commits[k]? = some done ∧
      x.line[k]? = some (number, p.bytes)

variable {x : Exchange} {first : LogIndex}

/-- With nothing in line, consensus starts in order. -/
theorem ordered_start {c : Consensus} (alone : c.pending = []) :
    (start c).Ordered c.lastIndex where
  known e member := absurd member List.not_mem_nil
  once := List.nodup_nil
  waiting := by
    change c.pending.map _ = _
    rw [alone]
    rfl
  last := rfl
  underway u begun := nomatch begun
  heard u begun := nomatch begun
  committed k done found := nomatch found
  within := Nat.le_refl 0
  answered number p done found := nomatch found

/-- The line stays as it is whatever else changes in the cluster. -/
theorem Ordered.aside (held : x.Ordered first) {c : Cluster} (aside : x.cluster.Aside c)
    (histories : Nat → List Machine.Event) :
    ({ x with cluster := c, histories } : Exchange).Ordered first where
  known := held.known
  once := held.once
  waiting := by
    simp only [begun, aside.pending, aside.underway]
    exact held.waiting
  last := aside.lastIndex.trans held.last
  underway u found := held.underway u (aside.underway ▸ found)
  heard u found := held.heard u (aside.underway ▸ found)
  committed := held.committed
  within := held.within
  answered := held.answered

/-- A proposal keeps the order, since its task has not asked for the log yet. -/
theorem Ordered.propose (held : x.Ordered first) (bytes : Bytes) (time : Nat) :
    (x.step (.propose bytes time)).Ordered first where
  known e member := by
    obtain ⟨p, found, same⟩ := held.known e member
    exact ⟨p, getElem?_append_of_eq_some found _, same⟩
  once := held.once
  waiting := held.waiting
  last := held.last
  underway := held.underway
  heard := held.heard
  committed := held.committed
  within := held.within
  answered number p done found told := by
    rcases getElem?_concat_eq_some found with early | ⟨-, rfl⟩
    · exact held.answered number p done early told
    · exact nomatch told

/-- No more tasks have had the log than have asked for it. -/
theorem Ordered.begun_le (held : x.Ordered first) : x.begun ≤ x.line.length := by
  rw [Exchange.begun]
  cases begun : x.cluster.underway with
  | none => exact held.within
  | some u =>
      obtain ⟨-, number, located⟩ := held.underway u begun
      exact (List.getElem?_eq_some_iff.1 located).1

/-- The order is kept when a task asks for the log: it comes last in line, unless it is there
already. -/
theorem Ordered.enter (held : x.Ordered first) (number : Nat) :
    (x.step (.enter number)).Ordered first := by
  simp only [step]
  split
  · next p found =>
    split
    · exact held
    · next absent =>
      exact {
        known := fun e member => by
          rcases List.mem_append.1 member with early | last
          · exact held.known e early
          · rw [List.mem_singleton.1 last]
            exact ⟨p, found, rfl⟩
        once := by
          rw [List.map_append, List.nodup_append]
          refine ⟨held.once, List.nodup_singleton _, fun a early b last => ?_⟩
          rintro rfl
          exact absent ((List.mem_singleton.1 last : a = number) ▸ early)
        -- The tasks in line have not been served, so the new one comes after all that wait.
        waiting := by
          change (x.cluster.consensus.pending ++ [_]).map _ =
            ((x.line ++ [_]).drop x.begun).map _
          rw [List.drop_append_of_le_length held.begun_le, List.map_append, List.map_append,
            held.waiting]
          rfl
        last := held.last
        underway := fun u begun => by
          obtain ⟨index, other, located⟩ := held.underway u begun
          exact ⟨index, other, getElem?_append_of_eq_some located _⟩
        heard := held.heard
        committed := held.committed
        within := by
          rw [List.length_append]
          exact Nat.le_add_right_of_le held.within
        answered := fun n q done found told => by
          obtain ⟨k, committed, located⟩ := held.answered n q done found told
          exact ⟨k, committed, getElem?_append_of_eq_some located _⟩ }
  · exact held

/-- The order is kept when the first task in line gets the log: its entry is the next one. -/
theorem Ordered.begin (held : x.Ordered first) : (x.step .begin).Ordered first := by
  simp only [step, Cluster.step]
  split
  · next number bytes pending idle waiting =>
    have here := held.waiting
    rw [waiting, List.map_cons, Exchange.begun, idle, Option.isSome_none, if_neg Bool.false_ne_true,
      Nat.add_zero] at here
    obtain ⟨e, rest, line, same, others⟩ := List.map_eq_cons_iff.1 here.symm
    exact {
      known := held.known
      once := held.once
      waiting := by
        change pending.map _ = (x.line.drop (x.commits.length + 1)).map _
        rw [← List.drop_drop, line, ← others]
        rfl
      last := held.last
      underway := fun u begun => by
        cases begun
        refine ⟨congrArg LogIndex.next held.last, e.1, ?_⟩
        rw [← Nat.add_zero x.commits.length, ← List.getElem?_drop, line, List.getElem?_cons_zero,
          show bytes = e.2 from same.symm]
      heard := fun u begun positive => by
        cases begun
        exact absurd positive (Nat.lt_irrefl 0)
      committed := held.committed
      within := held.within
      answered := held.answered }
  · exact held

/-- An entry is delivered to the machine that is next, unless there is none such. -/
theorem step_deliver (x : Exchange) (around : Surroundings) :
    x.step (.deliver around) = x ∨ ∃ u m, x.cluster.underway = some u ∧
      x.cluster.consensus.machine? u.reached = some m ∧ x.step (.deliver around) =
        { x with
          cluster :=
            { x.cluster with
              consensus :=
                x.cluster.consensus.putMachine u.reached (m.apply around u.index u.bytes).2
              underway := some { u with reached := u.reached + 1 } }
          outcome :=
            if u.reached = 0 then some (m.apply around u.index u.bytes).1 else x.outcome
          histories := note x.histories u.reached (.apply around u.index u.bytes) } := by
  cases begun : x.cluster.underway with
  | none => exact Or.inl (by simp only [step, begun])
  | some u =>
      cases found : x.cluster.consensus.machine? u.reached with
      | none => exact Or.inl (by simp only [step, begun, found])
      | some m => exact Or.inr ⟨u, m, rfl, found, by simp only [step, Cluster.step, begun, found]⟩

/-- The order is kept when a machine applies the entry of the commit under way. -/
theorem Ordered.deliver (held : x.Ordered first) (around : Surroundings) :
    (x.step (.deliver around)).Ordered first := by
  obtain same | ⟨u, m, begun, found, after⟩ := x.step_deliver around
  · rwa [same]
  · rw [after]
    exact {
      known := held.known
      once := held.once
      waiting := by
        have here := held.waiting
        rw [Exchange.begun, begun] at here
        exact (congrArg (List.map _) (Consensus.pending_putMachine ..)).trans here
      last := (Consensus.lastIndex_putMachine ..).trans held.last
      underway := fun v same => by
        cases same
        exact held.underway u begun
      heard := fun v same _ => by
        cases same
        dsimp only
        split
        · rfl
        · next later => exact held.heard u begun (Nat.pos_of_ne_zero later)
      committed := held.committed
      within := held.within
      answered := held.answered }

/-- The commit under way ends once the entry has reached every machine. -/
theorem Ordered.ending?_eq (held : x.Ordered first) {u : Underway}
    (begun : x.cluster.underway = some u)
    (all : x.cluster.consensus.machines.length ≤ u.reached) :
    ∃ outcome, x.outcome = some outcome ∧ x.ending? = some ⟨u.index, outcome⟩ := by
  have reached : 0 < u.reached := Nat.lt_of_lt_of_le (Nat.succ_pos _) all
  obtain ⟨outcome, known⟩ := Option.isSome_iff_exists.1 (held.heard u begun reached)
  refine ⟨outcome, known, ?_⟩
  simp only [ending?, begun, known, if_pos all]

/-- A commit that has not reached all machines does not end. -/
theorem ending?_eq_none {u : Underway} (begun : x.cluster.underway = some u)
    (part : ¬ x.cluster.consensus.machines.length ≤ u.reached) : x.ending? = none := by
  rw [ending?, begun]
  split
  · next v outcome same told =>
    cases same
    exact if_neg part
  · rfl

/-- A commit ends once the entry has reached every machine; a snapshot may be taken then. -/
theorem Ordered.step_conclude (held : x.Ordered first) (ctx : StepContext) :
    x.step (.conclude ctx) = x ∨ ∃ u outcome, x.cluster.underway = some u ∧
      x.cluster.consensus.machines.length ≤ u.reached ∧ x.outcome = some outcome ∧
      x.step (.conclude ctx) =
        { x with
          cluster :=
            { x.cluster with
              consensus :=
                ({ x.cluster.consensus with lastIndex := u.index } : Consensus).takeDueSnapshot ctx
              underway := none }
          commits := x.commits ++ [⟨u.index, outcome⟩] } := by
  cases begun : x.cluster.underway with
  | none =>
      refine Or.inl ?_
      simp only [Exchange.step, Cluster.step, ending?, begun, Option.toList_none, List.append_nil]
  | some u =>
      by_cases all : x.cluster.consensus.machines.length ≤ u.reached
      · obtain ⟨outcome, told, ending⟩ := held.ending?_eq begun all
        refine Or.inr ⟨u, outcome, rfl, all, told, ?_⟩
        simp only [Exchange.step, Cluster.step, begun, ending, if_pos all, Option.toList_some]
      · refine Or.inl ?_
        simp only [Exchange.step, Cluster.step, begun, ending?_eq_none begun all, if_neg all,
          Option.toList_none, List.append_nil]

/-- The order is kept when a commit ends: it is the next one after those that have ended, with the
index of its place in line. -/
theorem Ordered.conclude (held : x.Ordered first) (ctx : StepContext) :
    (x.step (.conclude ctx)).Ordered first := by
  obtain same | ⟨u, outcome, begun, -, -, after⟩ := held.step_conclude ctx
  · rwa [same]
  · obtain ⟨index, number, located⟩ := held.underway u begun
    obtain ⟨storage, lastSnapshot, snapshot, due⟩ :=
      Consensus.takeDueSnapshot_spec { x.cluster.consensus with lastIndex := u.index } ctx
    rw [after, due]
    exact {
      known := held.known
      once := held.once
      waiting := by
        have here := held.waiting
        rw [Exchange.begun, begun] at here
        rw [Exchange.begun, List.length_append]
        exact here
      last := by
        rw [List.length_append]
        exact index
      underway := fun v none => nomatch none
      heard := fun v none => nomatch none
      committed := fun k done found => by
        rcases getElem?_concat_eq_some found with early | ⟨rfl, rfl⟩
        · exact held.committed k done early
        · exact index
      within := by
        rw [List.length_append]
        exact (List.getElem?_eq_some_iff.1 located).1
      answered := fun n p done found told => by
        obtain ⟨k, committed, entered⟩ := held.answered n p done found told
        exact ⟨k, getElem?_append_of_eq_some committed _, entered⟩ }

/-- The place of an ended commit in the line is that of its proposal. -/
theorem exists_of_commitOf? {number : Nat} {done : Commit}
    (ended : x.commitOf? number = some done) :
    ∃ (k : Nat) (bytes : Bytes), x.commits[k]? = some done ∧ x.line[k]? = some (number, bytes) := by
  obtain ⟨k, place, committed⟩ := Option.bind_eq_some_iff.1 ended
  obtain ⟨within, same, -⟩ := List.findIdx?_eq_some_iff_getElem.1 place
  refine ⟨k, x.line[k].2, committed, ?_⟩
  rw [List.getElem?_eq_getElem within, ← of_decide_eq_true same]

/-- The line stays as it is when a proposer is told the truth. -/
theorem Ordered.tell (held : x.Ordered first) (number : Nat)
    {answer : Proposal → Except ConsensusError Commit}
    (true : ∀ p done, answer p = .ok done → x.commitOf? number = some done) :
    (x.tell number answer).Ordered first where
  known e member := by
    obtain ⟨p, found, same⟩ := held.known e member
    simp only [Exchange.tell, List.getElem?_modify, found, Option.map_eq_map, Option.map_some]
    refine ⟨_, rfl, ?_⟩
    split
    · rw [Proposal.tell]
      split <;> exact same
    · exact same
  once := held.once
  waiting := held.waiting
  last := held.last
  underway := held.underway
  heard := held.heard
  committed := held.committed
  within := held.within
  answered n p done found told := by
    simp only [Exchange.tell, List.getElem?_modify, Option.map_eq_map,
      Option.map_eq_some_iff] at found
    obtain ⟨q, found, rfl⟩ := found
    by_cases same : number = n
    · subst same
      simp only [↓reduceIte, Proposal.tell] at told ⊢
      by_cases early : q.answer.isSome = Bool.true
      · simp only [if_pos early] at told ⊢
        exact held.answered number q done found told
      · simp only [if_neg early] at told ⊢
        -- The commit that the proposer hears of is that of the proposal.
        obtain ⟨k, bytes, committed, located⟩ :=
          exists_of_commitOf? (true q done (Option.some.inj told))
        refine ⟨k, committed, located.trans ?_⟩
        obtain ⟨p, known, rfl⟩ := held.known _ (List.mem_of_getElem? located)
        rw [Option.some.inj (found.symm.trans known)]
    · simp only [if_neg same] at told ⊢
      exact held.answered n q done found told

/-- Whatever happens keeps the order. -/
theorem Ordered.step (held : x.Ordered first) (event : ExchangeEvent) :
    (x.step event).Ordered first := by
  cases event with
  | propose bytes time => exact held.propose bytes time
  | enter number => exact held.enter number
  | begin => exact held.begin
  | deliver around => exact held.deliver around
  | conclude ctx => exact held.conclude ctx
  | hear number =>
      simp only [Exchange.step]
      split
      · next done ended => exact held.tell number fun p other same => by cases same; exact ended
      · exact held
  | giveUp number => exact held.tell number fun p done same => nomatch same
  | takeSnapshot ctx => exact held.aside (x.cluster.step_takeSnapshot ctx).1 x.histories
  | install ctx bytes =>
      cases idle : x.cluster.underway with
      | none =>
          simp only [Exchange.step, idle]
          exact held.aside (Cluster.step_install idle ctx bytes).1 _
      | some u =>
          simp only [Exchange.step, idle]
          exact held
  | traffic machine event => exact held.aside (x.cluster.step_traffic machine event).1 _

/-! ### What reaches the machines -/

/-- The entries in line with the indices that they get. -/
def entries (first : LogIndex) (x : Exchange) : List (LogIndex × Bytes) :=
  x.line.mapIdx fun k e => (first.onwards (k + 1), e.2)

/-- How many entries a machine was given. -/
def given (x : Exchange) (n : Nat) : Nat :=
  x.commits.length + if x.cluster.underway.any (n < ·.reached) then 1 else 0

/-- While a commit is under way, the machines that it has reached were given one entry more than
have ended. -/
theorem given_underway {u : Underway} (begun : x.cluster.underway = some u) (n : Nat) :
    x.given n = x.commits.length + if n < u.reached then 1 else 0 := by
  rw [given, begun]
  simp only [Option.any_some, decide_eq_true_eq]

theorem given_idle (idle : x.cluster.underway = none) (n : Nat) : x.given n = x.commits.length := by
  rw [given, idle]
  rfl

/-- The entry of the commit under way stands in line right after those of the commits that have
ended. -/
theorem Ordered.entry_underway (held : x.Ordered first) {u : Underway}
    (begun : x.cluster.underway = some u) :
    (x.entries first)[x.commits.length]? = some (u.index, u.bytes) := by
  obtain ⟨index, number, located⟩ := held.underway u begun
  rw [entries, List.getElem?_mapIdx, located, index]
  rfl

/-- A machine was never given more entries than stand in line. -/
theorem Ordered.given_le (held : x.Ordered first) (n : Nat) :
    x.given n ≤ (x.entries first).length := by
  have begun := held.begun_le
  rw [entries, List.length_mapIdx]
  rw [Exchange.begun] at begun
  cases underway : x.cluster.underway with
  | none =>
      rw [given_idle underway]
      exact held.within
  | some u =>
      rw [underway] at begun
      change _ + 1 ≤ _ at begun
      rw [given_underway underway]
      split <;> omega

/-- Every machine has gone through its history, in which it was given the first entries in line. -/
structure Delivered (c : Consensus) (x : Exchange) : Prop where
  machines : x.cluster.consensus.machines = c.machines.mapIdx fun n m => m.run (x.histories n)
  given : ∀ n < c.machines.length,
    Machine.deliveries (x.histories n) = (x.entries c.lastIndex).take (x.given n)
  underway : ∀ u outcome, x.cluster.underway = some u → 0 < u.reached →
    x.outcome = some outcome → c.primary.Answered (x.histories 0) u.index u.bytes outcome
  committed : ∀ (k : Nat) (done : Commit), x.commits[k]? = some done → ∃ e, x.line[k]? = some e ∧
    c.primary.Answered (x.histories 0) done.index e.2 done.outcome

variable {c : Consensus}

/-- At the start every machine has an empty history, and was given nothing. -/
theorem delivered_start (c : Consensus) : (start c).Delivered c where
  machines := (List.mapIdx_eq_iff.2 fun n => by simp [start, Machine.run]).symm
  given n within := rfl
  underway u outcome begun := nomatch begun
  committed k done found := nomatch found

/-- Noting an event of one machine adds it to the run of that machine and of no other. -/
theorem machines_note (machines : List Machine) (histories : Nat → List Machine.Event) (n : Nat)
    (event : Machine.Event) :
    machines.mapIdx (fun k m => m.run (note histories n event k)) =
      (machines.mapIdx fun k m => m.run (histories k)).modify n (·.undergo event) := by
  apply List.ext_getElem?
  intro k
  rw [List.getElem?_modify, List.getElem?_mapIdx, List.getElem?_mapIdx]
  cases machines[k]? with
  | none => rfl
  | some m =>
      by_cases same : n = k
      · subst same
        simp [note, Machine.run]
      · simp [note, same, Ne.symm same]

/-- An event that is noted counts among the entries of its own machine, if it brings one, and of no
other machine. -/
theorem deliveries_note (histories : Nat → List Machine.Event) (n k : Nat)
    (event : Machine.Event) :
    Machine.deliveries (note histories n event k) =
      Machine.deliveries (histories k) ++ if k = n then event.delivery?.toList else [] := by
  rw [note]
  split
  · rw [Machine.deliveries, List.filterMap_append]
    cases event <;> rfl
  · exact (List.append_nil _).symm

/-- What happened once has happened whatever else comes. -/
theorem answered_note {m : Machine} {histories : Nat → List Machine.Event} {k : Nat}
    {index : LogIndex} {bytes : Bytes} {outcome : Except ApplyError Unit}
    (answered : m.Answered (histories k) index bytes outcome) (n : Nat) (event : Machine.Event) :
    m.Answered (note histories n event k) index bytes outcome := by
  rw [note]
  split
  · exact answered.append [event]
  · exact answered

/-- Nothing is delivered by what changes no proposal. -/
theorem Delivered.aside (held : x.Delivered c) {after : Cluster} (aside : x.cluster.Aside after)
    {histories : Nat → List Machine.Event}
    (machines : after.consensus.machines = c.machines.mapIdx fun n m => m.run (histories n))
    (given : ∀ n, Machine.deliveries (histories n) = Machine.deliveries (x.histories n))
    (answered : ∀ {index bytes outcome},
      c.primary.Answered (x.histories 0) index bytes outcome →
        c.primary.Answered (histories 0) index bytes outcome) :
    ({ x with cluster := after, histories } : Exchange).Delivered c where
  machines := machines
  given n within := by
    simp only [given, held.given n within, Exchange.given, aside.underway]
    rfl
  underway u outcome begun reached told :=
    answered (held.underway u outcome (aside.underway ▸ begun) reached told)
  committed k done found := by
    obtain ⟨e, located, told⟩ := held.committed k done found
    exact ⟨e, located, answered told⟩

/-- A task that asks for the log changes nothing about what the machines were given so far. -/
theorem Delivered.enter (held : x.Delivered c) (ordered : x.Ordered c.lastIndex) (number : Nat) :
    (x.step (.enter number)).Delivered c := by
  simp only [Exchange.step]
  split
  · next p found =>
    split
    · exact held
    · exact {
        machines := held.machines
        given := fun n within => by
          refine (held.given n within).trans ?_
          change _ = ((x.line ++ [_]).mapIdx _).take (x.given n)
          rw [List.mapIdx_concat]
          exact (List.take_append_of_le_length (ordered.given_le n)).symm
        underway := held.underway
        committed := fun k done found => by
          obtain ⟨e, located, told⟩ := held.committed k done found
          exact ⟨e, getElem?_append_of_eq_some located _, told⟩ }
  · exact held

/-- A commit that begins has not brought its entry to any machine. -/
theorem Delivered.begin (held : x.Delivered c) : (x.step .begin).Delivered c := by
  simp only [Exchange.step, Cluster.step]
  split
  · next number bytes pending idle waiting =>
    exact {
      machines := held.machines
      given := fun n within => by
        refine (held.given n within).trans ?_
        simp only [Exchange.given, idle]
        rfl
      underway := fun u outcome begun reached => by
        cases begun
        exact absurd reached (Nat.lt_irrefl 0)
      committed := held.committed }
  · exact held

/-- The next machine that the commit under way reaches is given its entry, right after the entries
that it was given before. -/
theorem Delivered.deliver (held : x.Delivered c) (ordered : x.Ordered c.lastIndex)
    (around : Surroundings) : (x.step (.deliver around)).Delivered c := by
  obtain same | ⟨u, m, begun, found, after⟩ := x.step_deliver around
  · rwa [same]
  · have receiver : m = c.primary.run (x.histories 0) ∨ u.reached ≠ 0 := by
      by_cases first : u.reached = 0
      · rw [Consensus.machine?, held.machines, first, Consensus.machines, List.mapIdx_cons] at found
        exact Or.inl (Option.some.inj found).symm
      · exact Or.inr first
    rw [after]
    exact {
      machines := by
        rw [machines_note, ← held.machines, Consensus.machines_putMachine,
          List.modify_eq_set_getElem?, ← Consensus.machine?, found]
        rfl
      given := fun n within => by
        refine (deliveries_note ..).trans ?_
        rw [held.given n within, given_underway begun, given_underway rfl]
        by_cases next : n = u.reached
        · -- The receiver is given the entry that follows those it was given before.
          subst next
          simp only [↓reduceIte, Nat.lt_irrefl, Nat.lt_succ_self, Nat.add_zero]
          exact (List.take_add_one.trans (congrArg (_ ++ ·)
            (congrArg Option.toList (ordered.entry_underway begun)))).symm
        · have side : n < u.reached + 1 ↔ n < u.reached := by omega
          simp only [if_neg next, List.append_nil, side]
          rfl
      underway := fun v outcome same reached told => by
        cases same
        dsimp only at told ⊢
        split at told
        · next first =>
          cases told
          rcases receiver with rfl | later
          · rw [note, if_pos first.symm]
            exact Machine.answered_last ..
          · exact absurd first later
        · next later =>
          exact answered_note (held.underway u outcome begun (Nat.pos_of_ne_zero later) told) ..
      committed := fun k done old => by
        obtain ⟨e, entered, told⟩ := held.committed k done old
        exact ⟨e, entered, answered_note told ..⟩ }

/-- A commit that ends has brought its entry to all machines, and has the outcome of the primary. -/
theorem Delivered.conclude (held : x.Delivered c) (ordered : x.Ordered c.lastIndex)
    (ctx : StepContext) : (x.step (.conclude ctx)).Delivered c := by
  obtain same | ⟨u, outcome, begun, all, told, after⟩ := ordered.step_conclude ctx
  · rwa [same]
  · obtain ⟨-, number, located⟩ := ordered.underway u begun
    obtain ⟨storage, lastSnapshot, snapshot, due⟩ :=
      Consensus.takeDueSnapshot_spec { x.cluster.consensus with lastIndex := u.index } ctx
    have many : x.cluster.consensus.machines.length = c.machines.length := by
      rw [held.machines, List.length_mapIdx]
    rw [after, due]
    exact {
      machines := held.machines
      given := fun n within => by
        refine (held.given n within).trans ?_
        rw [given_underway begun, if_pos (Nat.lt_of_lt_of_le within (many ▸ all)), given_idle rfl,
          List.length_append]
        rfl
      underway := fun v outcome none => nomatch none
      committed := fun k done found => by
        rcases getElem?_concat_eq_some found with early | ⟨rfl, rfl⟩
        · exact held.committed k done early
        · have reached : 0 < u.reached := Nat.lt_of_lt_of_le (Nat.succ_pos _) all
          exact ⟨_, located, held.underway u outcome begun reached told⟩ }

/-- Whatever happens, the machines have gone through their histories and were given the entries in
line in order. -/
theorem Delivered.step (held : x.Delivered c) (ordered : x.Ordered c.lastIndex)
    (event : ExchangeEvent) : (x.step event).Delivered c := by
  cases event with
  | propose bytes time => exact ⟨held.machines, held.given, held.underway, held.committed⟩
  | enter number => exact held.enter ordered number
  | begin => exact held.begin
  | deliver around => exact held.deliver ordered around
  | conclude ctx => exact held.conclude ordered ctx
  | hear number =>
      simp only [Exchange.step]
      split
      · exact ⟨held.machines, held.given, held.underway, held.committed⟩
      · exact held
  | giveUp number => exact ⟨held.machines, held.given, held.underway, held.committed⟩
  | takeSnapshot ctx =>
      obtain ⟨aside, machines⟩ := x.cluster.step_takeSnapshot ctx
      exact held.aside aside (machines.trans held.machines) (fun _ => rfl) id
  -- A snapshot goes into the histories without being an entry, and only between commits.
  | install ctx bytes =>
      cases idle : x.cluster.underway with
      | some u =>
          simp only [Exchange.step, idle]
          exact held
      | none =>
          obtain ⟨aside, machines⟩ := Cluster.step_install idle ctx bytes
          simp only [Exchange.step, idle]
          refine held.aside aside ?_ (fun n => ?_) fun told => told.append _
          · rw [machines, held.machines, List.mapIdx_mapIdx]
            congr 1
            funext n m
            rw [Machine.run_append]
            rfl
          · rw [Machine.deliveries, List.filterMap_append]
            exact List.append_nil _
  | traffic machine event =>
      obtain ⟨aside, machines⟩ := x.cluster.step_traffic machine event
      refine held.aside aside ?_ (fun n => ?_) fun told => answered_note told ..
      · rw [machines, held.machines, machines_note]
      · rw [deliveries_note]
        split <;> exact List.append_nil _

/-- Every run keeps the line in order and delivers from it. -/
theorem Ordered.run (ordered : x.Ordered c.lastIndex) (held : x.Delivered c)
    (events : List ExchangeEvent) :
    (x.run events).Ordered c.lastIndex ∧ (x.run events).Delivered c := by
  induction events generalizing x with
  | nil => exact ⟨ordered, held⟩
  | cons event events ih => exact ih (ordered.step event) (held.step ordered event)

/-! ### Once all is committed -/

/-- The entries that are proposed in the course of a run. -/
def proposed (events : List ExchangeEvent) : List Bytes :=
  events.filterMap ExchangeEvent.proposed?

/-- A step adds the entry that it proposes, if any, to the proposals, and leaves the entries of the
others as they are. -/
theorem bytes_step (x : Exchange) (event : ExchangeEvent) :
    (x.step event).proposals.map (·.bytes) = x.proposals.map (·.bytes) ++ proposed [event] := by
  have tell (number : Nat) (answer : Proposal → Except ConsensusError Commit) :
      (x.tell number answer).proposals.map (·.bytes) = x.proposals.map (·.bytes) := by
    apply List.ext_getElem?
    intro n
    simp only [Exchange.tell, List.getElem?_map, List.getElem?_modify, Option.map_eq_map,
      Option.map_map]
    congr 1
    funext p
    simp only [Function.comp_apply]
    split
    · rw [Proposal.tell]
      split <;> rfl
    · rfl
  cases event with
  | propose bytes time => exact List.map_append
  | hear number =>
      simp only [step]
      split
      · exact (tell ..).trans (List.append_nil _).symm
      · exact (List.append_nil _).symm
  | giveUp number => exact (tell ..).trans (List.append_nil _).symm
  | _ =>
      refine Eq.trans (congrArg _ ?_) (List.append_nil _).symm
      simp only [step]
      repeat' split
      all_goals rfl

/-- The proposals of a run are those from before and the entries that are proposed in its course. -/
theorem bytes_run (x : Exchange) (events : List ExchangeEvent) :
    (x.run events).proposals.map (·.bytes) = x.proposals.map (·.bytes) ++ proposed events := by
  induction events generalizing x with
  | nil => exact (List.append_nil _).symm
  | cons event events ih =>
      rw [run, List.foldl_cons, ← run, ih, bytes_step, List.append_assoc]
      exact congrArg _ (List.filterMap_append (l := [event])).symm

/-- Every task has come to its end. -/
structure Finished (x : Exchange) : Prop where
  entered : ∀ number < x.proposals.length, number ∈ x.line.map (·.1)
  served : x.cluster.consensus.pending = []
  idle : x.cluster.underway = none

/-- Once every task has come to its end the line is made of all proposals. -/
theorem Ordered.perm_line (held : x.Ordered first) (finished : x.Finished) :
    x.line.Perm ((x.proposals.map (·.bytes)).mapIdx Prod.mk) := by
  have numbers : (((x.proposals.map (·.bytes)).mapIdx Prod.mk).map (·.1)).Nodup := by
    have range : ((x.proposals.map (·.bytes)).mapIdx Prod.mk).map (·.1) =
        List.range x.proposals.length := by
      apply List.ext_getElem <;> simp
    rw [range]
    exact List.nodup_range
  refine (List.perm_ext_iff_of_nodup held.once.of_map numbers.of_map).2 fun e => ?_
  have proposed : e ∈ (x.proposals.map (·.bytes)).mapIdx Prod.mk ↔
      ∃ p, x.proposals[e.1]? = some p ∧ p.bytes = e.2 := by
    rw [List.mem_mapIdx]
    constructor
    · rintro ⟨n, within, rfl⟩
      rw [List.length_map] at within
      exact ⟨x.proposals[n], List.getElem?_eq_getElem within, by simp⟩
    · rintro ⟨p, found, same⟩
      obtain ⟨within, rfl⟩ := List.getElem?_eq_some_iff.1 found
      exact ⟨e.1, by simpa using within, by simp [same]⟩
  rw [proposed]
  refine ⟨held.known e, fun ⟨p, found, same⟩ => ?_⟩
  obtain ⟨other, member, number⟩ :=
    List.mem_map.1 (finished.entered e.1 (List.getElem?_eq_some_iff.1 found).1)
  obtain ⟨q, known, bytes⟩ := held.known other member
  rw [number, found] at known
  obtain rfl := Option.some.inj known
  rwa [← Prod.ext number (bytes.symm.trans same)]

/-- Once every task has come to its end every machine was given the whole line. -/
theorem Delivered.given_all (held : x.Delivered c) (ordered : x.Ordered c.lastIndex)
    (finished : x.Finished) {n : Nat} (within : n < c.machines.length) :
    Machine.deliveries (x.histories n) = x.entries c.lastIndex := by
  have rest := ordered.waiting
  rw [finished.served, begun, finished.idle] at rest
  have all : x.line.length ≤ x.commits.length :=
    List.drop_eq_nil_iff.1 (List.map_eq_nil_iff.1 rest.symm)
  rw [held.given n within, given_idle finished.idle]
  refine List.take_of_length_le ?_
  rw [entries, List.length_mapIdx]
  exact all

/-- However proposals, commits and what else there is come between each other: once every task has
come to its end, all machines have gone through one sequence of entries. In it is every proposal
once, whatever its proposer was told; the indices follow each other from the one after the last
index at the start; and who was told of a commit finds the entry at the index that was told, with
the outcome that the primary had. -/
theorem delivered_once (c : Consensus) (alone : c.pending = []) (events : List ExchangeEvent)
    (fits : c.lastIndex.val.toNat + (proposed events).length < 2 ^ 64) :
    let x := (start c).run events
    x.cluster.consensus.machines = c.machines.mapIdx (fun n m => m.run (x.histories n)) ∧
      (x.Finished → ∃ order : List (Nat × Bytes), order.Perm ((proposed events).mapIdx Prod.mk) ∧
        (∀ n < c.machines.length,
          (Machine.deliveries (x.histories n)).map (fun d => (d.1.val.toNat, d.2)) =
            order.mapIdx fun k e => (c.lastIndex.val.toNat + 1 + k, e.2)) ∧
        ∀ (number : Nat) (p : Proposal) (done : Commit), x.proposals[number]? = some p →
          p.answer = some (.ok done) → ∃ k : Nat, order[k]? = some (number, p.bytes) ∧
            done.index.val.toNat = c.lastIndex.val.toNat + 1 + k ∧
            c.primary.Answered (x.histories 0) done.index p.bytes done.outcome) := by
  intro x
  obtain ⟨ordered, delivered⟩ : x.Ordered c.lastIndex ∧ x.Delivered c :=
    (ordered_start alone).run (delivered_start c) events
  refine ⟨delivered.machines, fun finished => ?_⟩
  have perm := ordered.perm_line finished
  rw [bytes_run (start c) events] at perm
  change x.line.Perm ((proposed events).mapIdx Prod.mk) at perm
  have many : x.line.length = (proposed events).length := by
    rw [perm.length_eq, List.length_mapIdx]
  have numbered {k : Nat} (within : k < x.line.length) :
      (c.lastIndex.onwards (k + 1)).val.toNat = c.lastIndex.val.toNat + 1 + k := by
    rw [LogIndex.toNat_onwards (by omega)]
    omega
  -- The order is that in which the tasks have asked for the log.
  refine ⟨x.line, perm, fun n within => ?_, fun number p done found told => ?_⟩
  · rw [delivered.given_all ordered finished within, entries]
    apply List.ext_getElem
    · simp only [List.length_map, List.length_mapIdx]
    · intro k here there
      simp only [List.length_map, List.length_mapIdx] at here
      simp only [List.getElem_map, List.getElem_mapIdx, numbered here]
  · obtain ⟨k, committed, located⟩ := ordered.answered number p done found told
    obtain ⟨within, -⟩ := List.getElem?_eq_some_iff.1 located
    obtain ⟨e, same, answered⟩ := delivered.committed k done committed
    obtain rfl := Option.some.inj (located.symm.trans same)
    refine ⟨k, located, ?_, answered⟩
    rw [ordered.committed k done committed, numbered within]

/-- Three machines that are set up differently, of which snapshots are taken often. -/
def sampleConsensus : Consensus :=
  (Cluster.fresh {} [{ settings := { replicas := 3 } }, { hostWait := 5 }] 1 .memory {}).consensus

/-- Three proposals in a hurry: one has no time at all, and the last one asks for the log first. -/
def sampleRun : List ExchangeEvent :=
  [.propose (LogEntry.createPool ⟨"/a", ["http://[::1]:80"], "round-robin"⟩).encode 5000,
   .propose [0xFF] 0, .giveUp 1,
   .propose (LogEntry.aclMutate .insert "10.0.0.0/24").encode 10,
   .enter 2, .enter 0, .begin, .deliver {}, .traffic 0 (.expire 0), .deliver {}, .enter 1,
   .deliver {}, .giveUp 2, .conclude {}, .hear 2, .takeSnapshot {},
   .begin, .deliver { instant := 3 }, .deliver {}, .deliver {}, .conclude {}, .hear 0,
   .begin, .deliver {}, .deliver {}, .deliver {}, .conclude {}, .hear 1]

/-- Consensus after the sample run. -/
def sampleExchange : Exchange := (start sampleConsensus).run sampleRun

/-- In the sample run two proposers give up, and all three machines are given all three entries. -/
theorem delivered_once_sampleRun :
    sampleExchange.Finished ∧
      sampleExchange.proposals.map (fun p => p.answer.map fun a => a.toOption.map (·.index)) =
        [some (some ⟨2⟩), some none, some none] ∧
      ∃ order : List (Nat × Bytes), order.Perm ((proposed sampleRun).mapIdx Prod.mk) ∧
        ∀ n < 3, (Machine.deliveries (sampleExchange.histories n)).map
          (fun d => (d.1.val.toNat, d.2)) = order.mapIdx fun k e => (0 + 1 + k, e.2) := by
  have finished : sampleExchange.Finished :=
    ⟨by decide +kernel, by decide +kernel, by decide +kernel⟩
  obtain ⟨-, delivered⟩ := delivered_once sampleConsensus rfl sampleRun (by decide +kernel)
  obtain ⟨order, perm, same, -⟩ := delivered finished
  exact ⟨finished, by decide +kernel, order, perm, same⟩

/-! ### A call that nothing comes between -/

/-- The events of a call to which `count` machines answer with nothing in between. -/
def callEvents (ctx : StepContext) (bytes : Bytes) (time count : Nat) : List ExchangeEvent :=
  [.propose bytes time, .enter 0, .begin] ++
    (List.range count).map (fun n => .deliver (ctx.around n)) ++ [.conclude ctx, .hear 0]

/-- Once the primary has applied the entry the others change nothing but themselves. -/
theorem run_deliver (x : Exchange) {u : Underway} (begun : x.cluster.underway = some u)
    (reached : 0 < u.reached) (ctx : StepContext) (machines : List Nat) :
    ∃ histories, x.run (machines.map fun n => .deliver (ctx.around n)) =
      { x with
        cluster := x.cluster.run (machines.map fun n => .deliver (ctx.around n))
        histories } := by
  induction machines generalizing x u with
  | nil => exact ⟨x.histories, rfl⟩
  | cons n rest ih =>
      cases found : x.cluster.consensus.machine? u.reached with
      | none =>
          have same : x.step (.deliver (ctx.around n)) = x ∧
              x.cluster.step (.deliver (ctx.around n)) = x.cluster := by
            simp only [step, Cluster.step, begun, found, and_self]
          obtain ⟨histories, rest⟩ := ih x begun reached
          refine ⟨histories, ?_⟩
          rw [List.map_cons, run, List.foldl_cons, same.1, List.map_cons, Cluster.run,
            List.foldl_cons, same.2]
          exact rest
      | some m =>
          let next := x.step (.deliver (ctx.around n))
          have same : next =
              { x with
                cluster := x.cluster.step (.deliver (ctx.around n))
                histories := note x.histories u.reached
                  (.apply (ctx.around n) u.index u.bytes) } := by
            simp only [next, step, begun, found, if_neg (Nat.ne_of_gt reached)]
          have later : next.cluster.underway = some { u with reached := u.reached + 1 } := by
            rw [same]
            simp only [Cluster.step, begun, found]
          obtain ⟨histories, rest⟩ := ih next later (Nat.succ_pos _)
          refine ⟨histories, rest.trans ?_⟩
          rw [same]
          rfl

/-- A call that nothing comes between is a proposal in one step. -/
theorem run_call {c : Consensus} (alone : c.pending = []) (ctx : StepContext) (bytes : Bytes)
    {time : Nat} (patient : time ≠ 0) :
    let x := (start c).run (callEvents ctx bytes time c.machines.length)
    x.cluster.consensus = (c.propose ctx bytes time).2 ∧
      x.proposals = [⟨bytes, time, some (c.propose ctx bytes time).1⟩] := by
  let next : Consensus := { c with pending := [], nextProposal := c.nextProposal + 1 }
  let applied := c.primary.apply (ctx.around 0) c.lastIndex.next bytes
  have begun : (start c).run [.propose bytes time, .enter 0, .begin] =
      { cluster := ⟨next, some ⟨c.lastIndex.next, bytes, 0⟩, []⟩
        proposals := [{ bytes, time }]
        line := [(0, bytes)] } := by
    simp [run, step, start, Cluster.step, Consensus.submit, alone, next]
  -- The primary comes first, and its outcome is what the proposer will be told.
  let led : Exchange :=
    { cluster := ⟨{ next with primary := applied.2 }, some ⟨c.lastIndex.next, bytes, 1⟩, []⟩
      proposals := [{ bytes, time }]
      line := [(0, bytes)]
      outcome := some applied.1
      histories := note (fun _ => []) 0 (.apply (ctx.around 0) c.lastIndex.next bytes) }
  obtain ⟨histories, followed⟩ :=
    led.run_deliver rfl Nat.zero_lt_one ctx (List.range' 1 c.followers.length)
  have reached : led.cluster.run ((List.range' 1 c.followers.length).map
        fun n => .deliver (ctx.around n)) =
      ⟨Cluster.withMachines next
          (applied.2 :: Consensus.applyAll ctx c.lastIndex.next bytes 1 c.followers),
        some ⟨c.lastIndex.next, bytes, 1 + c.followers.length⟩, []⟩ :=
    Cluster.run_deliver next ctx c.lastIndex.next bytes [] [applied.2] c.followers
      (List.cons_ne_nil _ _)
  have all : (Cluster.withMachines next (applied.2 :: Consensus.applyAll ctx c.lastIndex.next bytes
      1 c.followers)).machines.length ≤ 1 + c.followers.length := by
    rw [Cluster.machines_withMachines _ (List.cons_ne_nil _ _), Consensus.applyAll_eq,
      List.length_cons, List.length_mapIdx, Nat.add_comm]
  have committed : (start c).run (callEvents ctx bytes time c.machines.length) =
      { cluster := ⟨(next.commit ctx bytes).2, none, []⟩
        proposals := [⟨bytes, time, some (.ok (next.commit ctx bytes).1)⟩]
        line := [(0, bytes)]
        commits := [(next.commit ctx bytes).1]
        outcome := some applied.1
        histories } := by
    rw [callEvents, run_append, run_append, begun, Consensus.machines, List.length_cons,
      List.range_eq_range', List.range'_succ, List.map_cons]
    change run (run led _) _ = _
    rw [followed, reached]
    simp only [run, List.foldl_cons, List.foldl_nil, step, ending?, Cluster.step, if_pos all, led]
    rfl
  have same : next = { c with nextProposal := c.nextProposal + 1 } := by
    simp only [next, ← alone]
  rw [committed, Consensus.propose_alone alone ctx bytes patient, same]
  exact ⟨rfl, rfl⟩

end Exchange

end ClusterGateway
