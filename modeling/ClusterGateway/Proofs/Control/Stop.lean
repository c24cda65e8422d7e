import ClusterGateway.Proofs.Control.Writes
import ClusterGateway.Proofs.Replication.Delivery
import ClusterGateway.Proofs.Replication.Envelope
import Mathlib.Data.List.Perm.Subperm

/-! # What a stop keeps

A node stops while operators write to it. Writes are refused from then on, but those that were
accepted before go on, and so does the stop: it lets requests come to their end, asks for the log
like any other task, takes a last snapshot when its turn comes and shuts the pools down. The last
snapshot holds the writes whose tasks have asked for the log before the stop did, and these only. A
task that asks for it later is not waited for: its write is acknowledged with a greater index, is
not in the last snapshot, and may leave a pool in the table that was shut down.
-/

namespace ClusterGateway

/-- How far the stop of a node has come. -/
inductive StopStage where
  /-- Nobody has asked the node to stop. -/
  | running
  /-- Requests under way come to their end, or are given enough time. -/
  | draining
  /-- The stop has asked for the log, after so many tasks. -/
  | saving (place : Nat)
  /-- The stop has returned an index, and so lay the last snapshot on disk. -/
  | stopped (place : Nat) (index : LogIndex) (disk : Storage)
  /-- The last snapshot could not be written. -/
  | failed

/-- The index that the stop has returned, with what lay on disk by then. -/
def StopStage.returned? : StopStage → Option (LogIndex × Storage)
  | stopped _ index disk => some (index, disk)
  | _ => none

/-- A node that is written to until it stops. -/
structure Closing where
  config : Config
  writeEnabled : Bool
  proposeTimeout : Nat
  exchange : Exchange
  stage : StopStage := .running

/-- What can happen to such a node. -/
inductive ClosingEvent where
  /-- An operator asks for a change; if the request is accepted, the entry for it is proposed. -/
  | ask (request : WriteRequest)
  /-- Something happens to a proposal, to the commit under way or at the machine. -/
  | exchange (event : ExchangeEvent)
  /-- The node refuses writes and requests from now on, since it is to stop. -/
  | beginStop
  /-- The stop has waited for requests, in vain or not, and asks for the log. -/
  | awaitLog
  /-- The stop gets the log, takes the last snapshot and shuts the pools down. No commit can come
  between, since the stop holds the log until the snapshot is written and then goes on at once. -/
  | finish (ctx : StepContext)

/-- A clock shows a date when the last snapshot is taken. -/
def ClosingEvent.Dated : ClosingEvent → Prop
  | finish ctx => ctx.date.Valid
  | _ => True

/-- The tasks of proposals, their proposers and the traffic at the machine. -/
def ExchangeEvent.ordinary : ExchangeEvent → Bool
  | propose _ _ | takeSnapshot _ | install _ _ => false
  | _ => true

namespace Closing

/-- A node that nobody has written to yet. -/
def start (config : Config) (c : ControlPlane) : Closing where
  config
  writeEnabled := c.writeEnabled
  proposeTimeout := c.proposeTimeout
  exchange := .start c.consensus

/-- The node as it is now. -/
def node (s : Closing) : Node where
  config := s.config
  control :=
    { consensus := s.exchange.cluster.consensus
      writeEnabled := s.writeEnabled
      proposeTimeout := s.proposeTimeout }

/-- Replaces the node. -/
def putNode (s : Closing) (n : Node) : Closing :=
  let cluster := { s.exchange.cluster with consensus := n.control.consensus }
  { s with writeEnabled := n.control.writeEnabled, exchange := { s.exchange with cluster } }

/-- Whether something can happen now. Tasks that have asked for the log after the stop wait for
it. -/
def permits (s : Closing) : ExchangeEvent → Bool
  | .begin =>
    match s.stage with
    | .saving place => decide (s.exchange.begun < place)
    | _ => true
  | event => event.ordinary

/-- Lets something happen; what is not possible changes nothing. -/
def step (s : Closing) : ClosingEvent → Closing
  | .ask request =>
    match ControlPlane.prepare s.node.control.table request with
    | .ok entry =>
      if s.writeEnabled then
        { s with exchange := s.exchange.step (.propose entry.encode s.proposeTimeout) }
      else s
    | .error _ => s
  | .exchange event =>
    if s.permits event then { s with exchange := s.exchange.step event } else s
  | .beginStop =>
    match s.stage with
    | .running => { s.putNode s.node.beginStop with stage := .draining }
    | _ => s
  | .awaitLog =>
    match s.stage with
    | .draining => { s with stage := .saving s.exchange.line.length }
    | _ => s
  | .finish ctx =>
    match s.stage, s.exchange.cluster.underway with
    | .saving place, none =>
      if place ≤ s.exchange.begun then
        match s.node.finishStop ctx with
        | (.ok index, n) =>
          { s.putNode n with stage := .stopped place index n.control.consensus.storage }
        | (.error _, _) => { s with stage := .failed }
      else s
    | _, _ => s

/-- Lets things happen one after another. -/
def run (s : Closing) (events : List ClosingEvent) : Closing := events.foldl step s

/-- The index at which a proposal is applied, once its operator was told so. -/
def acknowledged? (s : Closing) (number : Nat) : Option LogIndex := do
  let p ← s.exchange.proposals[number]?
  let answer ← p.answer
  (ControlPlane.verdict answer).toOption

end Closing

namespace Exchange

variable {x : Exchange} {first : LogIndex}

/-! ### Before the last snapshot -/

/-- What a replica makes of entries in line. -/
def follow (r : Replica) (entries : List (Nat × Bytes)) : Replica :=
  entries.foldl (fun r e => r.follow e.2) r

/-- The primary has the replica that the first entries in line make of `r`, and snapshots are kept
in a directory. -/
structure Tracks (r : Replica) (x : Exchange) : Prop where
  replica : x.cluster.consensus.primary.replica = follow r (x.line.take (x.given 0))
  kept : x.cluster.consensus.storage ≠ .memory

variable {r : Replica}

/-- A task that asks for the log changes nothing for the primary. -/
theorem Tracks.enter (held : x.Tracks r) (ordered : x.Ordered first) (number : Nat) :
    (x.step (.enter number)).Tracks r := by
  simp only [step]
  split
  · split
    · exact held
    · have within := ordered.given_le 0
      rw [entries, List.length_mapIdx] at within
      refine ⟨held.replica.trans ?_, held.kept⟩
      change _ = follow r ((x.line ++ [_]).take (x.given 0))
      rw [List.take_append_of_le_length within]
  · exact held

theorem Tracks.begin (held : x.Tracks r) : (x.step .begin).Tracks r := by
  simp only [step, Cluster.step]
  split
  · next number bytes pending idle waiting =>
    refine ⟨held.replica.trans ?_, held.kept⟩
    rw [given_idle idle, given_underway rfl]
    rfl
  · exact held

/-- An entry that is delivered to the primary is the next one in line. -/
theorem Tracks.deliver (held : x.Tracks r) (ordered : x.Ordered first)
    (sound : x.cluster.consensus.primary.Sound) (around : Surroundings) :
    (x.step (.deliver around)).Tracks r := by
  obtain same | ⟨u, m, begun, found, after⟩ := x.step_deliver around
  · rwa [same]
  · rw [after]
    have replica := held.replica
    rw [given_underway begun] at replica
    cases reached : u.reached with
    | zero =>
        rw [reached] at found replica
        obtain rfl : x.cluster.consensus.primary = m := Option.some.inj found
        have followed := (sound.apply around u.index u.bytes).2
        obtain ⟨-, number, located⟩ := ordered.underway u begun
        refine ⟨followed.trans ?_, held.kept⟩
        rw [given_underway rfl, replica, if_neg (Nat.lt_irrefl 0), if_pos (Nat.succ_pos _),
          List.take_add_one, located, follow, follow, Option.toList_some, List.foldl_append]
        rfl
    | succ n =>
        rw [reached, if_pos (Nat.succ_pos n)] at replica
        refine ⟨replica.trans ?_, held.kept⟩
        rw [given_underway rfl, if_pos (Nat.succ_pos _)]

/-- A commit that comes to its end leaves the primary with the entries that it was given. -/
theorem Tracks.conclude (held : x.Tracks r) (ordered : x.Ordered first) (ctx : StepContext) :
    (x.step (.conclude ctx)).Tracks r := by
  obtain same | ⟨u, outcome, begun, all, -, after⟩ := ordered.step_conclude ctx
  · rwa [same]
  · have kept := Consensus.storage_takeDueSnapshot
      (c := { x.cluster.consensus with lastIndex := u.index }) held.kept ctx
    obtain ⟨storage, lastSnapshot, snapshot, due⟩ :=
      Consensus.takeDueSnapshot_spec { x.cluster.consensus with lastIndex := u.index } ctx
    rw [after]
    rw [due] at kept ⊢
    refine ⟨held.replica.trans ?_, kept⟩
    have reached : 0 < u.reached := Nat.lt_of_lt_of_le (Nat.succ_pos _) all
    rw [given_underway begun, if_pos reached, given_idle rfl, List.length_append]
    rfl

/-- Requests and checks leave the replica of the primary alone. -/
theorem Tracks.traffic (held : x.Tracks r) (sound : x.cluster.consensus.primary.Sound)
    (machine : Nat) (event : Traffic) : (x.step (.traffic machine event)).Tracks r := by
  cases found : x.cluster.consensus.machine? machine with
  | none =>
      simp only [step, Cluster.step, found]
      exact ⟨held.replica, held.kept⟩
  | some m =>
      simp only [step, Cluster.step, found]
      cases machine with
      | zero =>
          obtain rfl : x.cluster.consensus.primary = m := Option.some.inj found
          exact ⟨(sound.serve event).2.trans held.replica, held.kept⟩
      | succ n => exact ⟨held.replica, held.kept⟩

/-- The primary goes on to follow the line. -/
theorem Tracks.step (held : x.Tracks r) (ordered : x.Ordered first)
    (sound : x.cluster.consensus.primary.Sound) {event : ExchangeEvent}
    (ordinary : event.ordinary = true) : (x.step event).Tracks r := by
  cases event with
  | enter number => exact held.enter ordered number
  | begin => exact held.begin
  | deliver around => exact held.deliver ordered sound around
  | conclude ctx => exact held.conclude ordered ctx
  | hear number =>
      simp only [Exchange.step]
      split <;> exact ⟨held.replica, held.kept⟩
  | giveUp number => exact ⟨held.replica, held.kept⟩
  | traffic machine event => exact held.traffic sound machine event
  | _ => exact absurd ordinary Bool.false_ne_true

/-! ### After the last snapshot -/

/-- The line of tasks only grows at its end. -/
theorem line_step (x : Exchange) (event : ExchangeEvent) :
    ∃ more, (x.step event).line = x.line ++ more := by
  have same : ∃ more, x.line = x.line ++ more := ⟨[], (List.append_nil _).symm⟩
  cases event with
  | enter number =>
      simp only [step]
      split
      · split
        · exact same
        · exact ⟨_, rfl⟩
      · exact same
  | _ =>
      simp only [step]
      repeat' split
      all_goals exact same

/-- What is committed stays committed. -/
theorem commits_step (x : Exchange) (event : ExchangeEvent) :
    x.commits.length ≤ (x.step event).commits.length := by
  cases event with
  | conclude ctx =>
      simp only [step, List.length_append]
      omega
  | _ =>
      simp only [step]
      repeat' split
      all_goals exact Nat.le_refl _

/-- Only a task that gets the log counts as one that has had it. -/
theorem Ordered.begun_step (ordered : x.Ordered first) {event : ExchangeEvent}
    (other : event ≠ .begin) : (x.step event).begun = x.begun := by
  cases event with
  | begin => exact absurd rfl other
  | deliver around =>
      obtain same | ⟨u, m, underway, -, after⟩ := x.step_deliver around
      · rw [same]
      · rw [after, begun, begun, underway]
        rfl
  | conclude ctx =>
      obtain same | ⟨u, outcome, underway, -, -, after⟩ := ordered.step_conclude ctx
      · rw [same]
      · rw [after, begun, begun, underway, List.length_append]
        rfl
  | takeSnapshot ctx =>
      simp only [Exchange.step, begun, (x.cluster.step_takeSnapshot ctx).1.underway]
  | install ctx bytes =>
      cases idle : x.cluster.underway with
      | none =>
          simp only [Exchange.step, begun, idle, (Cluster.step_install idle ctx bytes).1.underway]
      | some u => simp only [Exchange.step, begun, idle]
  | traffic machine event =>
      simp only [Exchange.step, begun, (x.cluster.step_traffic machine event).1.underway]
  | _ =>
      simp only [Exchange.step]
      repeat' split
      all_goals rfl

/-- A task that gets the log is one more. -/
theorem begun_begin (x : Exchange) : (x.step .begin).begun ≤ x.begun + 1 := by
  simp only [step, Cluster.step]
  split
  · next idle _ =>
    rw [begun, begun, idle]
    exact Nat.le_refl _
  · exact Nat.le_succ _

/-- When all tasks in line have committed, no proposal waits and none is under way. -/
theorem Ordered.nothing_left (ordered : x.Ordered first) (all : x.line.length ≤ x.commits.length) :
    x.cluster.consensus.pending = [] ∧ x.cluster.underway = none := by
  constructor
  · have waiting := ordered.waiting
    rw [begun, List.drop_eq_nil_of_le (Nat.le_trans all (Nat.le_add_right ..))] at waiting
    exact List.map_eq_nil_iff.1 waiting
  · cases begun : x.cluster.underway with
    | none => rfl
    | some u =>
        obtain ⟨-, number, located⟩ := ordered.underway u begun
        have within := (List.getElem?_eq_some_iff.1 located).1
        omega

/-- So many tasks have had the log; and unless others have asked for it there are no locations, and
the disk is as it was. -/
structure Rests (place : Nat) (disk : Storage) (x : Exchange) : Prop where
  past : place ≤ x.commits.length
  quiet : x.line.length ≤ place → x.cluster.consensus.primary.configuration.locations = ∅ ∧
    x.cluster.consensus.storage = disk

/-- Past its place in line a stop that found the log at rest leaves it at rest, unless another task
has asked for the log. -/
theorem Rests.step {place : Nat} {disk : Storage} (held : x.Rests place disk)
    (ordered : x.Ordered first) (sound : x.cluster.consensus.primary.Sound) {event : ExchangeEvent}
    (ordinary : event.ordinary = true) : (x.step event).Rests place disk where
  past := Nat.le_trans held.past (commits_step x event)
  quiet short := by
    obtain ⟨more, line⟩ := line_step x event
    rw [line, List.length_append] at short
    have before := held.quiet (by omega)
    have past := held.past
    -- Nothing is in line or under way, so no entry reaches the primary.
    obtain ⟨served, idle⟩ := ordered.nothing_left (by omega)
    cases event with
    | enter number =>
        simp only [Exchange.step]
        repeat' split
        all_goals exact before
    | begin =>
        simp only [Exchange.step, Cluster.step, served, idle]
        exact before
    | deliver around =>
        simp only [Exchange.step, idle]
        exact before
    | conclude ctx =>
        simp only [Exchange.step, Cluster.step, idle]
        exact before
    | hear number =>
        simp only [Exchange.step]
        split <;> exact before
    | giveUp number => exact before
    | traffic machine event =>
        simp only [Exchange.step, Cluster.step]
        split
        · next m found =>
          cases machine with
          | zero =>
              obtain rfl : x.cluster.consensus.primary = m := Option.some.inj found
              have same := congrArg Replica.configuration (sound.serve event).2
              exact ⟨(congrArg Configuration.locations same).trans before.1, before.2⟩
          | succ n => exact before
        · exact before
    | _ => exact absurd ordinary Bool.false_ne_true

/-- Every step keeps the machines sound. -/
theorem holds_step (held : x.cluster.Holds Machine.Sound fun _ => True) (event : ExchangeEvent) :
    (x.step event).cluster.Holds Machine.Sound fun _ => True := by
  have next (event : ClusterEvent) : (x.cluster.step event).Holds Machine.Sound fun _ => True := by
    refine held.step Machine.lasting_sound ?_
    cases event <;> trivial
  cases event with
  | enter number =>
      simp only [step]
      split
      · split
        · exact held
        · exact next (.submit _)
      · exact held
  | begin => exact next .begin
  | deliver around =>
      simp only [step]
      split
      · split
        · exact next (.deliver around)
        · exact held
      · exact held
  | conclude ctx => exact next (.conclude ctx)
  | takeSnapshot ctx => exact next (.takeSnapshot ctx)
  | install ctx bytes =>
      simp only [step]
      split
      · exact held
      · exact next (.install ctx bytes)
  | traffic machine event => exact next (.traffic machine event)
  | propose bytes time => exact held
  | hear number =>
      simp only [step]
      split <;> exact held
  | giveUp number => exact held

/-- The tasks in line belong to different proposals. -/
theorem Ordered.line_le (ordered : x.Ordered first) : x.line.length ≤ x.proposals.length := by
  have within : x.line.map (·.1) ⊆ List.range x.proposals.length := by
    intro number member
    obtain ⟨e, listed, rfl⟩ := List.mem_map.1 member
    obtain ⟨p, found, -⟩ := ordered.known e listed
    exact List.mem_range.2 (List.getElem?_eq_some_iff.1 found).1
  have fewer := (ordered.once.subperm within).length_le
  rwa [List.length_map, List.length_range] at fewer

/-- A task is among the first ones in line just if its place is. -/
theorem Ordered.mem_take_iff (ordered : x.Ordered first) {number k place : Nat} {bytes : Bytes}
    (located : x.line[k]? = some (number, bytes)) :
    number ∈ (x.line.take place).map (·.1) ↔ k < place := by
  have here : (x.line.map (·.1))[k]? = some number := by rw [List.getElem?_map, located]; rfl
  rw [List.map_take]
  constructor
  · intro member
    obtain ⟨i, within, same⟩ := List.mem_take_iff_getElem.1 member
    have there : (x.line.map (·.1))[i]? = some number := by
      rw [← same]
      exact List.getElem?_eq_getElem _
    have bound := (List.getElem?_eq_some_iff.1 there).1
    have same := (List.getElem?_inj bound ordered.once).1 (there.trans here.symm)
    omega
  · intro before
    exact List.mem_of_getElem? ((List.getElem?_take_of_lt before).trans here)

end Exchange

/-! ### The stop -/

/-- A snapshot of a state lies on disk, at an index. -/
def Saved (state : StateSnapshot) (index : LogIndex) (disk : Storage) : Prop :=
  ∃ stored, disk.load = .ok (some stored) ∧ stored.index = index ∧
    StateSnapshot.ofBytes stored.stateBytes = .ok state

/-- A snapshot that is taken into a directory lies there with the state of the primary and the last
index. -/
theorem saved_of_takeSnapshot {c after : Consensus} {ctx : StepContext} {index : LogIndex}
    (sound : c.primary.Sound) (kept : c.storage ≠ .memory) (date : ctx.date.Valid)
    (taken : c.takeSnapshot ctx = .ok (index, after)) :
    Saved c.primary.configuration.state c.lastIndex after.storage := by
  obtain ⟨wrapped, wrap, written⟩ := Consensus.takeSnapshot_written kept taken
  obtain ⟨back, same, -, state⟩ := PersistedSnapshot.ofBytes_wrapped sound.fits date wrap
  exact ⟨wrapped, (Storage.load_write kept written).2 back, same, state⟩

namespace Closing

variable {s : Closing} {first : LogIndex} {r : Replica}

/-- What is known as far as the stop has come. `r` is what the primary had at first. -/
def Progress (r : Replica) (first : LogIndex) (x : Exchange) : StopStage → Prop
  | .running | .draining => x.Tracks r
  | .saving place => x.Tracks r ∧ place ≤ x.line.length ∧ x.begun ≤ place
  | .stopped place index disk =>
    x.Rests place disk ∧ place ≤ x.line.length ∧ index = first.onwards place ∧
      Saved (Exchange.follow r (x.line.take place)).configuration.state index disk
  | .failed => True

/-- What holds at every moment of a stop. -/
structure Kept (r : Replica) (first : LogIndex) (s : Closing) : Prop where
  ordered : s.exchange.Ordered first
  sound : s.exchange.cluster.Holds Machine.Sound fun _ => True
  refusing : s.stage = .running ∨ s.writeEnabled = false
  progress : Progress r first s.exchange s.stage

/-- At every moment of a stop the primary is sound. -/
theorem Kept.primary (held : s.Kept r first) : s.exchange.cluster.consensus.primary.Sound :=
  held.sound.machines _ List.mem_cons_self

/-- A change of the routing table of the primary keeps machines sound if it keeps the primary so. -/
theorem Kept.holds_mapTable (held : s.Kept r first) (change : Table → Table)
    (kept : ∀ m : Machine, m.Sound → Machine.Sound { m with table := change m.table }) :
    let consensus := (Node.mapTable s.node.control change).consensus
    ({ s.exchange.cluster with consensus } : Cluster).Holds Machine.Sound fun _ => True := by
  let site : Site := ⟨s.node.control, s.exchange.cluster.underway, s.exchange.cluster.loaded⟩
  have sound : site.cluster.Holds Machine.Sound fun _ => True := held.sound
  have changed := Site.holds_mapTable sound kept
  exact ⟨changed.machines, changed.pending, changed.underway⟩

/-- A write that is accepted is proposed, and nothing more. -/
theorem Kept.ask (held : s.Kept r first) (request : WriteRequest) :
    (s.step (.ask request)).Kept r first := by
  simp only [step]
  split
  · next entry prepared =>
    split
    · refine ⟨held.ordered.propose .., held.sound, held.refusing, ?_⟩
      have progress := held.progress
      dsimp only
      cases stage : s.stage with
      | saving place =>
          rw [stage] at progress
          exact ⟨⟨progress.1.replica, progress.1.kept⟩, progress.2⟩
      | stopped place index disk =>
          rw [stage] at progress
          exact ⟨⟨progress.1.past, progress.1.quiet⟩, progress.2⟩
      | failed => trivial
      | _ =>
          rw [stage] at progress
          exact ⟨progress.replica, progress.kept⟩
    · exact held
  · exact held

/-- What is permitted while a node stops is an ordinary event. -/
theorem ordinary_of_permits {event : ExchangeEvent} (allowed : s.permits event = true) :
    event.ordinary = true := by
  cases event <;> first | rfl | exact allowed

/-- What happens to proposals leaves what is known. -/
theorem Kept.exchange (held : s.Kept r first) (event : ExchangeEvent) :
    (s.step (.exchange event)).Kept r first := by
  simp only [step]
  split
  · next allowed =>
    have ordinary := ordinary_of_permits allowed
    refine ⟨held.ordered.step event, Exchange.holds_step held.sound event, held.refusing, ?_⟩
    have progress := held.progress
    obtain ⟨more, line⟩ := s.exchange.line_step event
    dsimp only
    cases stage : s.stage with
    | saving place =>
        rw [stage] at progress
        obtain ⟨tracks, within, begun⟩ := progress
        refine ⟨tracks.step held.ordered held.primary ordinary, ?_, ?_⟩
        · rw [line, List.length_append]
          exact Nat.le_add_right_of_le within
        · by_cases begins : event = .begin
          · -- Only a task before the stop is let on to the log.
            subst begins
            rw [permits, stage] at allowed
            exact Nat.le_trans s.exchange.begun_begin (of_decide_eq_true allowed)
          · rwa [held.ordered.begun_step begins]
    | stopped place index disk =>
        rw [stage] at progress
        obtain ⟨rests, within, last, saved⟩ := progress
        refine ⟨rests.step held.ordered held.primary ordinary, ?_, last, ?_⟩
        · rw [line, List.length_append]
          exact Nat.le_add_right_of_le within
        · rwa [line, List.take_append_of_le_length within]
    | failed => trivial
    | _ =>
        rw [stage] at progress
        exact progress.step held.ordered held.primary ordinary
  · exact held

/-- A stop that begins refuses writes from then on. -/
theorem Kept.beginStop (held : s.Kept r first) : (s.step .beginStop).Kept r first := by
  simp only [step]
  split
  · next running =>
    have progress := held.progress
    rw [running] at progress
    have changed := held.holds_mapTable (fun t => { t with stopping := true })
      fun _ => Machine.lasting_sound.stopping
    have aside : s.exchange.cluster.Aside (s.putNode s.node.beginStop).exchange.cluster :=
      ⟨rfl, rfl, rfl⟩
    exact ⟨held.ordered.aside aside s.exchange.histories, changed, Or.inr rfl,
      ⟨progress.replica, progress.kept⟩⟩
  · exact held

/-- A stop that asks for the log gets a place in line. -/
theorem Kept.awaitLog (held : s.Kept r first) : (s.step .awaitLog).Kept r first := by
  simp only [step]
  split
  · next draining =>
    have progress := held.progress
    have refusing := held.refusing
    rw [draining] at progress refusing
    exact ⟨held.ordered, held.sound, Or.inr (refusing.resolve_left (fun same => nomatch same)),
      progress, Nat.le_refl _, held.ordered.begun_le⟩
  · exact held

/-- The last snapshot is that of the entries whose tasks have had the log. -/
theorem Kept.finish (held : s.Kept r first) {ctx : StepContext} (date : ctx.date.Valid) :
    (s.step (.finish ctx)).Kept r first := by
  simp only [step]
  split
  · next place saving idle =>
    split
    · next turn =>
      have progress := held.progress
      have refusing := held.refusing
      rw [saving] at progress refusing
      have off : s.writeEnabled = false := refusing.resolve_left fun same => nomatch same
      obtain ⟨tracks, within, begun⟩ := progress
      -- The tasks that have had the log are just those before the stop.
      have all : s.exchange.commits.length = place := by
        rw [Exchange.begun, idle] at turn begun
        exact Nat.le_antisymm begun turn
      cases taken : s.exchange.cluster.consensus.takeSnapshot ctx with
      | error error =>
          have failed : s.node.finishStop ctx =
              (.error (.consensus (.snapshot error)), s.node) := by
            rw [Node.finishStop, node, taken]
          rw [failed]
          exact ⟨held.ordered, held.sound, Or.inr off, trivial⟩
      | ok result =>
          obtain ⟨index, consensus⟩ := result
          let n : Node :=
            { s.node with
              control := Node.mapTable { s.node.control with consensus } Table.shutdownPools }
          have done : s.node.finishStop ctx = (.ok index, n) := by
            rw [Node.finishStop, node, taken]
            rfl
          have saved := saved_of_takeSnapshot held.primary tracks.kept date taken
          have replica := congrArg Replica.configuration tracks.replica
          rw [Exchange.given_idle idle, all] at replica
          change s.exchange.cluster.consensus.primary.configuration = _ at replica
          rw [replica] at saved
          obtain ⟨rfl, storage, rfl⟩ := Consensus.takeSnapshot_spec taken
          have aside : s.exchange.cluster.Aside (s.putNode n).exchange.cluster := ⟨rfl, rfl, rfl⟩
          have changed := held.holds_mapTable Table.shutdownPools fun _ =>
            Machine.lasting_sound.shutdown
          rw [done]
          refine ⟨held.ordered.aside aside s.exchange.histories,
            ⟨changed.machines, changed.pending, changed.underway⟩, Or.inr off,
            ⟨Nat.le_of_eq all.symm, fun _ => ⟨?_, rfl⟩⟩, within, ?_, saved⟩
          · exact congrArg Configuration.locations (Table.configuration_cleared _)
          · exact held.ordered.last.trans (congrArg first.onwards all)
    · exact held
  · exact held

/-- Every event keeps what holds at every moment of a stop. -/
theorem Kept.step (held : s.Kept r first) {event : ClosingEvent} (dated : event.Dated) :
    (s.step event).Kept r first := by
  cases event with
  | ask request => exact held.ask request
  | exchange event => exact held.exchange event
  | beginStop => exact held.beginStop
  | awaitLog => exact held.awaitLog
  | finish ctx => exact held.finish dated

/-- Every run of a stop keeps what is known. -/
theorem Kept.run (held : s.Kept r first) {events : List ClosingEvent}
    (dated : ∀ event ∈ events, event.Dated) : (s.run events).Kept r first := by
  induction events generalizing s with
  | nil => exact held
  | cons event events ih =>
      exact ih (held.step (dated event List.mem_cons_self)) fun later member =>
        dated later (List.mem_cons_of_mem _ member)

/-- What holds at every moment of a stop holds before it. -/
theorem kept_start (config : Config) {c : ControlPlane}
    (sound : ∀ m ∈ c.consensus.machines, m.Sound) (alone : c.consensus.pending = [])
    (kept : c.consensus.storage ≠ .memory) :
    (start config c).Kept c.consensus.primary.replica c.consensus.lastIndex where
  ordered := Exchange.ordered_start alone
  sound := ⟨sound, fun _ _ => trivial, fun _ _ => trivial⟩
  refusing := Or.inl rfl
  progress := ⟨rfl, kept⟩

end Closing

/-! ### After a restart -/

/-- A node that finds a snapshot rebuilds its state and goes on from its index. -/
theorem Node.start_of_saved {state : StateSnapshot} {index : LogIndex} {disk : Storage}
    (saved : Saved state index disk) (config : Config) (ctx : StepContext) :
    ∃ n, (Node.build config disk).start ctx = (.ok (), n) ∧
      n.control.consensus.lastIndex = index ∧ n.control.consensus.primary.Sound ∧
      n.control.consensus.primary.configuration = Configuration.restored state := by
  obtain ⟨stored, loaded, rfl, read⟩ := saved
  let c := (Node.build config disk).control.consensus
  have fresh : c.primary.Sound := Machine.sound_fresh _ _
  obtain ⟨sound, replica⟩ := fresh.adopt (ctx.around 0) (StateSnapshot.fits_of_ofBytes read)
  have installed : c.installSnapshot ctx stored.stateBytes =
      .ok { c with primary := c.primary.adopt (ctx.around 0) state } := by
    rw [Consensus.installSnapshot, Consensus.restoreAll_of_read read, Machine.restore, read]
    rfl
  let resumed : Consensus :=
    { c with
      primary := c.primary.adopt (ctx.around 0) state
      lastIndex := stored.index
      lastSnapshotIndex := stored.index
      snapshot := some stored.stateBytes }
  have recovered : c.recover ctx = .ok (some stored.index, resumed) := by
    rw [Consensus.recover_of_load loaded, Consensus.resume, installed]
    rfl
  refine ⟨{ Node.build config disk with
    control := { (Node.build config disk).control with consensus := resumed } }, ?_, rfl, sound,
    congrArg Replica.configuration replica⟩
  rw [Node.start, recovered]

namespace Closing

/-- The entries whose tasks asked for the log before the stop did, with their indices. -/
def handed (first : LogIndex) (place : Nat) (s : Closing) : List Machine.Delivery :=
  (s.exchange.line.take place).mapIdx fun k e => { index := first.onwards (k + 1), bytes := e.2 }

/-- What a stop has kept that has returned an index, at a node that had consensus `c` at first. -/
structure Keeps (c : Consensus) (s : Closing) (place : Nat) (index : LogIndex) (disk : Storage) :
    Prop where
  last : index.val.toNat = c.lastIndex.val.toNat + place
  /-- Just the writes whose tasks asked for the log before the stop did have no greater index. -/
  acknowledged : ∀ number j, s.acknowledged? number = some j →
    (number ∈ (s.exchange.line.take place).map (·.1) ↔ j.val.toNat ≤ index.val.toNat)
  /-- Their entries are among those that make up the last snapshot. -/
  recorded : ∀ number j, s.acknowledged? number = some j → j.val.toNat ≤ index.val.toNat →
    ∃ p, s.exchange.proposals[number]? = some p ∧
      { index := j, bytes := p.bytes } ∈ s.handed c.lastIndex place
  /-- A node that starts from what is on disk has what these entries make up, but for the locations
  without hosts, and so all of it if there are none such. -/
  recovered : ∀ config ctx, ∃ n, (Node.build config disk).start ctx = (.ok (), n) ∧
    n.control.consensus.lastIndex = index ∧
    n.control.consensus.primary.configuration =
      (c.primary.receive (·.here) (s.handed c.lastIndex place)).configuration.served ∧
    ((c.primary.receive (·.here) (s.handed c.lastIndex place)).Hosted →
      n.control.consensus.primary.state =
          (c.primary.receive (·.here) (s.handed c.lastIndex place)).state ∧
        n.control.consensus.primary.table.services =
          (c.primary.receive (·.here) (s.handed c.lastIndex place)).table.services)
  /-- Unless a task asks for the log later there is no pool, and what is on disk stays there. -/
  rests : s.exchange.line.length ≤ place →
    (∀ pattern, s.exchange.cluster.consensus.primary.table.pool? pattern = none) ∧
      s.exchange.cluster.consensus.storage = disk

variable {s : Closing} {c : Consensus} {place : Nat} {index : LogIndex} {disk : Storage}

/-- What a replica makes of the entries handed over is what it makes of the tasks in line. -/
theorem follow_handed (r : Replica) (first : LogIndex) (place : Nat) (s : Closing) :
    r.followAll ((s.handed first place).map (·.bytes)) =
      Exchange.follow r (s.exchange.line.take place) := by
  have bytes : (s.handed first place).map (·.bytes) = (s.exchange.line.take place).map (·.2) := by
    apply List.ext_getElem <;> simp [handed]
  rw [bytes, Replica.followAll, List.foldl_map, Exchange.follow]

/-- An acknowledged write has a place in line, and the index that belongs to this place. -/
theorem located_of_acknowledged {number : Nat} {j : LogIndex} {first : LogIndex}
    (ordered : s.exchange.Ordered first) (told : s.acknowledged? number = some j) :
    ∃ (k : Nat) (p : Proposal), s.exchange.line[k]? = some (number, p.bytes) ∧
      s.exchange.proposals[number]? = some p ∧ j = first.onwards (k + 1) := by
  obtain ⟨p, found, told⟩ := Option.bind_eq_some_iff.1 told
  obtain ⟨answer, answered, told⟩ := Option.bind_eq_some_iff.1 told
  cases answer with
  | error error => cases told
  | ok done =>
      obtain ⟨k, committed, located⟩ := ordered.answered number p done found answered
      refine ⟨k, p, located, found, ?_⟩
      rw [← ordered.committed k done committed]
      rw [ControlPlane.verdict] at told
      split at told
      · exact (Option.some.inj told).symm
      · cases told

/-- A stop that has returned an index has kept what was handed over to it. -/
theorem Kept.keeps (held : s.Kept c.primary.replica c.lastIndex)
    (sound : c.primary.Sound)
    (fits : c.lastIndex.val.toNat + s.exchange.proposals.length < 2 ^ 64)
    (stopped : s.stage = .stopped place index disk) : s.Keeps c place index disk := by
  have progress := held.progress
  rw [stopped] at progress
  obtain ⟨rests, within, rfl, saved⟩ := progress
  have fewer := held.ordered.line_le
  have last : (c.lastIndex.onwards place).val.toNat = c.lastIndex.val.toNat + place :=
    LogIndex.toNat_onwards (by omega)
  -- The snapshot covers an index just if its place in line comes before the one of the snapshot.
  have early {k : Nat} {e : Nat × Bytes} (located : s.exchange.line[k]? = some e) :
      (c.lastIndex.onwards (k + 1)).val.toNat ≤ (c.lastIndex.onwards place).val.toNat ↔
        k < place := by
    have position := (List.getElem?_eq_some_iff.1 located).1
    rw [last, LogIndex.toNat_onwards (by omega)]
    omega
  exact {
    last
    acknowledged := fun number j told => by
      obtain ⟨k, p, located, -, rfl⟩ := located_of_acknowledged held.ordered told
      exact (held.ordered.mem_take_iff located).trans (early located).symm
    recorded := fun number j told before => by
      obtain ⟨k, p, located, found, rfl⟩ := located_of_acknowledged held.ordered told
      rw [early located] at before
      refine ⟨p, found, List.mem_of_getElem? (i := k) ?_⟩
      rw [handed, List.getElem?_mapIdx, List.getElem?_take_of_lt before, located]
      rfl
    recovered := fun config ctx => by
      obtain ⟨n, started, index, primary, restored⟩ := Node.start_of_saved saved config ctx
      obtain ⟨upTo, replica⟩ := sound.receive (·.here) (s.handed c.lastIndex place)
      rw [follow_handed] at replica
      rw [← congrArg Replica.configuration replica] at restored
      have served := restored.trans
        (Configuration.restored_state_eq_served upTo.table.configured upTo.named)
      refine ⟨n, started, index, served, fun hosted => ?_⟩
      have same := served.trans (Configuration.served_of_hosted upTo.table.configured
        fun pattern l found => hosted l (Dict.mem_values.2 ⟨pattern, found⟩))
      exact ⟨congrArg Configuration.state same,
        upTo.table.services_eq primary.table (congrArg Configuration.locations same)⟩
    rests := fun short => by
      obtain ⟨empty, disk⟩ := rests.quiet short
      refine ⟨fun pattern => ?_, disk⟩
      have located := held.primary.table.isSome_pool? pattern
      rw [show s.exchange.cluster.consensus.primary.table.locations = ∅ from empty] at located
      exact Option.isNone_iff_eq_none.1 (Option.isSome_eq_false_iff.1 located) }

/-- However writes come between the steps of a stop: none is accepted once the stop has begun. When
the stop returns an index, the last snapshot holds just the writes whose tasks asked for the log
before the stop did; those of them that are acknowledged, now or later, have no greater index, and
a node that starts from what is on disk has all of them. -/
theorem stop_keeps_writes (config : Config) (storage : Storage)
    (followers : List Cluster.MachineSetup) (earlier : List SiteEvent) (events : List ClosingEvent)
    (quiet : ((Site.fresh config storage followers).run earlier).Quiet)
    (kept : ((Site.fresh config storage followers).run earlier).control.consensus.storage ≠ .memory)
    (dated : ∀ event ∈ events, event.Dated) :
    let before := ((Site.fresh config storage followers).run earlier).control
    let s := (start config before).run events
    (s.stage ≠ .running → ∀ request, s.step (.ask request) = s) ∧
      (before.consensus.lastIndex.val.toNat + s.exchange.proposals.length < 2 ^ 64 →
        ∀ place index disk, s.stage = .stopped place index disk →
          s.Keeps before.consensus place index disk) := by
  intro before s
  have sound : ((Site.fresh config storage followers).run earlier).cluster.Holds Machine.Sound
      fun _ => True :=
    Site.holds_run (Site.holds_fresh config storage followers _ Machine.sound_fresh)
      Machine.lasting_sound fun event _ => Site.within_true event
  have held : s.Kept before.consensus.primary.replica before.consensus.lastIndex :=
    (kept_start config sound.machines quiet.alone kept).run dated
  refine ⟨fun begun request => ?_, fun fits place index disk stopped =>
    held.keeps (sound.machines _ List.mem_cons_self) fits stopped⟩
  have off := held.refusing.resolve_left begun
  simp only [step, off]
  split <;> rfl

/-- A node with an empty directory for its snapshots. -/
def sampleSite : Site := (Site.fresh {} (.folder "/var/snapshots" .absent) []).run []

/-- Two writes are under way when the stop begins, and a third one is refused. -/
def sampleRun : List ClosingEvent :=
  [.ask (.createPool ⟨"/a", ["http://[::1]:80"], "round-robin"⟩),
   .ask (.mutateAcl .insert "10.0.0.7/24"), .exchange (.enter 1), .exchange .begin, .beginStop,
   .exchange (.enter 0), .ask (.removePool "/a"), .awaitLog, .exchange (.deliver {}), .finish {},
   .exchange (.conclude {}), .exchange (.hear 1), .exchange .begin, .exchange (.deliver {}),
   .exchange (.conclude {}), .finish {}, .exchange (.hear 0)]

/-- The node after the sample run. -/
def sampleStop : Closing := (start {} sampleSite.control).run sampleRun

/-- In the sample run two writes are acknowledged after the stop has begun, one of them after it has
returned, and both are there after a restart. -/
theorem stop_keeps_writes_sampleRun :
    sampleStop.acknowledged? 1 = some ⟨1⟩ ∧ sampleStop.acknowledged? 0 = some ⟨2⟩ ∧
      ∃ disk, sampleStop.stage = .stopped 2 ⟨2⟩ disk ∧
        sampleStop.Keeps sampleSite.control.consensus 2 ⟨2⟩ disk ∧
        (sampleSite.control.consensus.primary.receive (·.here)
          (sampleStop.handed sampleSite.control.consensus.lastIndex 2)).Hosted := by
  have quiet : sampleSite.Quiet := ⟨rfl, rfl⟩
  have dated : ∀ event ∈ sampleRun, event.Dated := by
    simp [sampleRun, ClosingEvent.Dated, Timestamp.valid_epoch]
  obtain ⟨-, keeps⟩ := stop_keeps_writes {} (.folder "/var/snapshots" .absent) [] [] sampleRun quiet
    (by decide) dated
  obtain ⟨returned, first, second, hosted⟩ :
      sampleStop.stage.returned?.map (·.1) = some ⟨2⟩ ∧ sampleStop.acknowledged? 1 = some ⟨1⟩ ∧
        sampleStop.acknowledged? 0 = some ⟨2⟩ ∧
        (sampleSite.control.consensus.primary.receive (·.here)
          (sampleStop.handed sampleSite.control.consensus.lastIndex 2)).Hosted := by
    decide +kernel
  cases stopped : sampleStop.stage with
  | stopped place index disk =>
      rw [stopped] at returned
      obtain rfl := Option.some.inj returned
      have kept := keeps (by decide +kernel) place ⟨2⟩ disk stopped
      have last : 2 = 0 + place := kept.last
      obtain rfl : place = 2 := by omega
      exact ⟨first, second, disk, rfl, kept, hosted⟩
  | _ =>
      rw [stopped] at returned
      exact nomatch returned

/-- A pool is asked for before the stop begins, but its task is slower than the stop. -/
def lateStop : Closing :=
  (start {} sampleSite.control).run
    [.ask (.createPool ⟨"/a", ["http://[::1]:80"], "round-robin"⟩), .beginStop, .awaitLog,
     .finish {}, .exchange (.enter 0), .exchange .begin, .exchange (.deliver {}),
     .exchange (.conclude {}), .exchange (.hear 0)]

/-- The events of a write, the proposal for which has a number, that nothing comes between. -/
def writeEvents (number : Nat) (request : WriteRequest) : List ClosingEvent :=
  .ask request :: [ExchangeEvent.enter number, .begin, .deliver {}, .conclude {}, .hear number].map
    .exchange

/-- A pool has lost its host and got a limiter when the stop begins. -/
def hostlessStop : Closing :=
  (start {} sampleSite.control).run
    (writeEvents 0 (.createPool ⟨"/a", ["http://[::1]:80"], "round-robin"⟩) ++
      writeEvents 1 (.removeHost "/a" "[::1]:80") ++
      writeEvents 2
        (.setRateLimiter { pattern := "/a", path := "/x", kind := "qps", volume := 4 }) ++
      [.beginStop, .awaitLog, .finish {}])

/-- A write may be acknowledged with a greater index than the stop has returned, and register a pool
after the pools were shut down. And a restart does not bring back an acknowledged limiter of a pool
that has no host. -/
theorem stop_may_lose_writes :
    (lateStop.stage.returned?.map (·.1) = some ⟨0⟩ ∧ lateStop.acknowledged? 0 = some ⟨1⟩ ∧
        (lateStop.exchange.cluster.consensus.primary.table.pool? "/a").isSome = true) ∧
      hostlessStop.stage.returned?.map (·.1) = some ⟨3⟩ ∧
      hostlessStop.acknowledged? 2 = some ⟨3⟩ ∧
      hostlessStop.stage.returned?.map (fun r =>
        ((Node.build {} r.2).start {}).2.control.consensus.primary.state.routing.limiters.keys) =
          some [] := by
  decide +kernel

end Closing

end ClusterGateway
