import ClusterGateway.Proofs.Limit.Wakeups

/-! # A gate step by step

The steps of a gate are runs of moves in which nobody else moves. So a gate that is used step by step
loses no wake-up either: when no call is woken and there is room, no call waits.
-/

namespace ClusterGateway

namespace Crowd

variable {c : Crowd} {t : Nat}

theorem run_release (c : Crowd) :
    c.run [.giveBack, .wakeOne] = { c with gate := c.gate.release.2 } := rfl

/-- Changing the volume and waking all calls is one step of the gate. -/
theorem run_setVolume (c : Crowd) (volume : Int) :
    c.run [.change volume, .wakeAll] =
      { c with
        gate := (c.gate.setVolume volume).2
        calls := c.calls.map fun e => (e.1, e.2.hear) } := by
  rw [Gate.setVolume_snd]
  rfl

/-- The moves of a call that has come or was woken, up to where it has entered or waits. A wake-up
that was stored sends it round once more. -/
def attemptMoves (t : Nat) : List Move :=
  [.enlist t, .look t, .leave t, .resume t, .enlist t, .look t, .leave t]

/-- What a call makes of a gate when it looks is what its moves make of it. -/
theorem run_attempt (found : c.call? t = some ⟨.coming, false⟩) (absent : t ∉ c.gate.places) :
    c.run (attemptMoves t) = c.put (c.gate.attempt t).2 t
      (if (c.gate.attempt t).1 then none else some ⟨.waiting, false⟩) := by
  rw [Gate.places, List.mem_append, not_or] at absent
  have queue : c.gate.waiting.filter (fun u => !decide (u = t)) = c.gate.waiting :=
    List.filter_eq_self.2 fun u queued => by simpa using ne_of_mem_of_not_mem queued absent.1
  have woken : c.gate.woken.filter (fun e => !decide (e.1 = t)) = c.gate.woken :=
    List.filter_eq_self.2 fun e member => by
      simpa using ne_of_mem_of_not_mem (List.mem_map_of_mem member) absent.2
  have unwoken : (t, WakeCause.slot) ∉ c.gate.woken := fun member =>
    absent.2 (List.mem_map.2 ⟨_, member, rfl⟩)
  -- A call that has entered leaves; one that has not goes round again if it used a stored wake-up.
  by_cases room : c.gate.volume = 0 ∨ c.gate.inUse < c.gate.volume <;>
  cases stored : c.gate.stored <;>
  simp [run, attemptMoves, step, step?, Crowd.dismiss, found, Gate.attempt, Gate.take?,
    Gate.HasRoom, Gate.abandon, room, stored, queue, woken, unwoken, absent.2]

end Crowd

/-- A step of a gate, which a limiter makes without anybody in between. -/
inductive GateStep where
  | take
  /-- A call comes, or looks again after it was woken. -/
  | attempt (ticket : Nat)
  | release
  | setVolume (volume : Int)
  | abandon (ticket : Nat)
deriving DecidableEq, Repr

/-- Makes a step; a call that is in the queue does not look before it is woken. -/
def Gate.perform (g : Gate) : GateStep → Gate
  | .take => g.take?.getD g
  | .attempt t => if t ∈ g.waiting then g else (g.attempt t).2
  | .release => g.release.2
  | .setVolume volume => (g.setVolume volume).2
  | .abandon t => (g.abandon t).2

/-- The moves that a step consists of. -/
def GateStep.moves : GateStep → List Move
  | .take => [.take]
  | .attempt t => .arrive t :: .resume t :: Crowd.attemptMoves t
  | .release => [.giveBack, .wakeOne]
  | .setVolume volume => [.change volume, .wakeAll]
  | .abandon t => [.giveUp t]

namespace Crowd

variable {c : Crowd} {t : Nat}

/-- Between two steps every call waits. -/
structure Settled (c : Crowd) : Prop where
  sound : c.Sound
  freed : c.freed = 0
  changed : c.changed = 0
  waits : ∀ {t call}, c.call? t = some call → call = ⟨.waiting, false⟩

theorem settled_empty : Settled {} :=
  ⟨sound_empty, rfl, rfl, fun found => absurd found (by simp [call?])⟩

/-- Between two steps just the waiting calls have places. -/
theorem Settled.mem_places (settled : c.Settled) :
    t ∈ c.gate.places ↔ c.call? t = some ⟨.waiting, false⟩ := by
  refine (settled.sound.placed t).trans ⟨?_, fun found => ⟨_, found, by simp, rfl⟩⟩
  rintro ⟨call, found, -⟩
  exact settled.waits found ▸ found

/-- Between two steps a ticket without a call has no place. -/
theorem Settled.not_mem_places (settled : c.Settled) (absent : c.call? t = none) :
    t ∉ c.gate.places := by
  rw [settled.mem_places, absent]
  simp

/-- A call that is in the queue cannot move. -/
theorem Settled.run_of_queued (settled : c.Settled) (queued : t ∈ c.gate.waiting) :
    c.run (GateStep.attempt t).moves = c := by
  have found := settled.mem_places.1 (List.mem_append_left _ queued)
  have unwoken : t ∉ c.gate.woken.map (·.1) := fun woken =>
    (List.nodup_append.1 settled.sound.once).2.2 t queued t woken rfl
  simp [run, GateStep.moves, attemptMoves, step, step?, found, unwoken]

/-- A call that comes, or was woken, moves as far as it can. -/
theorem Settled.run_of_unqueued (settled : c.Settled) (unqueued : t ∉ c.gate.waiting) :
    c.run (GateStep.attempt t).moves = c.put (c.gate.attempt t).2 t
      (if (c.gate.attempt t).1 then none else some ⟨.waiting, false⟩) := by
  let arrived := c.put (c.gate.without t) t (some ⟨.coming, false⟩)
  have begun : (c.step (.arrive t)).step (.resume t) = arrived := by
    cases found : c.call? t with
    | none =>
        have first : c.step (.arrive t) = arrived := by
          have absent : t ∉ c.gate.places := settled.not_mem_places found
          simp [step, step?, found, arrived, Gate.without_of_absent absent]
        rw [first]
        simp [step, step?, arrived]
    | some call =>
        obtain rfl := settled.waits found
        have woken : t ∈ c.gate.woken.map (·.1) :=
          (List.mem_append.1 (settled.mem_places.2 found)).resolve_left unqueued
        have first : c.step (.arrive t) = c := by simp [step, step?, found]
        rw [first]
        simp only [step, step?, found, woken, or_true, if_true, Option.getD_some, arrived,
          Gate.without_of_unqueued unqueued]
  have absent : t ∉ arrived.gate.places := by simp [arrived, Gate.places_without]
  rw [GateStep.moves, run, List.foldl_cons, List.foldl_cons, begun, ← run,
    run_attempt (by simp [arrived]) absent]
  simp only [arrived, gate_put, put_put, Gate.attempt_without unqueued]

/-- The moves of a step make of the gate what the step makes of it. -/
theorem Settled.perform (settled : c.Settled) (s : GateStep) :
    (c.run s.moves).Settled ∧ (c.run s.moves).gate = c.gate.perform s := by
  have sound := settled.sound.run s.moves
  cases s with
  | take =>
      have whole : c.run [.take] = { c with gate := c.gate.perform .take } := by
        change ((c.gate.take?.map fun gate => { c with gate }).getD c) = _
        rw [Gate.perform]
        cases c.gate.take? <;> rfl
      rw [GateStep.moves, whole] at sound ⊢
      exact ⟨⟨sound, settled.freed, settled.changed, settled.waits⟩, rfl⟩
  | attempt t =>
      -- A call that waits already does not come a second time.
      by_cases queued : t ∈ c.gate.waiting
      · rw [settled.run_of_queued queued, Gate.perform, if_pos queued]
        exact ⟨settled, rfl⟩
      · rw [settled.run_of_unqueued queued] at sound ⊢
        rw [Gate.perform, if_neg queued]
        refine ⟨⟨sound, settled.freed, settled.changed, fun {u call} found => ?_⟩, rfl⟩
        rw [call?_put] at found
        split at found
        · split at found
          · exact absurd found (by simp)
          · exact (Option.some.inj found).symm
        · exact settled.waits found
  | release =>
      rw [GateStep.moves, run_release] at sound ⊢
      exact ⟨⟨sound, settled.freed, settled.changed, settled.waits⟩, rfl⟩
  | setVolume volume =>
      rw [GateStep.moves, run_setVolume] at sound ⊢
      refine ⟨⟨sound, settled.freed, settled.changed, fun {u call} found => ?_⟩, rfl⟩
      have heard := call?_hear c (c.gate.setVolume volume).2 c.changed u
      rw [found] at heard
      obtain ⟨before, known, rfl⟩ := Option.map_eq_some_iff.1 heard.symm
      rw [settled.waits known]
      rfl
  | abandon t =>
      cases found : c.call? t with
      | none =>
          have absent : t ∉ c.gate.places := settled.not_mem_places found
          have same : c.run (GateStep.abandon t).moves = c := by
            simp [run, GateStep.moves, step, step?, found]
          rw [same, Gate.perform, Gate.abandon_of_absent absent]
          exact ⟨settled, rfl⟩
      | some call =>
          have gone : c.run (GateStep.abandon t).moves = c.dismiss t := by
            simp [run, GateStep.moves, step, step?, found, settled.waits found]
          rw [gone] at sound ⊢
          refine ⟨⟨sound, settled.freed, settled.changed, fun {u call} known => ?_⟩, rfl⟩
          rw [Crowd.dismiss, call?_put] at known
          split at known
          · exact absurd known (by simp)
          · exact settled.waits known

/-- The moves of steps make of the gate what the steps make of it. -/
theorem Settled.run (settled : c.Settled) (steps : List GateStep) :
    (c.run (steps.flatMap GateStep.moves)).Settled ∧
      (c.run (steps.flatMap GateStep.moves)).gate = steps.foldl Gate.perform c.gate := by
  induction steps generalizing c with
  | nil => exact ⟨settled, rfl⟩
  | cons s steps ih =>
      obtain ⟨kept, same⟩ := settled.perform s
      rw [List.flatMap_cons, List.foldl_cons, Crowd.run, List.foldl_append, ← same]
      exact ih kept

end Crowd

/-- A gate that is used step by step loses no wake-up: when no woken call is still to look and there
is room, no call waits. -/
theorem Gate.waiting_of_room (steps : List GateStep)
    (looked : (steps.foldl Gate.perform {}).woken = [])
    (room : (steps.foldl Gate.perform {}).HasRoom) :
    (steps.foldl Gate.perform {}).waiting = [] := by
  obtain ⟨settled, same⟩ := Crowd.settled_empty.run steps
  change _ = steps.foldl Gate.perform {} at same
  rw [← same] at looked room ⊢
  rw [List.eq_nil_iff_forall_not_mem]
  intro t queued
  have found := settled.mem_places.1 (List.mem_append_left _ queued)
  refine settled.sound.full_of_quiet (Crowd.quiet_iff.2 ⟨settled.freed, settled.changed, ?_⟩)
    found room
  intro u call known
  rw [looked]
  exact ⟨settled.waits known, List.not_mem_nil⟩

end ClusterGateway
