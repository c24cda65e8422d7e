import ClusterGateway.Simulation.Service
import Mathlib.Logic.Function.Basic
import Mathlib.Order.Monotone.Basic
import Mathlib.Data.Nat.Find

/-! # A drain comes to its end

The number of requests under way goes up and down as it likes while someone waits for it to become
zero, and it may be zero between two looks without anyone seeing it. What ends the wait in any case
is the clock, which goes on by a pause at least from each look to the next. So the number of looks
is bounded by the time that is granted, and the answer tells which came first: a look that found
nothing under way, or one that found something after the time was over.
-/

namespace ClusterGateway

/-- The nanoseconds that a wait sleeps between two looks. -/
def Drain.rest : Nat := Drain.pause * Drain.nanos

/-- What happens around someone who waits for the end of the requests under way. Times are in
nanoseconds. A look reads the number of requests, then the clock, and then the number again for the
log, and each reading has its own time. -/
structure DrainCourse where
  /-- The requests under way at a time. -/
  underWay : Nat → Nat
  begun : Nat
  /-- When each look reads the number of requests. -/
  counted : Nat → Nat
  /-- When it reads the clock. -/
  timed : Nat → Nat
  /-- When it reads the number that goes to the log. -/
  logged : Nat → Nat
  begun_le : begun ≤ counted 0
  counted_le : ∀ look, counted look ≤ timed look
  timed_le : ∀ look, timed look ≤ logged look
  logged_le : ∀ look, logged look ≤ counted (look + 1)
  /-- The clock goes on by the pause at least. -/
  rested : ∀ look, counted look + Drain.rest ≤ counted (look + 1)

/-- How far a wait has come. -/
structure DrainProgress where
  looks : Nat := 0
  /-- The number of requests that was logged last. -/
  known : Nat
  /-- What the wait answers, once it is over. -/
  result : Option Bool := none
deriving DecidableEq, Repr

namespace DrainCourse

variable {c : DrainCourse} {granted last : Nat}

/-- The number of requests that a look finds. -/
def seen (c : DrainCourse) (look : Nat) : Nat := c.underWay (c.counted look)

/-- The time since the wait began, as a look reads it. -/
def elapsed (c : DrainCourse) (look : Nat) : Nat := c.timed look - c.begun

/-- A look finds something under way although the time is over. -/
def Late (c : DrainCourse) (granted look : Nat) : Prop :=
  0 < c.seen look ∧ granted < c.elapsed look

def verdict (c : DrainCourse) (granted look : Nat) : DrainStep :=
  Drain.verdict (c.seen look) (c.elapsed look) granted

/-- Takes the next look, if the wait is not over. -/
def advance (c : DrainCourse) (granted : Nat) (w : DrainProgress) : DrainProgress :=
  if w.result.isSome then w
  else
    match c.verdict granted w.looks with
    | .drained => { w with looks := w.looks + 1, result := some true }
    | .gaveUp => { w with looks := w.looks + 1, result := some false }
    | .lookAgain => { w with looks := w.looks + 1, known := c.underWay (c.logged w.looks) }

/-- A wait that has been given a number of looks. -/
def wait (c : DrainCourse) (granted : Nat) : Nat → DrainProgress
  | 0 => { known := c.underWay c.begun }
  | looks + 1 => c.advance granted (c.wait granted looks)

/-! ### One look -/

/-- A look finds the node drained just if it sees nothing in flight. -/
theorem verdict_eq_drained_iff {look : Nat} :
    c.verdict granted look = .drained ↔ c.seen look = 0 := by
  rw [verdict, Drain.verdict]
  split
  · next none => simp [none]
  · next some => split <;> simp [some]

/-- A look gives up just if it comes too late and something is still in flight. -/
theorem verdict_eq_gaveUp_iff {look : Nat} :
    c.verdict granted look = .gaveUp ↔ c.Late granted look := by
  rw [verdict, Drain.verdict, Late, Nat.pos_iff_ne_zero]
  split
  · next none => simp [none]
  · next some => split <;> simp_all

/-- A look that leads to another one finds something under way, and in time. -/
theorem inTime_of_again {look : Nat} (again : c.verdict granted look = .lookAgain) :
    c.seen look ≠ 0 ∧ ¬ c.Late granted look := by
  rw [← verdict_eq_gaveUp_iff, Ne, ← verdict_eq_drained_iff, again]
  decide

/-- The clock has gone on by one pause for each look. -/
theorem rest_mul_le_elapsed (c : DrainCourse) (look : Nat) :
    look * Drain.rest ≤ c.elapsed look := by
  have counted : c.begun + look * Drain.rest ≤ c.counted look := by
    induction look with
    | zero => simpa using c.begun_le
    | succ look ih =>
        have rested := c.rested look
        rw [Nat.succ_mul]
        omega
  have timed := c.counted_le look
  rw [elapsed]
  omega

/-- Some look is the last one, and none comes later than the first after the time is over. -/
theorem exists_last (c : DrainCourse) (granted : Nat) :
    ∃ last ≤ granted / Drain.rest + 1, c.verdict granted last ≠ .lookAgain ∧
      ∀ look < last, c.verdict granted look = .lookAgain := by
  have stops : c.verdict granted (granted / Drain.rest + 1) ≠ .lookAgain := by
    have late : granted < c.elapsed (granted / Drain.rest + 1) := by
      refine Nat.lt_of_lt_of_le ?_ (c.rest_mul_le_elapsed _)
      rw [Nat.mul_comm]
      exact Nat.lt_mul_div_succ granted (by decide)
    intro again
    by_cases none : c.seen (granted / Drain.rest + 1) = 0
    · rw [verdict_eq_drained_iff.2 none] at again
      exact absurd again (by decide)
    · rw [verdict_eq_gaveUp_iff.2 ⟨Nat.pos_of_ne_zero none, late⟩] at again
      exact absurd again (by decide)
  have ends : ∃ look, c.verdict granted look ≠ .lookAgain := ⟨_, stops⟩
  exact ⟨Nat.find ends, Nat.find_min' ends stops, Nat.find_spec ends,
    fun look before => not_not.1 (Nat.find_min ends before)⟩

/-! ### The wait -/

/-- As long as each look leads to another one, the wait goes on. -/
theorem wait_of_lookAgain {looks : Nat}
    (again : ∀ look < looks, c.verdict granted look = .lookAgain) :
    (c.wait granted looks).looks = looks ∧ (c.wait granted looks).result = none := by
  induction looks with
  | zero => exact ⟨rfl, rfl⟩
  | succ looks ih =>
      obtain ⟨count, open_⟩ := ih fun look before => again look (Nat.lt_succ_of_lt before)
      rw [wait, advance, count, again looks (Nat.lt_succ_self looks), open_]
      exact ⟨rfl, rfl⟩

/-- The first look that leads to no other one ends the wait for good. -/
theorem wait_of_last (again : ∀ look < last, c.verdict granted look = .lookAgain)
    (result : Bool) (verdict : c.verdict granted last = bif result then .drained else .gaveUp)
    {looks : Nat} (enough : last < looks) :
    (c.wait granted looks).looks = last + 1 ∧ (c.wait granted looks).result = some result := by
  induction looks, enough using Nat.le_induction with
  | base =>
      obtain ⟨count, open_⟩ := wait_of_lookAgain again
      rw [wait, advance, open_, count, verdict]
      cases result <;> exact ⟨rfl, rfl⟩
  | succ looks _ ih =>
      rw [wait, advance, ih.2]
      exact ih

end DrainCourse

/-! ### The drain of a simulation -/

namespace Simulation

variable {s : Simulation}

/-- Taking in a turn does not change the time that a drain may take. -/
theorem drainTime_takeIn (s : Simulation) (machine ticket : Nat) (turn : Turn) :
    (s.takeIn machine ticket turn).drainTime = s.drainTime := by
  rw [takeIn]
  cases turn.admission <;> rfl

/-- A waiting request that goes on does not change the time that a drain may take. -/
theorem drainTime_resume (s : Simulation) (machine ticket : Nat)
    (step : Table → Option (Turn × Table)) :
    (s.resume machine ticket step).drainTime = s.drainTime := by
  rw [resume]
  split
  · rfl
  · exact drainTime_takeIn _ _ _ _

/-- A probe that starts does not change the time that a drain may take. -/
theorem drainTime_startProbe (s : Simulation) (machine serial loop : Nat) :
    (s.startProbe machine serial loop).drainTime = s.drainTime := by
  rw [startProbe]
  split
  · rfl
  · split <;> rfl

theorem drainTime_endProbe (s : Simulation) (machine serial loop : Nat) :
    (s.endProbe machine serial loop).drainTime = s.drainTime := by
  rw [endProbe]
  split
  · rfl
  · dsimp only
    split <;> rfl

/-- Whatever happens, the time that a drain may take stays the same. -/
theorem drainTime_happen (s : Simulation) (alarm : Alarm) :
    (s.happen alarm).drainTime = s.drainTime := by
  cases alarm with
  | look machine ticket => exact drainTime_resume s machine ticket _
  | deadline machine ticket => exact drainTime_resume s machine ticket _
  | check machine serial loop => exact drainTime_startProbe s machine serial loop
  | verdict machine serial loop => exact drainTime_endProbe s machine serial loop

theorem drainTime_runWhile (more : Simulation → Bool) (limit fuel : Nat) (s : Simulation) :
    (runWhile more limit fuel s).drainTime = s.drainTime := by
  induction fuel generalizing s with
  | zero => rfl
  | succ fuel ih =>
      rw [runWhile]
      split
      · split
        · exact (ih _).trans (drainTime_happen _ _)
        · split
          · exact ih _
          · rfl
      · rfl

theorem drainTime_advance (s : Simulation) (time : Nat) :
    (s.advance time).drainTime = s.drainTime := drainTime_runWhile _ _ _ s

/-- Letting time pass moves the clock on by that time at least. -/
theorem now_add_le_advance (s : Simulation) (time : Nat) :
    s.agenda.now + time ≤ (s.advance time).agenda.now := Nat.le_max_right _ _

/-- A simulation that has been given a number of pauses. -/
def paused (s : Simulation) (pauses : Nat) : Simulation := (·.advance Drain.pause)^[pauses] s

theorem paused_succ (s : Simulation) (pauses : Nat) :
    s.paused (pauses + 1) = (s.paused pauses).advance Drain.pause :=
  Function.iterate_succ_apply' _ _ _

theorem drainTime_paused (s : Simulation) (pauses : Nat) :
    (s.paused pauses).drainTime = s.drainTime := by
  induction pauses with
  | zero => rfl
  | succ pauses ih => rw [paused_succ, drainTime_advance, ih]

/-- A pause lasts at least as long as it should. -/
theorem now_paused_succ (s : Simulation) (pauses : Nat) :
    (s.paused pauses).agenda.now + Drain.pause ≤ (s.paused (pauses + 1)).agenda.now := by
  rw [paused_succ]
  exact now_add_le_advance _ _

/-- The clock moves on with every pause. -/
theorem strictMono_now_paused (s : Simulation) :
    StrictMono fun pauses => (s.paused pauses).agenda.now :=
  strictMono_nat_of_lt_succ fun pauses =>
    Nat.lt_of_lt_of_le (Nat.lt_add_of_pos_right (by decide)) (s.now_paused_succ pauses)

theorem now_le_paused (s : Simulation) (pauses : Nat) :
    s.agenda.now ≤ (s.paused pauses).agenda.now :=
  s.strictMono_now_paused.monotone (Nat.zero_le pauses)

/-- The time at which a look of a drain reads the clock, in nanoseconds. The first one is the next
instant after the beginning. -/
def lookTime (s : Simulation) (look : Nat) : Nat :=
  s.agenda.now * Drain.nanos + max 1 (((s.paused look).agenda.now - s.agenda.now) * Drain.nanos)

/-- A look comes when its pauses are over. -/
theorem now_le_lookTime (s : Simulation) (look : Nat) :
    (s.paused look).agenda.now * Drain.nanos ≤ s.lookTime look := by
  have begun := s.now_le_paused look
  simp only [lookTime, Drain.nanos]
  omega

/-- A look comes before the pause after it is over. -/
theorem lookTime_le (s : Simulation) (look : Nat) :
    s.lookTime look ≤ (s.paused (look + 1)).agenda.now * Drain.nanos := by
  have begun := s.now_le_paused look
  have next := s.now_paused_succ look
  simp only [lookTime, Drain.nanos, Drain.pause] at next ⊢
  omega

/-- Between two looks the clock moves on by a pause at least, and so by the rest that a look
needs. -/
theorem rest_le_paused (s : Simulation) (look : Nat) :
    (s.paused look).agenda.now * Drain.nanos + Drain.rest ≤
      (s.paused (look + 1)).agenda.now * Drain.nanos := by
  rw [Drain.rest, ← Nat.add_mul]
  exact Nat.mul_le_mul_right _ (s.now_paused_succ look)

/-- What happens around a drain of a simulation. It reads the number of requests once in a pause, so
it makes no difference what that is at other times. -/
noncomputable def course (s : Simulation) : DrainCourse where
  underWay := Function.extend (fun look => (s.paused look).agenda.now * Drain.nanos)
    (fun look => ((s.paused look).table 0).inFlight) fun _ => 0
  begun := s.agenda.now * Drain.nanos
  counted look := (s.paused look).agenda.now * Drain.nanos
  timed := s.lookTime
  logged := s.lookTime
  begun_le := Nat.le_refl _
  counted_le := s.now_le_lookTime
  timed_le _ := Nat.le_refl _
  logged_le := s.lookTime_le
  rested := s.rest_le_paused

/-- In the course of a simulation a look sees the requests that are in flight at the primary after
so many pauses. -/
theorem seen_course (s : Simulation) (look : Nat) :
    s.course.seen look = ((s.paused look).table 0).inFlight := by
  have single : Function.Injective fun look => (s.paused look).agenda.now * Drain.nanos :=
    fun a b same => s.strictMono_now_paused.injective (Nat.eq_of_mul_eq_mul_right (by decide) same)
  exact single.extend_apply (fun look => ((s.paused look).table 0).inFlight) (fun _ => 0) look

/-- In the course of a simulation a look comes to the verdict to which the loop of the drain comes
after so many pauses. -/
theorem verdict_course (s : Simulation) (look : Nat) :
    s.course.verdict (s.drainTime * Drain.nanos) look =
      Drain.look ((s.paused look).table 0).inFlight
        ((s.paused look).agenda.now - s.agenda.now) s.drainTime := by
  have elapsed : s.course.elapsed look =
      max 1 (((s.paused look).agenda.now - s.agenda.now) * Drain.nanos) :=
    Nat.add_sub_cancel_left _ _
  rw [DrainCourse.verdict, seen_course, elapsed]
  rfl

/-- From any look on that is taken at all, a drain does what a wait does. -/
theorem drainFrom_eq_wait {fuel pauses : Nat}
    (again : ∀ look < pauses,
      s.course.verdict (s.drainTime * Drain.nanos) look = .lookAgain)
    (enough : s.drainTime / Drain.pause + 2 ≤ pauses + fuel) :
    (s.course.wait (s.drainTime * Drain.nanos) (pauses + fuel)).result =
      some (drainFrom s.agenda.now fuel (s.paused pauses)).1 := by
  induction fuel generalizing pauses with
  | zero =>
      obtain ⟨last, few, stops, -⟩ := s.course.exists_last (s.drainTime * Drain.nanos)
      rw [Drain.rest, Nat.mul_div_mul_right _ _ (by decide)] at few
      exact absurd (again last (by omega)) stops
  | succ fuel ih =>
      have step := s.verdict_course pauses
      rw [drainFrom, drainTime_paused]
      split
      · next drained =>
          exact (DrainCourse.wait_of_last again true (step.trans drained) (by omega)).2
      · next gaveUp =>
          exact (DrainCourse.wait_of_last again false (step.trans gaveUp) (by omega)).2
      · next on =>
          rw [← paused_succ, ← Nat.add_assoc, Nat.add_right_comm]
          refine ih (fun look before => ?_) (by omega)
          rcases Nat.lt_succ_iff_lt_or_eq.1 before with earlier | rfl
          · exact again look earlier
          · exact step.trans on

/-- The looks that a drain is given are enough, and it answers what the wait answers. -/
theorem drain_eq_wait (s : Simulation) :
    (s.course.wait (s.drainTime * Drain.nanos) (s.drainTime / Drain.pause + 2)).result =
      some s.drain.1 := by
  have whole := @drainFrom_eq_wait s (s.drainTime / Drain.pause + 2) 0
    (fun look before => absurd before (Nat.not_lt_zero look)) (by omega)
  rwa [Nat.zero_add] at whole

end Simulation

namespace DrainCourse

/-- Whatever the number of requests does, a wait is over after no more looks than there are pauses
in the time that is granted, and two. It answers yes exactly if a look finds nothing under way
before any has found something too late, and no only at a look that finds something too late. The
drain of a simulation is such a wait, and the looks that it is given are enough. -/
theorem waits_end :
    (∀ (c : DrainCourse) (granted : Nat), ∃ last result, last + 1 ≤ granted / Drain.rest + 2 ∧
      (∀ looks ≤ last, (c.wait granted looks).result = none) ∧
      (∀ looks > last, (c.wait granted looks).looks = last + 1 ∧
        (c.wait granted looks).result = some result) ∧
      (result = true ↔ ∃ look, c.seen look = 0 ∧ ∀ earlier < look, ¬ c.Late granted earlier) ∧
      (result = true → c.seen last = 0) ∧
      (result = false → c.Late granted last)) ∧
    ∀ s : Simulation,
      (s.course.wait (s.drainTime * Drain.nanos) (s.drainTime / Drain.pause + 2)).result =
        some s.drain.1 := by
  refine ⟨fun c granted => ?_, Simulation.drain_eq_wait⟩
  obtain ⟨last, few, stops, again⟩ := c.exists_last granted
  have running : ∀ looks ≤ last, (c.wait granted looks).result = none := fun looks few =>
    (wait_of_lookAgain fun look before => again look (Nat.lt_of_lt_of_le before few)).2
  cases verdict : c.verdict granted last with
  | lookAgain => exact absurd verdict stops
  | drained =>
      have none := verdict_eq_drained_iff.1 verdict
      exact ⟨last, true, Nat.succ_le_succ few, running, fun _ => wait_of_last again true verdict,
        iff_of_true rfl ⟨last, none, fun look before => (inTime_of_again (again look before)).2⟩,
        fun _ => none, fun no => absurd no (by decide)⟩
  | gaveUp =>
      have late := verdict_eq_gaveUp_iff.1 verdict
      refine ⟨last, false, Nat.succ_le_succ few, running,
        fun _ => wait_of_last again false verdict, iff_of_false (by decide) ?_,
        fun yes => absurd yes (by decide), fun _ => late⟩
      -- A look that found nothing would have been the last one, or come after it.
      rintro ⟨look, none, before⟩
      rcases Nat.lt_trichotomy look last with earlier | rfl | later
      · exact (inTime_of_again (again look earlier)).1 none
      · exact Nat.ne_of_gt late.1 none
      · exact before last later late

end DrainCourse

end ClusterGateway
