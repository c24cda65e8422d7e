import ClusterGateway.Proofs.Limit.Queue
import ClusterGateway.Route.Table

/-! # What a limiter reports

A limiter shows its kind, its volume and speed, and how long a request may wait for a permit. These
figures, and the pace at which a throttle in fact gives out permits, are set when the limiter is
built. Requests that take permits, wait for them or give them back change none of them. A limiter
enforces a setting if it reads as one that is built from the setting, at whatever time.
-/

namespace ClusterGateway

namespace Limiter

/-- What a limiter shows of itself, and the pace that it keeps. -/
structure Reading where
  kind : LimiterKind
  volume : Int
  speed : Int
  /-- How many milliseconds a request may wait. -/
  timeout : Nat
  /-- The time between two permits and how far ahead of the clock they are given out, if there is
  such a limit. -/
  pace : Option (Nat × Nat)
deriving DecidableEq, Repr

/-- The pace at which a limiter gives out permits, unless it gives them to all who ask. -/
def pace? (l : Limiter) : Option (Nat × Nat) :=
  match l.state with
  | .gate _ => none
  | .throttle t => t.bucket.map fun b => (b.interval, b.tolerance)

def reading (l : Limiter) : Reading where
  kind := l.kind
  volume := l.volume
  speed := l.speed
  timeout := l.timeout
  pace := l.pace?

variable {l m : Limiter} {ticket now : Nat}

/-! ### Requests leave the reading as it is -/

/-- A bucket keeps its pace when a token is taken. -/
theorem pace_of_take? {b after : Bucket} (took : b.take? now = some after) :
    (after.interval, after.tolerance) = (b.interval, b.tolerance) := by
  rw [Bucket.take?] at took
  split at took
  · exact absurd took (by simp)
  · rw [← Option.some.inj took]

/-- A throttle that gives out a permit goes on at its pace. -/
theorem reading_throttle {t after : Throttle} (took : t.take? now = some after) (timeout : Nat) :
    reading ⟨.throttle after, timeout⟩ = reading ⟨.throttle t, timeout⟩ := by
  rw [Throttle.take?] at took
  cases metered : t.bucket with
  | none =>
      rw [metered] at took
      rw [← Option.some.inj took]
  | some b =>
      rw [metered] at took
      obtain ⟨c, given, rfl⟩ := Option.map_eq_some_iff.1 took
      simp only [reading, kind, volume, speed, pace?, metered, Option.map_some,
        pace_of_take? given]

/-- Taking a permit does not change what a limiter reports. -/
theorem reading_of_take? (took : l.take? now = some m) : m.reading = l.reading := by
  obtain ⟨state, timeout⟩ := l
  cases state with
  | gate g =>
      obtain ⟨entered, enters, rfl⟩ := Option.map_eq_some_iff.1 took
      rw [Gate.take?] at enters
      split at enters
      · rw [← Option.some.inj enters]
        rfl
      · exact absurd enters (by simp)
  | throttle t =>
      obtain ⟨after, given, rfl⟩ := Option.map_eq_some_iff.1 took
      exact reading_throttle given timeout

theorem reading_of_attempt {entered : Bool} (tried : l.attempt ticket now = (entered, m)) :
    m.reading = l.reading := by
  obtain ⟨state, timeout⟩ := l
  cases state with
  | gate g =>
      simp only [attempt, Gate.attempt] at tried
      split at tried <;>
      · obtain ⟨rfl, rfl⟩ := Prod.mk.inj tried
        rfl
  | throttle t =>
      simp only [attempt] at tried
      split at tried
      · next after given =>
          obtain ⟨rfl, rfl⟩ := Prod.mk.inj tried
          exact reading_throttle given timeout
      · obtain ⟨rfl, rfl⟩ := Prod.mk.inj tried
        rfl

/-- Of a gate only its volume is reported. -/
theorem reading_gate {g h : Gate} (volume : h.volume = g.volume) (timeout : Nat) :
    reading ⟨.gate h, timeout⟩ = reading ⟨.gate g, timeout⟩ := by
  simp only [reading, kind, Limiter.volume, speed, pace?, volume]

theorem reading_release (l : Limiter) : l.release.2.reading = l.reading := by
  obtain ⟨state, timeout⟩ := l
  cases state with
  | gate g => exact reading_gate (Gate.volume_wakeOne _) timeout
  | throttle t => rfl

/-- A call that gives up does not change what a limiter reports. -/
theorem reading_abandon (l : Limiter) (ticket : Nat) :
    (l.abandon ticket).2.reading = l.reading := by
  obtain ⟨state, timeout⟩ := l
  cases state with
  | gate g => exact reading_gate (Gate.volume_abandon g ticket) timeout
  | throttle t => rfl

/-! ### The limiter that lets every request in -/

/-- What a path without a setting gets. -/
def unlimited : Limiter := ofKind .qps

theorem take?_unlimited (now : Nat) : unlimited.take? now = some unlimited := rfl

/-- The unlimited limiter is told by its reading. -/
theorem reading_eq_unlimited : l.reading = unlimited.reading ↔ l = unlimited := by
  refine ⟨fun same => ?_, fun same => same ▸ rfl⟩
  obtain ⟨state, timeout⟩ := l
  cases state with
  | gate g =>
      have kinds : LimiterKind.concurrency = .qps := congrArg Reading.kind same
      exact absurd kinds (by decide)
  | throttle t =>
      obtain ⟨bucket, volume, speed⟩ := t
      obtain ⟨-, noVolume, noSpeed, rfl, noPace⟩ := Reading.mk.inj same
      obtain rfl : volume = 0 := Int.ofNat.inj noVolume
      obtain rfl : speed = 0 := Int.ofNat.inj noSpeed
      obtain rfl : bucket = none := Option.map_eq_none_iff.1 noPace
      rfl

/-! ### Settings -/

/-- A limiter reads as one that is built from a setting, at whatever time that is. -/
def Enforces (l : Limiter) (s : LimiterSetting) : Prop :=
  ∀ instant, ∃ fresh, Table.limiterOf s instant = .ok fresh ∧ l.reading = fresh.reading

/-- Whether a limiter enforces a setting depends on what it reports. -/
theorem Enforces.of_reading {s : LimiterSetting} (enforces : l.Enforces s)
    (same : m.reading = l.reading) : m.Enforces s := fun instant => by
  obtain ⟨fresh, built, alike⟩ := enforces instant
  exact ⟨fresh, built, same.trans alike⟩

/-- The reading of a throttle does not depend on when it was set. -/
theorem reading_setRate (l : Limiter) (volume speed : Int) (now later : Nat) :
    (l.setRate volume speed now).2.reading = (l.setRate volume speed later).2.reading := by
  obtain ⟨state, timeout⟩ := l
  cases state with
  | gate g => rfl
  | throttle t =>
      simp only [setRate, Throttle.ofRate]
      split <;> rfl

/-- A limiter enforces the setting from which it was built. -/
theorem enforces_of_built {s : LimiterSetting} (built : Table.limiterOf s now = .ok l) :
    l.Enforces s := by
  intro instant
  rw [Table.limiterOf, build] at built ⊢
  cases named : LimiterKind.ofName s.kind with
  | error error =>
      rw [named] at built
      exact absurd built (by simp [Except.map, bind, Except.bind])
  | ok kind =>
      rw [named] at built
      obtain rfl := Except.ok.inj built
      refine ⟨_, rfl, ?_⟩
      have rated := reading_setRate (ofKind kind) s.volume s.speed now instant
      split <;> split
      · exact congrArg (fun r => { r with timeout := s.duration }) rated
      · rfl
      · exact rated
      · rfl

end Limiter

end ClusterGateway
