import ClusterGateway.Proofs.Pool.Liveness
import Mathlib.Logic.Function.Basic

/-! # Verdicts in time

The check loops of a pool run beside its changes, and each takes its steps when its turn comes. A
host that is removed leaves at once, its loop is asked to end, and the removal waits for that; if it
waits too long it ends the loop itself. In between the loop may start a probe yet, or end one. Still
its verdict cannot reach a host that was added later under the same address, as long as no host is
added while its removal waits: a loop that has not ended is the loop of the host that is registered,
or the one that a removal waits for, and then its host is not there.
-/

namespace ClusterGateway

namespace Pool

variable (p : Pool)

/-! ### Removal in two stages -/

/-- The number of the loop that checks a host. -/
def check? (host : String) : Option Nat := (p.hosts.get? host).bind (·.check)

/-- The host leaves, and its loop is asked to end. -/
def beginRemoval (host : String) : Pool :=
  { p with
    hosts := p.hosts.erase host
    balancer := p.balancer.remove host
    checks := match p.check? host with
      | none => p.checks
      | some n => p.checks.modify n CheckLoop.cancel }

/-- The removal has waited for the loop of its host, and ends it if it still runs. -/
def endRemoval (host : String) (n : Nat) : Except PoolError Unit × Pool :=
  if p.checks[n]?.any (!·.hasEnded) then
    (.error (.checkStillRuns host), { p with checks := p.checks.modify n CheckLoop.stop })
  else (.ok (), p)

/-- Lets one loop begin, or end if it was asked to. -/
def settleCheck (n now : Nat) : Pool :=
  { p with checks := p.checks.modify n (·.settle now (p.settings.checkInterval.getD 0)) }

/-- Ending a loop that has ended anyhow is the same as asking it to end. -/
theorem modify_stop_of_hasEnded {checks : List CheckLoop} {n : Nat}
    (finished : ∀ l, checks[n]? = some l → l.phase = .ended) :
    checks.modify n CheckLoop.stop = checks.modify n CheckLoop.cancel := by
  apply List.ext_getElem?
  intro m
  rw [List.getElem?_modify, List.getElem?_modify]
  by_cases same : n = m
  · subst same
    cases found : checks[n]? with
    | none => rfl
    | some l => simp [CheckLoop.stop, CheckLoop.cancel, finished l found]
  · simp [same]

/-- A removal is its two stages, between which the loop ends or does not. -/
theorem removeHost_eq_stages {host : String} (known : p.hosts.contains host = true)
    (checksStop : Bool) (now : Nat) :
    p.removeHost host checksStop =
      match p.check? host with
      | none => (.ok (), p.beginRemoval host)
      | some n =>
        let q := p.beginRemoval host
        (if checksStop then q.settleCheck n now else q).endRemoval host n := by
  rw [removeHost, if_pos known, isChecked, stopCheck, ← check?, beginRemoval]
  cases p.check? host with
  | none => rfl
  | some n =>
      cases checksStop with
      | true =>
          -- The loop ends by itself, so that the second stage finds it so.
          have settled (l : CheckLoop) (interval : Nat) :
              l.cancel.settle now interval = l.stop := rfl
          have ended : (p.checks[n]?.map CheckLoop.stop).any (!·.hasEnded) = false := by
            cases p.checks[n]? <;> rfl
          simp [settleCheck, endRemoval, List.modify_modify_eq, Function.comp_def, settled, ended]
      | false =>
          have runs : (p.checks[n]?.map CheckLoop.cancel).any (!·.hasEnded) =
              p.checks[n]?.any (!·.hasEnded) := by
            cases p.checks[n]? <;> rfl
          cases running : p.checks[n]?.any (!·.hasEnded) with
          | true =>
              have stopped (l : CheckLoop) : l.cancel.stop = l.stop := rfl
              simp [endRemoval, List.modify_modify_eq, Function.comp_def, runs, running, stopped]
          | false =>
              have finished : ∀ l, p.checks[n]? = some l → l.phase = .ended := by
                intro l found
                rw [found] at running
                simpa [CheckLoop.hasEnded] using running
              simp [endRemoval, runs, running, modify_stop_of_hasEnded finished]

/-! ### Loops of hosts -/

variable {p}

/-- A loop that takes in a verdict was waiting for it. -/
theorem endProbe_eq_some {n next : Nat} {reachable : Bool} {q : Pool}
    (ended : p.endProbe n reachable = some (next, q)) :
    ∃ l, p.checks[n]? = some l ∧ l.phase = .probing next ∧
      q = ({ p with checks := p.checks.modify n CheckLoop.rest } : Pool).recordProbe l.host
        reachable := by
  simp only [endProbe, Option.bind_eq_bind, Option.bind_eq_some_iff] at ended
  obtain ⟨l, found, step⟩ := ended
  split at step
  · next phase =>
      obtain ⟨rfl, rfl⟩ := Prod.mk.inj (Option.some.inj step)
      exact ⟨l, found, phase, rfl⟩
  · exact absurd step (by simp)

@[simp] theorem checks_recordProbe (p : Pool) (host : String) (reachable : Bool) :
    (p.recordProbe host reachable).checks = p.checks := by
  rw [recordProbe]
  split
  · rfl
  · split <;> rfl

@[simp] theorem check?_recordProbe (p : Pool) (host : String) (reachable : Bool) (other : String) :
    (p.recordProbe host reachable).check? other = p.check? other := by
  rw [recordProbe]
  split
  · rfl
  · next h found =>
      split
      · rfl
      · simp only [check?, Dict.get?_insert]
        split
        · next same => rw [← same, found]; rfl
        · rfl

@[simp] theorem contains_recordProbe (p : Pool) (host : String) (reachable : Bool)
    (other : String) :
    (p.recordProbe host reachable).hosts.contains other = p.hosts.contains other := by
  rw [recordProbe]
  split
  · rfl
  · next h found =>
      split
      · rfl
      · rw [Dict.contains_insert]
        by_cases same : host = other
        · subst same
          simp [Dict.contains, found]
        · simp [same]

/-- A host is given a new loop of its own, or none. -/
structure Equips (p : Pool) (key : String) (q : Pool) : Prop where
  others : ∀ host, key ≠ host → q.check? host = p.check? host
  kept : ∀ (n : Nat) l, p.checks[n]? = some l → q.checks[n]? = some l
  own : ∀ n, q.check? key = some n →
    p.checks[n]? = none ∧ ∃ l, q.checks[n]? = some l ∧ l.host = key
  loops : ∀ (n : Nat) l, q.checks[n]? = some l →
    p.checks[n]? = some l ∨ l.host = key ∧ l.phase = .fresh ∧ q.check? key = some n

@[simp] theorem contains_startCheck (p : Pool) (host other : String) :
    (p.startCheck host).hosts.contains other = p.hosts.contains other := by
  rw [startCheck]
  split
  · rfl
  · exact Dict.contains_modify ..

/-- A host that starts to be checked has a loop of its own, or none where there are no checks. -/
theorem equips_startCheck {key : String} (present : p.hosts.contains key = true)
    (unchecked : p.check? key = none) : p.Equips key (p.startCheck key) := by
  rw [startCheck]
  split
  · exact ⟨fun _ _ => rfl, fun _ _ => id,
      fun n known => absurd (unchecked.symm.trans known) (by simp), fun _ _ => Or.inl⟩
  · obtain ⟨h, found⟩ := Dict.contains_iff.1 present
    have own : (p.hosts.modify key fun h => { h with check := some p.checks.length }).get? key =
        some { h with check := some p.checks.length } := by
      rw [Dict.get?_modify, if_pos rfl, found]
      rfl
    refine ⟨fun host other => ?_, fun n l found => ?_, fun n known => ?_, fun n l found => ?_⟩
    · rw [check?, Dict.get?_modify, if_neg other.symm, ← check?]
    · rw [List.getElem?_append_left (List.getElem?_eq_some_iff.1 found).1, found]
    · rw [check?, own] at known
      obtain rfl := Option.some.inj known
      exact ⟨List.getElem?_eq_none le_rfl, _, List.getElem?_concat_length .., rfl⟩
    · rcases Nat.lt_or_ge n p.checks.length with old | new
      · exact Or.inl (by rwa [List.getElem?_append_left old] at found)
      · rw [List.getElem?_append_right new, List.getElem?_singleton] at found
        split at found
        · next first =>
            obtain rfl : n = p.checks.length := by omega
            obtain rfl := Option.some.inj found
            exact Or.inr ⟨rfl, rfl, by rw [check?, own]; rfl⟩
        · exact absurd found (by simp)

/-- A host comes to a pool. -/
structure Joins (p : Pool) (key : String) (q : Pool) : Prop extends p.Equips key q where
  absent : p.hosts.contains key = false
  hosts : ∀ host, q.hosts.contains host = (decide (key = host) || p.hosts.contains host)

/-- A host that was not there comes with a loop of its own. -/
theorem joins_startCheck {key : String} (absent : p.hosts.contains key = false) (target : WebUrl)
    (balancer : Balancer) : p.Joins key
      (({ p with hosts := p.hosts.insert key { target }, balancer } : Pool).startCheck key) := by
  have known (host : String) : (p.hosts.insert key { target }).contains host =
      (decide (key = host) || p.hosts.contains host) := Dict.contains_insert ..
  have check (host : String) : ((p.hosts.insert key { target }).get? host).bind (·.check) =
      if key = host then none else p.check? host := by
    rw [Dict.get?_insert]
    split <;> rfl
  obtain ⟨others, kept, own, loops⟩ := equips_startCheck
    (p := { p with hosts := p.hosts.insert key { target }, balancer })
    (by simp) ((check key).trans (if_pos rfl))
  have elsewhere (host : String) (other : key ≠ host) :=
    (others host other).trans ((check host).trans (if_neg other))
  exact ⟨⟨elsewhere, kept, own, loops⟩, absent,
    fun host => (contains_startCheck ..).trans (known host)⟩

/-- A host that is added is there already or comes. -/
theorem addHost_eq_ok {raw key : String} {q : Pool} (added : p.addHost raw = .ok (key, q)) :
    Backend.address? raw = some key ∧ (p.containsHost key = true ∧ q = p ∨ p.Joins key q) := by
  refine ⟨address?_of_addHost added, ?_⟩
  rw [addHost] at added
  split at added
  · exact absurd added (by simp)
  · next target read =>
      dsimp only at added
      split at added
      · next present =>
          obtain ⟨rfl, rfl⟩ := Prod.mk.inj (Except.ok.inj added)
          exact Or.inl ⟨present, rfl⟩
      · next absent =>
          obtain ⟨rfl, rfl⟩ := Prod.mk.inj (Except.ok.inj added)
          exact Or.inr (joins_startCheck (by simpa using absent) target _)

end Pool

/-! ### Interleavings -/

/-- Whether a loop would start a probe. -/
def CheckLoop.isDue (l : CheckLoop) (now : Nat) : Bool :=
  match l.phase with
  | .resting due => due ≤ now
  | _ => false

/-- A pool whose check loops run beside its changes, with what has happened so far. -/
structure Vigil where
  pool : Pool
  /-- The hosts whose removals wait for their loops, with the numbers of these. -/
  leaving : Dict Nat := ∅
  /-- The loops of hosts whose removals have returned. -/
  left : List Nat := []
  /-- The number of the next step. -/
  now : Nat := 1
  /-- The step in which a host was registered last; those of a new pool were so before the first. -/
  registered : String → Nat := fun _ => 0
  /-- The step in which a loop started its last probe. -/
  started : Nat → Nat := fun _ => 0

namespace Vigil

/-- What a change of the pool or one of its check loops does before it lets others go on. -/
inductive Step where
  | addHost (raw : String)
  | beginRemoval (host : String)
  | endRemoval (host : String)
  | shutdown
  /-- A loop begins, or ends if it was asked to. -/
  | settle (check now : Nat)
  /-- A loop starts a probe that is due; it may do so even if it was asked to end. -/
  | startProbe (check now : Nat)
  /-- A loop takes in the verdict of its probe; it may do so even if it was asked to end. -/
  | endProbe (check : Nat) (reachable : Bool)

/-- The loop that takes a step, if one does. -/
def Step.check? : Step → Option Nat
  | .settle check _ | .startProbe check _ | .endProbe check _ => some check
  | _ => none

variable (v : Vigil)

/-- What a step does. A host without a loop is removed at once. -/
def perform : Step → Vigil
  | .addHost raw =>
    match v.pool.addHost raw with
    | .error _ => v
    | .ok (key, pool) =>
      if v.pool.containsHost key then v
      else { v with pool, registered := Function.update v.registered key v.now }
  | .beginRemoval host =>
    if v.pool.containsHost host then
      match v.pool.check? host with
      | none => { v with pool := v.pool.beginRemoval host }
      | some n =>
        { v with pool := v.pool.beginRemoval host, leaving := v.leaving.insert host n }
    else v
  | .endRemoval host =>
    match v.leaving.get? host with
    | none => v
    | some n =>
      { v with
        pool := (v.pool.endRemoval host n).2
        leaving := v.leaving.erase host
        left := n :: v.left }
  | .shutdown => { v with pool := v.pool.shutdown }
  | .settle check now => { v with pool := v.pool.settleCheck check now }
  | .startProbe check now =>
    if v.pool.checks[check]?.any (·.isDue now) then
      let interval := v.pool.settings.checkInterval.getD 0
      { v with
        pool := { v.pool with checks := v.pool.checks.modify check (·.startProbe now interval) }
        started := Function.update v.started check v.now }
    else v
  | .endProbe check reachable =>
    match v.pool.endProbe check reachable with
    | none => v
    | some (_, pool) => { v with pool }

/-- Takes a step. -/
def take (step : Step) : Vigil := { v.perform step with now := v.now + 1 }

/-- No host is added while its removal waits. -/
def Step.Permitted (v : Vigil) : Step → Prop
  | .addHost raw => ∀ key ∈ Backend.address? raw, v.leaving.contains key = false
  | _ => True

instance (v : Vigil) : (step : Step) → Decidable (step.Permitted v)
  | .addHost raw =>
    inferInstanceAs (Decidable (∀ key ∈ Backend.address? raw, v.leaving.contains key = false))
  | .beginRemoval _ | .endRemoval _ | .shutdown | .settle _ _ | .startProbe _ _ | .endProbe _ _ =>
    inferInstanceAs (Decidable True)

/-- In a run no host is added while its removal waits. -/
def Serialised : Vigil → List Step → Prop
  | _, [] => True
  | v, step :: steps => step.Permitted v ∧ Serialised (v.take step) steps

instance : (v : Vigil) → (steps : List Step) → Decidable (Serialised v steps)
  | _, [] => inferInstanceAs (Decidable True)
  | v, step :: steps =>
    have := instDecidableSerialised (v.take step) steps
    inferInstanceAs (Decidable (step.Permitted v ∧ Serialised (v.take step) steps))

/-! ### Who may still be checked -/

/-- A loop that has not ended is that of a registered host or of one whose removal waits for it, and
what it probes it has probed since the host was registered. -/
structure Guarded (v : Vigil) : Prop where
  past : ∀ host, v.registered host < v.now
  gone : ∀ host, v.leaving.contains host = true → v.pool.hosts.contains host = false
  named : ∀ host n, v.pool.check? host = some n ∨ v.leaving.get? host = some n →
    ∃ l, v.pool.checks[n]? = some l ∧ l.host = host
  bound : ∀ n l, v.pool.checks[n]? = some l → l.phase ≠ .ended →
    v.pool.check? l.host = some n ∨ v.leaving.get? l.host = some n
  recent : ∀ n l next, v.pool.checks[n]? = some l → l.phase = .probing next →
    v.pool.check? l.host = some n → v.registered l.host < v.started n
  left : ∀ n ∈ v.left, ∃ l, v.pool.checks[n]? = some l ∧ l.phase = .ended

variable {v w : Vigil}

/-- A loop goes on checking its host, or ends for good; it probes if it did so before, or if it has
started just now. -/
structure Goes (v w : Vigil) (n : Nat) (l k : CheckLoop) : Prop where
  host : k.host = l.host
  ended : l.phase = .ended → k.phase = .ended
  probing : ∀ next, k.phase = .probing next → w.started n = v.now ∨
    w.started n = v.started n ∧ ∃ next, l.phase = .probing next

/-- Each loop goes on. -/
def GoOn (v w : Vigil) : Prop :=
  ∀ n : Nat, Option.Rel (Goes v w n) v.pool.checks[n]? w.pool.checks[n]?

/-- A loop that was there goes on. -/
theorem GoOn.forth (go : GoOn v w) {n : Nat} {l : CheckLoop} (found : v.pool.checks[n]? = some l) :
    ∃ k, w.pool.checks[n]? = some k ∧ Goes v w n l k := by
  have goes := go n
  rw [found] at goes
  generalize w.pool.checks[n]? = later at goes
  cases goes with
  | some goes => exact ⟨_, rfl, goes⟩

/-- A loop that is there now was there before and went on. -/
theorem GoOn.back (go : GoOn v w) {n : Nat} {k : CheckLoop} (found : w.pool.checks[n]? = some k) :
    ∃ l, v.pool.checks[n]? = some l ∧ Goes v w n l k := by
  have goes := go n
  rw [found] at goes
  generalize v.pool.checks[n]? = earlier at goes
  cases goes with
  | some goes => exact ⟨_, rfl, goes⟩

/-- A loop in the same phase, with the same last probe, goes on. -/
theorem goes_of_phase {n : Nat} {l k : CheckLoop} (host : k.host = l.host)
    (phase : k.phase = l.phase) (started : w.started n = v.started n) : Goes v w n l k :=
  ⟨host, fun ended => phase.trans ended,
    fun next probing => Or.inr ⟨started, next, phase.symm.trans probing⟩⟩

/-- A loop that has ended goes on in this way, whatever it was. -/
theorem goes_of_ended {n : Nat} {l k : CheckLoop} (host : k.host = l.host)
    (phase : k.phase = .ended) : Goes v w n l k :=
  ⟨host, fun _ => phase, fun next probing => absurd (phase.symm.trans probing) (by simp)⟩

/-- Loops that nothing is done to go on. -/
theorem goOn_refl (checks : w.pool.checks = v.pool.checks) (started : w.started = v.started) :
    GoOn v w := by
  intro n
  rw [checks]
  cases v.pool.checks[n]? with
  | none => exact .none
  | some l => exact .some (goes_of_phase rfl rfl (congrFun started n))

/-- If one loop goes on and nothing is done to the others, each goes on. -/
theorem goOn_of_modify {m : Nat} {f : CheckLoop → CheckLoop}
    (checks : w.pool.checks = v.pool.checks.modify m f)
    (started : ∀ n, m ≠ n → w.started n = v.started n)
    (goes : ∀ l, v.pool.checks[m]? = some l → Goes v w m l (f l)) : GoOn v w := by
  intro n
  rw [checks, List.getElem?_modify]
  cases found : v.pool.checks[n]? with
  | none => exact .none
  | some l =>
      refine .some ?_
      dsimp only
      split
      · next same =>
          subst same
          exact goes l found
      · next other => exact goes_of_phase rfl rfl (started n other)

/-- Hosts leave, and a loop that is no longer bound to a host has ended. -/
theorem Guarded.of_leaves (guarded : v.Guarded) (now : w.now = v.now + 1)
    (registered : w.registered = v.registered) (go : GoOn v w)
    (gone : ∀ host, w.leaving.contains host = true → w.pool.hosts.contains host = false)
    (checked : ∀ host n, w.pool.check? host = some n → v.pool.check? host = some n)
    (fewer : ∀ host n, w.leaving.get? host = some n →
      v.pool.check? host = some n ∨ v.leaving.get? host = some n)
    (bound : ∀ host n, v.pool.check? host = some n ∨ v.leaving.get? host = some n →
      (w.pool.check? host = some n ∨ w.leaving.get? host = some n) ∨
        ∀ k, w.pool.checks[n]? = some k → k.phase = .ended)
    (left : ∀ n ∈ w.left, n ∈ v.left ∨ ∃ k, w.pool.checks[n]? = some k ∧ k.phase = .ended) :
    w.Guarded where
  past host := by
    have earlier := guarded.past host
    rw [now, registered]
    omega
  gone := gone
  named host n known := by
    obtain ⟨l, found, same⟩ :=
      guarded.named host n (known.elim (fun known => Or.inl (checked host n known)) (fewer host n))
    obtain ⟨k, after, goes⟩ := go.forth found
    exact ⟨k, after, goes.host.trans same⟩
  bound n k found runs := by
    obtain ⟨l, earlier, goes⟩ := go.back found
    rw [goes.host]
    have known := guarded.bound n l earlier fun finished => runs (goes.ended finished)
    exact (bound l.host n known).resolve_right fun finished => runs (finished k found)
  -- A probe that begins with this step begins after every host has come.
  recent n k next found probing known := by
    obtain ⟨l, earlier, goes⟩ := go.back found
    rw [goes.host] at known
    rw [registered, goes.host]
    rcases goes.probing next probing with started | ⟨started, next, before⟩
    · rw [started]
      exact guarded.past l.host
    · rw [started]
      exact guarded.recent n l next earlier before (checked l.host n known)
  left n member := by
    rcases left n member with old | new
    · obtain ⟨l, found, finished⟩ := guarded.left n old
      obtain ⟨k, after, goes⟩ := go.forth found
      exact ⟨k, after, goes.ended finished⟩
    · exact new

/-- Nothing but the loops has changed. -/
theorem Guarded.of_goOn (guarded : v.Guarded) (now : w.now = v.now + 1)
    (registered : w.registered = v.registered) (leaving : w.leaving = v.leaving)
    (left : w.left = v.left)
    (present : ∀ host, w.pool.hosts.contains host = v.pool.hosts.contains host)
    (check : ∀ host, w.pool.check? host = v.pool.check? host) (go : GoOn v w) : w.Guarded := by
  refine guarded.of_leaves now registered go (fun host => ?_) (fun host n => ?_) (fun host n => ?_)
    (fun host n => ?_) (fun n => ?_)
  · rw [leaving, present]
    exact guarded.gone host
  · rw [check]
    exact id
  · rw [leaving]
    exact Or.inr
  · rw [check, leaving]
    exact Or.inl
  · rw [left]
    exact Or.inl

/-- A step that changes nothing. -/
theorem Guarded.idle (guarded : v.Guarded) : Guarded { v with now := v.now + 1 } :=
  guarded.of_goOn rfl rfl rfl rfl (fun _ => rfl) (fun _ => rfl) (goOn_refl rfl rfl)

/-- Shutting down keeps the loops guarded: each is asked to end. -/
theorem Guarded.shutdown (guarded : v.Guarded) : (v.take .shutdown).Guarded := by
  refine guarded.of_goOn rfl rfl rfl rfl (fun _ => rfl) (fun _ => rfl) fun n => ?_
  rw [take, perform, Pool.shutdown, List.getElem?_map]
  cases v.pool.checks[n]? with
  | none => exact .none
  | some l => exact .some (goes_of_phase rfl rfl rfl)

/-- Letting a loop begin or end keeps the loops guarded. -/
theorem Guarded.settle (guarded : v.Guarded) (check now : Nat) :
    (v.take (.settle check now)).Guarded := by
  refine guarded.of_goOn rfl rfl rfl rfl (fun _ => rfl) (fun _ => rfl)
    (goOn_of_modify rfl (fun _ _ => rfl) fun l _ => ?_)
  rw [CheckLoop.settle]
  split
  · exact goes_of_ended rfl rfl
  · split
    · next fresh =>
        exact ⟨rfl, fun finished => absurd (fresh.symm.trans finished) (by simp),
          fun next probing => absurd probing (by simp)⟩
    · exact goes_of_phase rfl rfl rfl

/-- A probe that starts keeps the loops guarded. -/
theorem Guarded.startProbe (guarded : v.Guarded) (check now : Nat) :
    (v.take (.startProbe check now)).Guarded := by
  rw [take, perform]
  split
  · next due =>
      refine guarded.of_goOn rfl rfl rfl rfl (fun _ => rfl) (fun _ => rfl)
        (goOn_of_modify rfl (fun n other => Function.update_of_ne other.symm _ _) fun l found => ?_)
      rw [found, Option.any_some, CheckLoop.isDue] at due
      have host : (l.startProbe now (v.pool.settings.checkInterval.getD 0)).host = l.host := by
        rw [CheckLoop.startProbe]
        split
        · split <;> rfl
        · rfl
      refine ⟨host, fun finished => ?_, fun _ _ => Or.inl (Function.update_self ..)⟩
      rw [finished] at due
      exact absurd due (by simp)
  · exact guarded.idle

theorem Guarded.endProbe (guarded : v.Guarded) (check : Nat) (reachable : Bool) :
    (v.take (.endProbe check reachable)).Guarded := by
  rw [take, perform]
  split
  · exact guarded.idle
  · next next q ended =>
      obtain ⟨l, found, phase, rfl⟩ := Pool.endProbe_eq_some ended
      refine guarded.of_goOn rfl rfl rfl rfl (fun host => by simp) (fun host => ?_)
        (goOn_of_modify (Pool.checks_recordProbe ..) (fun _ _ => rfl) fun k same => ?_)
      · exact Pool.check?_recordProbe ..
      · obtain rfl := Option.some.inj (found.symm.trans same)
        have rested : l.rest = { l with phase := .resting next } := by rw [CheckLoop.rest, phase]
        rw [rested]
        exact ⟨rfl, fun finished => absurd (phase.symm.trans finished) (by simp),
          fun _ probing => absurd probing (by simp)⟩

/-- A host that comes keeps the loops guarded: its own is the new one. -/
theorem Guarded.joins (guarded : v.Guarded) {key : String} {q : Pool} (joins : v.pool.Joins key q)
    (stays : v.leaving.contains key = false) :
    Guarded { v with
      pool := q, registered := Function.update v.registered key v.now, now := v.now + 1 } := by
  have unchecked : v.pool.check? key = none := by
    have absent := joins.absent
    rw [Dict.contains, Option.isSome_eq_false_iff, Option.isNone_iff_eq_none] at absent
    rw [Pool.check?, absent]
    rfl
  -- Who is there or about to leave has another key than the host that comes.
  have settled {host : String} {n : Nat}
      (known : v.pool.check? host = some n ∨ v.leaving.get? host = some n) : key ≠ host := by
    rintro rfl
    rcases known with checked | leaves
    · exact absurd (unchecked.symm.trans checked) (by simp)
    · rw [Dict.contains, leaves] at stays
      exact absurd stays (by simp)
  refine ⟨fun host => ?_, fun host leaves => ?_, fun host n known => ?_, fun n l found runs => ?_,
    fun n l next found probing known => ?_, fun n member => ?_⟩
  · change Function.update v.registered key v.now host < v.now + 1
    by_cases same : host = key
    · rw [same, Function.update_self]
      exact Nat.lt_succ_self _
    · rw [Function.update_of_ne same]
      exact Nat.lt_succ_of_lt (guarded.past host)
  · have other : key ≠ host := by
      rintro rfl
      exact absurd (leaves.symm.trans stays) (by simp)
    rw [joins.hosts, guarded.gone host leaves]
    simpa using other
  · by_cases own : key = host
    · subst own
      have checked := known.resolve_right fun leaves => settled (Or.inr leaves) rfl
      exact (joins.own n checked).2
    · rw [joins.others host own] at known
      obtain ⟨l, found, same⟩ := guarded.named host n known
      exact ⟨l, joins.kept n l found, same⟩
  · rcases joins.loops n l found with old | ⟨same, -, checked⟩
    · have known := guarded.bound n l old runs
      rwa [joins.others l.host (settled known)]
    · exact Or.inl (by rw [same, checked])
  · rcases joins.loops n l found with old | ⟨-, fresh, -⟩
    · have other : key ≠ l.host := by
        intro same
        rw [← same] at known
        exact absurd ((joins.own n known).1.symm.trans old) (by simp)
      rw [joins.others l.host other] at known
      change Function.update v.registered key v.now l.host < v.started n
      rw [Function.update_of_ne other.symm]
      exact guarded.recent n l next old probing known
    · exact absurd (fresh.symm.trans probing) (by simp)
  · obtain ⟨l, found, finished⟩ := guarded.left n member
    exact ⟨l, joins.kept n l found, finished⟩

/-- Adding a host keeps the loops guarded, unless its removal still waits. -/
theorem Guarded.addHost (guarded : v.Guarded) {raw : String}
    (permitted : Step.Permitted v (.addHost raw)) : (v.take (.addHost raw)).Guarded := by
  rw [take, perform]
  split
  · exact guarded.idle
  · next key q added =>
      obtain ⟨address, ⟨present, -⟩ | joins⟩ := Pool.addHost_eq_ok added
      · rw [if_pos present]
        exact guarded.idle
      · rw [if_neg (by simp [Pool.containsHost, joins.absent])]
        exact guarded.joins joins (permitted key address)

/-- The removal of a host that is in the pool does not wait. -/
theorem Guarded.get?_leaving (guarded : v.Guarded) {host : String}
    (present : v.pool.containsHost host = true) : v.leaving.get? host = none := by
  cases waits : v.leaving.get? host with
  | none => rfl
  | some n =>
      have gone := guarded.gone host (by rw [Dict.contains, waits]; rfl)
      exact absurd (present.symm.trans gone) (by simp)

/-- When a host leaves, its loop, if it has one, is what its removal waits for. -/
theorem Guarded.perform_beginRemoval (guarded : v.Guarded) {host : String}
    (present : v.pool.containsHost host = true) :
    ∃ leaving, v.perform (.beginRemoval host) =
        { v with pool := v.pool.beginRemoval host, leaving } ∧
      ∀ other, leaving.get? other =
        if host = other then v.pool.check? host else v.leaving.get? other := by
  rw [perform, if_pos present]
  split
  · next unchecked =>
      refine ⟨v.leaving, rfl, fun other => ?_⟩
      split
      · next same => rw [← same, unchecked, guarded.get?_leaving present]
      · rfl
  · next n checked => exact ⟨_, rfl, fun other => by rw [Dict.get?_insert, checked]⟩

/-- A removal that begins keeps the loops guarded: its loop is waited for. -/
theorem Guarded.beginRemoval (guarded : v.Guarded) (host : String) :
    (v.take (.beginRemoval host)).Guarded := by
  by_cases present : v.pool.containsHost host = true
  · obtain ⟨leaving, same, waits⟩ := guarded.perform_beginRemoval present
    -- The host is gone at once; its loop was told to stop, and is waited for.
    have check (other : String) : (v.pool.beginRemoval host).check? other =
        if host = other then none else v.pool.check? other := by
      rw [Pool.check?, Pool.beginRemoval, Dict.get?_erase]
      split <;> rfl
    have go : GoOn v { v with pool := v.pool.beginRemoval host, leaving, now := v.now + 1 } := by
      cases checked : v.pool.check? host with
      | none => exact goOn_refl (by simp [Pool.beginRemoval, checked]) rfl
      | some n =>
          exact goOn_of_modify (m := n) (f := CheckLoop.cancel)
            (by simp [Pool.beginRemoval, checked]) (fun _ _ => rfl)
            fun l _ => goes_of_phase rfl rfl rfl
    rw [take, same]
    refine guarded.of_leaves rfl rfl go (fun other leaves => ?_) (fun other n known => ?_)
      (fun other n leaves => ?_) (fun other n known => Or.inl ?_) fun n => Or.inl
    · rw [Dict.contains, waits] at leaves
      rw [Pool.beginRemoval, Dict.contains_erase]
      split at leaves
      · next same => simp [same]
      · rw [guarded.gone other leaves, Bool.and_false]
    · rw [check] at known
      split at known
      · exact absurd known (by simp)
      · exact known
    · rw [waits] at leaves
      split at leaves
      · next same => exact Or.inl (same ▸ leaves)
      · exact Or.inr leaves
    · rw [check, waits]
      split
      · next same =>
          subst same
          rw [guarded.get?_leaving present] at known
          exact Or.inr (known.resolve_right (by simp))
      · exact known
  · rw [take, perform, if_neg present]
    exact guarded.idle

/-- What a removal has waited for has ended, and nothing else has changed. -/
theorem exists_checks_endRemoval (p : Pool) (host : String) (n : Nat) :
    ∃ f : CheckLoop → CheckLoop,
      (p.endRemoval host n).2 = { p with checks := p.checks.modify n f } ∧
      ∀ l, p.checks[n]? = some l → (f l).host = l.host ∧ (f l).phase = .ended := by
  rw [Pool.endRemoval]
  split
  · exact ⟨CheckLoop.stop, rfl, fun l _ => ⟨rfl, rfl⟩⟩
  · next finished =>
      refine ⟨id, by rw [List.modify_id], fun l found => ⟨rfl, ?_⟩⟩
      rw [found] at finished
      simpa [CheckLoop.hasEnded] using finished

/-- A removal that ends keeps the loops guarded: its loop has come to its end. -/
theorem Guarded.endRemoval (guarded : v.Guarded) (host : String) :
    (v.take (.endRemoval host)).Guarded := by
  rw [take, perform]
  split
  · exact guarded.idle
  · next n waits =>
      obtain ⟨f, after, ends⟩ := exists_checks_endRemoval v.pool host n
      rw [after]
      have finished (k : CheckLoop) (found : (v.pool.checks.modify n f)[n]? = some k) :
          k.phase = .ended := by
        rw [List.getElem?_modify, Option.map_eq_map, Option.map_eq_some_iff] at found
        obtain ⟨l, earlier, rfl⟩ := found
        simpa using (ends l earlier).2
      refine guarded.of_leaves rfl rfl
        (goOn_of_modify rfl (fun _ _ => rfl) fun l found =>
          goes_of_ended (ends l found).1 (ends l found).2)
        (fun other leaves => ?_) (fun other m => id) (fun other m leaves => ?_)
        (fun other m known => ?_) fun m member => ?_
      · rw [Dict.contains_erase, Bool.and_eq_true] at leaves
        exact guarded.gone other leaves.2
      · rw [Dict.get?_erase] at leaves
        split at leaves
        · exact absurd leaves (by simp)
        · exact Or.inr leaves
      · by_cases same : host = other
        · subst same
          rcases known with checked | leaves
          · exact Or.inl (Or.inl checked)
          · obtain rfl := Option.some.inj (waits.symm.trans leaves)
            exact Or.inr finished
        · exact Or.inl (known.imp_right fun leaves => by rw [Dict.get?_erase, if_neg same, leaves])
      · rcases List.mem_cons.1 member with rfl | old
        · obtain ⟨l, found, -⟩ := guarded.named host m (Or.inr waits)
          refine Or.inr ⟨f l, ?_, (ends l found).2⟩
          rw [List.getElem?_modify, found]
          simp
        · exact Or.inl old

/-- What a step preserves. -/
theorem Guarded.take (guarded : v.Guarded) {step : Step} (permitted : step.Permitted v) :
    (v.take step).Guarded := by
  cases step with
  | addHost raw => exact guarded.addHost permitted
  | beginRemoval host => exact guarded.beginRemoval host
  | endRemoval host => exact guarded.endRemoval host
  | shutdown => exact guarded.shutdown
  | settle check now => exact guarded.settle check now
  | startProbe check now => exact guarded.startProbe check now
  | endProbe check reachable => exact guarded.endProbe check reachable

/-- What a run preserves. -/
theorem Guarded.run {steps : List Step} (guarded : v.Guarded) (serialised : Serialised v steps) :
    (steps.foldl Vigil.take v).Guarded := by
  induction steps generalizing v with
  | nil => exact guarded
  | cons step steps ih => exact ih (guarded.take serialised.1) serialised.2

/-- Steps are serialised if their first part is, and their second part after it. -/
theorem serialised_append {before after : List Step} :
    Serialised v (before ++ after) ↔
      Serialised v before ∧ Serialised (before.foldl Vigil.take v) after := by
  induction before generalizing v with
  | nil => simp [Serialised]
  | cons step before ih => simp [Serialised, ih, and_assoc]

/-! ### New pools -/

/-- The loops of a pool are fresh, and each is that of its host. -/
structure Fresh (p : Pool) : Prop where
  named : ∀ host n, p.check? host = some n → ∃ l, p.checks[n]? = some l ∧ l.host = host
  bound : ∀ (n : Nat) l, p.checks[n]? = some l → l.phase = .fresh ∧ p.check? l.host = some n

/-- The loops of a new pool are guarded. -/
theorem Fresh.guarded {p : Pool} (fresh : Fresh p) : Guarded { pool := p } where
  past _ := Nat.one_pos
  gone _ leaves := absurd leaves (by simp [Dict.contains])
  named host n known := fresh.named host n (known.resolve_right (by simp))
  bound n l found _ := Or.inl (fresh.bound n l found).2
  recent n l next found probing _ :=
    absurd ((fresh.bound n l found).1.symm.trans probing) (by simp)
  left _ member := absurd member List.not_mem_nil

/-- A host without a loop that starts to be checked keeps the loops fresh. -/
theorem Fresh.startCheck {p : Pool} (fresh : Fresh p) {key : String}
    (present : p.hosts.contains key = true) (unchecked : p.check? key = none) :
    Fresh (p.startCheck key) := by
  obtain ⟨others, kept, own, loops⟩ := Pool.equips_startCheck present unchecked
  constructor
  · intro host n known
    by_cases same : key = host
    · subst same
      exact (own n known).2
    · rw [others host same] at known
      obtain ⟨l, found, named⟩ := fresh.named host n known
      exact ⟨l, kept n l found, named⟩
  · intro n l found
    rcases loops n l found with old | ⟨same, phase, known⟩
    · obtain ⟨phase, known⟩ := fresh.bound n l old
      have other : key ≠ l.host := by
        intro same
        rw [← same, unchecked] at known
        exact absurd known (by simp)
      exact ⟨phase, (others l.host other).trans known⟩
    · exact ⟨phase, same ▸ known⟩

/-- Hosts that start to be checked one after another keep the loops fresh. -/
theorem Fresh.foldl_startCheck {keys : List String} {p : Pool} (fresh : Fresh p)
    (nodup : keys.Nodup) (present : ∀ key ∈ keys, p.hosts.contains key = true)
    (unchecked : ∀ key ∈ keys, p.check? key = none) : Fresh (keys.foldl Pool.startCheck p) := by
  induction keys generalizing p with
  | nil => exact fresh
  | cons key keys ih =>
      obtain ⟨new, nodup⟩ := List.nodup_cons.1 nodup
      obtain ⟨here, present⟩ := List.forall_mem_cons.1 present
      obtain ⟨bare, unchecked⟩ := List.forall_mem_cons.1 unchecked
      refine ih (fresh.startCheck here bare) nodup (fun other member => ?_) fun other member => ?_
      · rw [Pool.contains_startCheck, present other member]
      · have distinct : key ≠ other := fun same => new (same ▸ member)
        rw [(Pool.equips_startCheck here bare).others other distinct, unchecked other member]

/-- The hosts that are gathered from backends have no loops yet. -/
theorem check_of_foldlM_gather {backends : List String} {found after : Dict Host × List String}
    (done : backends.foldlM Pool.gather found = .ok after)
    (bare : ∀ key h, found.1.get? key = some h → h.check = none) :
    ∀ key h, after.1.get? key = some h → h.check = none := by
  induction backends generalizing found with
  | nil =>
      obtain rfl := Except.ok.inj done
      exact bare
  | cons raw backends ih =>
      rw [List.foldlM_cons, Pool.gather] at done
      cases read : Backend.parse raw with
      | error error =>
          rw [read] at done
          exact absurd done (by simp [bind, Except.bind])
      | ok target =>
          rw [read] at done
          dsimp only at done
          split at done
          · exact ih done bare
          · refine ih done fun key h known => ?_
            rw [Dict.get?_insert] at known
            split at known
            · rw [← Option.some.inj known]
            · exact bare key h known

/-- The loops of a pool that was built are fresh. -/
theorem fresh_of_build {serial : Nat} {settings : PoolSettings} {l : Location} {p : Pool}
    (built : Pool.build serial settings l = .ok p) : Fresh p := by
  obtain ⟨hosts, order, balancer, gathered, -, rfl⟩ := Pool.stages_of_build built
  have bare := check_of_foldlM_gather gathered fun key h known => absurd known (by simp)
  have unchecked (key : String) : (hosts.get? key).bind (·.check) = none := by
    cases found : hosts.get? key with
    | none => rfl
    | some h => exact bare key h found
  have start : Fresh { serial, pattern := l.pattern, hosts, balancer, settings } :=
    ⟨fun key n known => absurd ((unchecked key).symm.trans known) (by simp),
      fun n l found => absurd found (by simp)⟩
  exact start.foldl_startCheck hosts.keys_nodup (fun key => Dict.mem_keys.1)
    fun key _ => unchecked key

/-! ### Verdicts -/

/-- A host that stays is told to be otherwise only by the verdict of a loop of its own. -/
theorem exists_verdict {step : Step} {host : String} {alive : Bool}
    (before : v.pool.isAlive host = some alive)
    (after : (v.take step).pool.isAlive host = some (!alive)) :
    ∃ n l next, step = .endProbe n (!alive) ∧ v.pool.checks[n]? = some l ∧ l.host = host ∧
      l.phase = .probing next := by
  have other {q : Pool} (same : q.isAlive host = v.pool.isAlive host) :
      q.isAlive host ≠ some (!alive) := by
    rw [same, before]
    cases alive <;> simp
  -- Any other step than the end of a probe leaves what is told of the host, or takes it away.
  rw [take] at after
  cases step with
  | addHost raw =>
      refine absurd after ?_
      rw [perform]
      split
      · exact other rfl
      · next key q added =>
          split
          · exact other rfl
          · next absent =>
              rcases Pool.addHost_spec added with rfl | ⟨-, -, shown⟩
              · exact other rfl
              · have distinct : key ≠ host := by
                  rintro rfl
                  refine absent ?_
                  obtain ⟨h, found, -⟩ := Pool.isAlive_eq_some_iff.1 before
                  exact Dict.contains_iff.2 ⟨h, found⟩
                exact other ((shown host).trans (if_neg distinct))
  | beginRemoval leaver =>
      refine absurd after ?_
      have shown : (v.pool.beginRemoval leaver).isAlive host =
          if leaver = host then none else v.pool.isAlive host := by
        rw [Pool.isAlive, Pool.beginRemoval, Dict.get?_erase]
        split <;> rfl
      have gone : (v.pool.beginRemoval leaver).isAlive host ≠ some (!alive) := by
        rw [shown]
        split
        · simp
        · exact other rfl
      rw [perform]
      split
      · split <;> exact gone
      · exact other rfl
  | endRemoval leaver =>
      refine absurd after ?_
      rw [perform]
      split
      · exact other rfl
      · next n waits =>
          obtain ⟨f, same, -⟩ := exists_checks_endRemoval v.pool leaver n
          rw [same]
          exact other rfl
  | shutdown => exact absurd after (other rfl)
  | settle check now => exact absurd after (other rfl)
  | startProbe check now =>
      refine absurd after ?_
      rw [perform]
      split <;> exact other rfl
  | endProbe n reachable =>
      rw [perform] at after
      split at after
      · exact absurd after (other rfl)
      · next next q ended =>
          obtain ⟨l, found, phase, rfl⟩ := Pool.endProbe_eq_some ended
          rcases Pool.recordProbe_spec
            { v.pool with checks := v.pool.checks.modify n CheckLoop.rest } l.host reachable
            with same | ⟨-, -, -, shown⟩
          · rw [same] at after
            exact absurd after (other rfl)
          · have seen := (shown host).symm.trans after
            split at seen
            · next own =>
                obtain rfl := Option.some.inj seen
                exact ⟨n, l, next, rfl, found, own, phase⟩
            · exact absurd seen (other rfl)

/-- A loop that was not asked to end starts its probes as a pool lets it. -/
theorem pool_take_startProbe {n now : Nat} {host : String} {q : Pool}
    (started : v.pool.startProbe n now = some (host, q)) :
    (v.take (.startProbe n now)).pool = q := by
  simp only [Pool.startProbe, Option.bind_eq_bind, Option.bind_eq_some_iff] at started
  obtain ⟨l, found, step⟩ := started
  split at step
  · next due phase =>
      split at step
      · next ready =>
          obtain ⟨-, rfl⟩ := Prod.mk.inj (Option.some.inj step)
          have starts : v.pool.checks[n]?.any (·.isDue now) = true := by
            simp [found, CheckLoop.isDue, phase, ready.1]
          rw [take, perform, if_pos starts]
      · exact absurd step (by simp)
  · exact absurd step (by simp)

/-- A loop that has ended does nothing. -/
theorem pool_take_of_ended {step : Step} {n : Nat} {l : CheckLoop} (own : step.check? = some n)
    (found : v.pool.checks[n]? = some l) (finished : l.phase = .ended) :
    (v.take step).pool = v.pool := by
  rw [take]
  cases step with
  | addHost raw => exact absurd own (by simp [Step.check?])
  | beginRemoval host => exact absurd own (by simp [Step.check?])
  | endRemoval host => exact absurd own (by simp [Step.check?])
  | shutdown => exact absurd own (by simp [Step.check?])
  | settle check now =>
      obtain rfl := Option.some.inj own
      have settled (interval : Nat) : l.settle now interval = l := by
        obtain ⟨host, phase, cancelled⟩ := l
        obtain rfl : phase = .ended := finished
        cases cancelled <;> rfl
      have kept : v.pool.checks.modify check
          (·.settle now (v.pool.settings.checkInterval.getD 0)) = v.pool.checks := by
        apply List.ext_getElem?
        intro m
        rw [List.getElem?_modify]
        by_cases same : check = m
        · subst same
          simp [found, settled]
        · simp [same]
      rw [perform, Pool.settleCheck, kept]
  | startProbe check now =>
      obtain rfl := Option.some.inj own
      rw [perform, found, Option.any_some, CheckLoop.isDue, finished]
      rfl
  | endProbe check reachable =>
      obtain rfl := Option.some.inj own
      have nothing : v.pool.endProbe check reachable = none := by
        rw [Pool.endProbe, found]
        simp [finished]
      rw [perform, nothing]

/-- However the check loops of a pool run beside its changes, as long as no host is added while its
removal waits, a host that stays is told to be otherwise only by its own loop, and from a probe that
started after the host was registered last; and once a removal has returned, the loop of the host
that was removed changes nothing any more. -/
theorem verdicts_are_fresh {serial : Nat} {settings : PoolSettings} {l : Location} {p : Pool}
    (built : Pool.build serial settings l = .ok p) {steps : List Step}
    (serialised : Serialised { pool := p } steps) {before after : List Step} {step : Step}
    (split : steps = before ++ step :: after) :
    let v : Vigil := before.foldl take { pool := p }
    (∀ host alive, v.pool.isAlive host = some alive →
      (v.take step).pool.isAlive host = some (!alive) →
      ∃ n l, step = .endProbe n (!alive) ∧ v.pool.checks[n]? = some l ∧ l.host = host ∧
        v.pool.check? host = some n ∧ v.registered host < v.started n) ∧
    ∀ n ∈ v.left, step.check? = some n → (v.take step).pool = v.pool := by
  intro v
  subst split
  have guarded : v.Guarded := (fresh_of_build built).guarded.run (serialised_append.1 serialised).1
  refine ⟨fun host alive known told => ?_, fun n member own => ?_⟩
  · obtain ⟨n, l, next, verdict, found, rfl, probing⟩ := exists_verdict known told
    have here : v.leaving.get? l.host = none := by
      apply guarded.get?_leaving
      obtain ⟨h, present, -⟩ := Pool.isAlive_eq_some_iff.1 known
      exact Dict.contains_iff.2 ⟨h, present⟩
    have checked : v.pool.check? l.host = some n := by
      have bound := guarded.bound n l found (by simp [probing])
      rw [here] at bound
      exact bound.resolve_right (by simp)
    exact ⟨n, l, verdict, found, rfl, checked, guarded.recent n l next found probing checked⟩
  · obtain ⟨l, found, finished⟩ := guarded.left n member
    exact pool_take_of_ended own found finished

/-- A host is removed while its probe is under way, so that its loop has to be ended, and comes
back. The first loop has no say any more, and the second one finds the host unreachable. -/
def comeback : List Step :=
  [.settle 0 0, .startProbe 0 10, .beginRemoval "[::1]:80", .endRemoval "[::1]:80",
   .addHost "http://[::1]:80", .settle 1 20, .startProbe 1 30, .endProbe 0 false]

/-- The host that came back stays alive whatever its old loop says, until its own loop finds it
unreachable. -/
theorem verdicts_are_fresh_comeback :
    ∃ p, Pool.build 0 { checkInterval := some 10 } ⟨"/a", ["http://[::1]:80"], "round-robin"⟩ =
        .ok p ∧
      let v : Vigil := comeback.foldl take { pool := p }
      Serialised { pool := p } (comeback ++ [.endProbe 1 false]) ∧
        v.pool.isAlive "[::1]:80" = some true ∧
        (v.take (.endProbe 1 false)).pool.isAlive "[::1]:80" = some false ∧
        v.registered "[::1]:80" < v.started 1 := by
  have shape : (Pool.build 0 { checkInterval := some 10 }
      ⟨"/a", ["http://[::1]:80"], "round-robin"⟩).toOption.map (fun p =>
        let v : Vigil := comeback.foldl take { pool := p }
        (decide (Serialised { pool := p } (comeback ++ [.endProbe 1 false])),
          v.pool.isAlive "[::1]:80", (v.take (.endProbe 1 false)).pool.isAlive "[::1]:80")) =
      some (true, some true, some false) := by decide +kernel
  cases built : Pool.build 0 { checkInterval := some 10 }
      ⟨"/a", ["http://[::1]:80"], "round-robin"⟩ with
  | error error =>
      rw [built] at shape
      exact absurd shape (by simp [Except.toOption])
  | ok p =>
      rw [built] at shape
      obtain ⟨serialised, rest⟩ := Prod.mk.inj (Option.some.inj shape)
      obtain ⟨up, down⟩ := Prod.mk.inj rest
      have runs := of_decide_eq_true serialised
      obtain ⟨n, l, verdict, -, -, -, later⟩ :=
        (verdicts_are_fresh built runs rfl).1 "[::1]:80" true up down
      obtain ⟨rfl, -⟩ := Step.endProbe.inj verdict
      exact ⟨p, rfl, runs, up, down, later⟩

/-- If a host is added while its removal waits, it may be told to be unreachable by a probe from
before. -/
example : (Pool.build 0 { checkInterval := some 10 }
      ⟨"/a", ["http://[::1]:80"], "round-robin"⟩).toOption.map (fun p =>
        let v : Vigil := [.settle 0 0, .startProbe 0 10, .beginRemoval "[::1]:80",
          .addHost "http://[::1]:80"].foldl take { pool := p }
        ((v.take (.endProbe 0 false)).pool.isAlive "[::1]:80",
          decide (v.started 0 < v.registered "[::1]:80"))) =
    some (some false, true) := by decide +kernel

end Vigil

end ClusterGateway
