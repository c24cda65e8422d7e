import ClusterGateway.Proofs.Replication.InPlace

/-! # Entries that are refused

An entry that is refused changes nothing of a machine apart from its counters, the last index and
the mark of divergence. The one error that comes after a change tells that the checks of a removed
host did not stop in time, and then everything is as if they had.
-/

namespace ClusterGateway

open InPlace

/-! ### Errors that come late -/

/-- An error tells that the checks of a host did not stop in time. -/
def RoutingError.IsLate (error : RoutingError) : Prop :=
  ∃ host, error = .pool (.checkStillRuns host)

@[inherit_doc RoutingError.IsLate]
def ApplyError.IsLate (error : ApplyError) : Prop :=
  ∃ host, error = .routing (.pool (.checkStillRuns host))

namespace Pool

variable {p : Pool}

/-- A host of a pool goes, and whether its checks stop in time changes the answer alone. -/
theorem removeHost_of_known {host : String} (known : p.containsHost host = true) :
    p.removeHost host true = (.ok (), (p.removeHost host true).2) ∧
      ∀ checksStop, p.removeHost host checksStop = (.ok (), (p.removeHost host true).2) ∨
        p.removeHost host checksStop =
          (.error (.checkStillRuns host), (p.removeHost host true).2) := by
  rw [containsHost] at known
  simp only [removeHost, known, if_true, Bool.not_true, Bool.and_false, Bool.false_eq_true,
    if_false, true_and]
  intro checksStop
  split
  · exact Or.inr rfl
  · exact Or.inl rfl

/-- Building a pool fails before any host is checked, so never because of checks that do not
stop. -/
theorem build_not_late {serial : Nat} {settings : PoolSettings} {l : Location} {error : PoolError}
    (refused : build serial settings l = .error error) : ¬ RoutingError.IsLate (.pool error) := by
  have gathered (backends : List String) (found : Dict Host × List String)
      (refused : backends.foldlM gather found = .error error) :
      ¬ RoutingError.IsLate (.pool error) := by
    induction backends generalizing found with
    | nil => exact absurd refused (by simp [pure, Except.pure])
    | cons raw backends ih =>
        rw [List.foldlM_cons, gather] at refused
        cases read : Backend.parse raw with
        | error fault =>
            rw [read] at refused
            rintro ⟨host, late⟩
            rw [← Except.error.inj refused] at late
            exact absurd late (by simp)
        | ok url =>
            rw [read] at refused
            dsimp only at refused
            split at refused <;> exact ih _ refused
  rw [build] at refused
  cases all : l.proxyPass.foldlM gather (∅, []) with
  | error fault =>
      rw [all] at refused
      exact gathered _ _ (all.trans (congrArg Except.error (Except.error.inj refused)))
  | ok found =>
      rw [all] at refused
      cases built : Balancer.build l.balanceMode settings.replicas found.2 with
      | error fault =>
          simp only [bind, Except.bind, built, Except.mapError] at refused
          rintro ⟨host, late⟩
          rw [← Except.error.inj refused] at late
          exact absurd late (by simp)
      | ok b =>
          simp only [bind, Except.bind, built, Except.mapError] at refused
          exact absurd refused (by simp [pure, Except.pure])

end Pool

namespace Table

variable {t : Table} {error : RoutingError}

/-- Adding a pool does not fail because of checks that do not stop. -/
theorem addPool_not_late {l : Location} (refused : t.addPool l = .error error) :
    ¬ error.IsLate := by
  rw [addPool, insertPool_eq] at refused
  split at refused
  · rw [← Except.error.inj refused]
    rintro ⟨_, ⟨⟩⟩
  · split at refused
    · rw [← Except.error.inj refused]
      rintro ⟨_, ⟨⟩⟩
    · split at refused
      · exact absurd refused (by simp [Except.map])
      · split at refused
        · next built =>
            rw [← Except.error.inj refused]
            exact Pool.build_not_late built
        · exact absurd refused (by simp [Except.map])

/-- A missing pool is another error than checks that do not stop. -/
theorem not_late_of_noPool {pattern : String} : ¬ (RoutingError.noPool pattern).IsLate := by
  rintro ⟨_, ⟨⟩⟩

/-- What begins with the pool of a pattern fails because there is none, or fails with the pool. -/
theorem error_of_requirePool {α : Type} {pattern : String} {rest : Pool → Except RoutingError α}
    (refused : (t.requirePool pattern >>= rest) = .error error) :
    error = .noPool pattern ∨ ∃ p, rest p = .error error := by
  rw [requirePool] at refused
  cases found : t.pool? pattern with
  | none =>
      rw [found] at refused
      exact Or.inl (Except.error.inj refused).symm
  | some p =>
      rw [found] at refused
      exact Or.inr ⟨p, refused⟩

/-- Removing a pool does not fail because of checks that do not stop; they are left to end by
themselves. -/
theorem removePool_not_late {pattern : String} (refused : t.removePool pattern = .error error) :
    ¬ error.IsLate := by
  cases found : t.pool? pattern with
  | none =>
      rw [removePool, requirePool, found] at refused
      exact Except.error.inj refused ▸ not_late_of_noPool
  | some p =>
      rw [removePool_of_pool found] at refused
      exact absurd refused (by simp)

theorem setLimiter_not_late {s : LimiterSetting} {instant : Nat}
    (refused : t.setLimiter s instant = .error error) : ¬ error.IsLate := by
  rcases error_of_requirePool refused with rfl | ⟨p, refused⟩
  · exact not_late_of_noPool
  · cases built : limiterOf s instant with
    | error fault =>
        simp only [bind, Except.bind, built, Except.mapError] at refused
        rw [← Except.error.inj refused]
        rintro ⟨_, ⟨⟩⟩
    | ok limiter =>
        simp only [bind, Except.bind, built, Except.mapError] at refused
        exact absurd refused (by simp [pure, Except.pure])

theorem addHost_not_late {pattern raw : String} (refused : t.addHost pattern raw = .error error) :
    ¬ error.IsLate := by
  rcases error_of_requirePool refused with rfl | ⟨p, refused⟩
  · exact not_late_of_noPool
  · cases read : Backend.parse raw with
    | error fault =>
        simp only [bind, Except.bind, Pool.addHost_of_error read, Except.mapError] at refused
        rw [← Except.error.inj refused]
        rintro ⟨_, ⟨⟩⟩
    | ok url =>
        obtain ⟨after, added, -⟩ := Pool.addHost_of_parse read p
        simp only [bind, Except.bind, added, Except.mapError] at refused
        exact absurd refused (by simp [pure, Except.pure])

theorem changeBalancer_not_late {pattern mode : String}
    (refused : t.changeBalancer pattern mode = .error error) : ¬ error.IsLate := by
  rcases error_of_requirePool refused with rfl | ⟨p, refused⟩
  · exact not_late_of_noPool
  · simp only [bind, Except.bind, Pool.changeBalancer] at refused
    cases built : Balancer.build mode p.settings.replicas p.aliveHosts with
    | error fault =>
        simp only [built, Except.mapError] at refused
        rw [← Except.error.inj refused]
        rintro ⟨_, ⟨⟩⟩
    | ok b =>
        simp only [built, Except.mapError] at refused
        exact absurd refused (by simp [pure, Except.pure])

/-- The removal of a host is refused before anything is written, or the host goes, and then whether
its checks stop in time changes the answer alone. -/
theorem removeHost_spec (t : Table) (pattern host : String) :
    (∃ error : RoutingError, ¬ error.IsLate ∧
      ∀ checksStop, t.removeHost pattern host checksStop = (.error error, t)) ∨
    ∃ left, t.removeHost pattern host true = (.ok (), left) ∧
      ∀ checksStop, t.removeHost pattern host checksStop = (.ok (), left) ∨
        ∃ error : RoutingError, error.IsLate ∧
          t.removeHost pattern host checksStop = (.error error, left) := by
  simp only [Table.removeHost]
  cases t.pool? pattern with
  | none => exact Or.inl ⟨_, not_late_of_noPool, fun _ => rfl⟩
  | some p =>
      simp only
      cases known : p.containsHost ((Backend.address? host).getD host) with
      | false =>
          exact Or.inl ⟨_, by rintro ⟨_, ⟨⟩⟩, fun _ => rfl⟩
      | true =>
          obtain ⟨gone, either⟩ := Pool.removeHost_of_known known
          refine Or.inr ⟨_, by rw [if_pos rfl, gone]; rfl, fun checksStop => ?_⟩
          rw [if_pos rfl]
          rcases either checksStop with same | late
          · exact Or.inl (by rw [same]; rfl)
          · exact Or.inr ⟨_, ⟨_, rfl⟩, by rw [late]; rfl⟩

end Table

namespace Machine

variable {m : Machine} {t : Table}

/-- An entry that is refused writes nothing, or takes a host away whose checks do not stop. -/
theorem execute_of_error {around : Surroundings} {entry : LogEntry} {error : ApplyError}
    {after : Table} (refused : execute t around entry = (.error error, after)) :
    after = t ∧ ¬ error.IsLate ∨
      error.IsLate ∧ execute t { around with checksStop := true } entry = (.ok (), after) := by
  have whole {ε : Type} {wrap : ε → ApplyError} {result : Except ε Table}
      (punctual : ∀ fault, result = .error fault → ¬ ApplyError.IsLate (wrap fault))
      (refused : outcome t wrap result = (.error error, after)) : after = t ∧ ¬ error.IsLate := by
    cases result with
    | ok u => exact absurd (Prod.mk.inj refused).1 (by simp)
    | error fault =>
        obtain ⟨same, rfl⟩ := Prod.mk.inj refused
        exact ⟨rfl, Except.error.inj same ▸ punctual fault rfl⟩
  have routing {fault : RoutingError} (punctual : ¬ fault.IsLate) :
      ¬ ApplyError.IsLate (.routing fault) :=
    fun ⟨host, late⟩ => punctual ⟨host, ApplyError.routing.inj late⟩
  have answered {α : Type} {result : Except RoutingError (α × Table)}
      (punctual : ∀ fault, result = .error fault → ¬ fault.IsLate) (fault : RoutingError)
      (same : result.map (·.2) = .error fault) : ¬ ApplyError.IsLate (.routing fault) := by
    cases result with
    | ok answer => exact absurd same (by simp [Except.map])
    | error other => exact routing (punctual fault (congrArg _ (Except.error.inj same)))
  -- All is checked before the first write, but for the end of the checks of a removed host.
  cases entry with
  | createPool l =>
      exact Or.inl (whole (answered fun _ => Table.addPool_not_late) refused)
  | setRateLimiter s =>
      exact Or.inl (whole (fun _ same => routing (Table.setLimiter_not_late same)) refused)
  | aclMutate action cidr =>
      exact Or.inl (whole (fun _ _ ⟨_, late⟩ => absurd late (by simp)) refused)
  | removePool pattern =>
      exact Or.inl (whole (fun _ same => routing (Table.removePool_not_late same)) refused)
  | addHost pattern raw =>
      exact Or.inl (whole (answered fun _ => Table.addHost_not_late) refused)
  | changeBalancer pattern mode =>
      exact Or.inl (whole (fun _ same => routing (Table.changeBalancer_not_late same)) refused)
  | removeHost pattern host =>
      simp only [execute] at refused ⊢
      rcases t.removeHost_spec pattern host with ⟨fault, punctual, same⟩ | ⟨left, gone, either⟩
      · rw [same] at refused
        obtain ⟨equal, rfl⟩ := Prod.mk.inj refused
        exact Or.inl ⟨rfl, Except.error.inj equal ▸ routing punctual⟩
      · rcases either around.checksStop with done | ⟨fault, ⟨name, rfl⟩, late⟩
        · rw [done] at refused
          exact absurd (Prod.mk.inj refused).1 (by simp [Except.mapError])
        · rw [late] at refused
          obtain ⟨equal, rfl⟩ := Prod.mk.inj refused
          refine Or.inr ⟨⟨name, (Except.error.inj equal).symm⟩, ?_⟩
          rw [gone]
          rfl

/-- Entries that are refused change nothing. Applying an entry in place, write by write, comes to
what the machine makes of it. If it ends with an error, the machine is as before apart from its
counters, the last index and the mark of divergence, unless the error is that the checks of a
removed host did not stop in time; then the machine is as if they had, apart from its counters. -/
theorem refused_entries_change_nothing (settings : PoolSettings) (hostWait : Nat)
    (events : List Event) (around : Surroundings) (index : LogIndex) (bytes : Bytes) :
    (applyInPlace around index bytes).runOn ((fresh settings hostWait).run events) =
        ((fresh settings hostWait).run events).apply around index bytes ∧
      ∀ error after,
        ((fresh settings hostWait).run events).apply around index bytes = (.error error, after) →
        (¬ error.IsLate → ∃ metrics diverged, after =
          { (fresh settings hostWait).run events with
            lastApplied := index, diverged
            table := { ((fresh settings hostWait).run events).table with metrics } }) ∧
        (error.IsLate → ∃ done metrics,
          ((fresh settings hostWait).run events).apply { around with checksStop := true } index
              bytes = (.ok (), done) ∧
            after = { done with table := { done.table with metrics } }) := by
  have sound := (sound_fresh settings hostWait).run events
  generalize (fresh settings hostWait).run events = m at *
  refine ⟨sound.applyInPlace_eq around index bytes, fun error after refused => ?_⟩
  have early {fault : ApplyError} (here : ¬ fault.IsLate) (same : fault = error) : ¬ error.IsLate :=
    same ▸ here
  simp only [Machine.apply] at refused ⊢
  cases diverged : m.diverged with
  | true =>
      rw [diverged, if_pos rfl] at refused
      obtain ⟨same, rfl⟩ := Prod.mk.inj refused
      have punctual := early (by rintro ⟨_, ⟨⟩⟩) (Except.error.inj same)
      exact ⟨fun _ => ⟨_, _, rfl⟩, fun late => absurd late punctual⟩
  | false =>
      rw [diverged, if_neg Bool.false_ne_true] at refused
      rw [if_neg Bool.false_ne_true]
      cases read : LogEntry.decode bytes with
      | error fault =>
          rw [read] at refused
          obtain ⟨same, rfl⟩ := Prod.mk.inj refused
          have punctual := early (by rintro ⟨_, ⟨⟩⟩) (Except.error.inj same)
          exact ⟨fun _ => ⟨_, _, rfl⟩, fun late => absurd late punctual⟩
      | ok entry =>
          rw [read] at refused
          dsimp only at refused ⊢
          cases done : execute m.table around entry with
          | mk result table =>
              rw [done] at refused
              cases result with
              | ok => exact absurd (Prod.mk.inj refused).1 (by simp)
              | error fault =>
                  obtain ⟨same, rfl⟩ := Prod.mk.inj refused
                  obtain rfl := Except.error.inj same
                  -- Only a host that is removed while its checks go on has changed anything.
                  rcases execute_of_error done with ⟨rfl, punctual⟩ | ⟨late, gone⟩
                  · exact ⟨fun _ => ⟨_, _, rfl⟩, fun late => absurd late punctual⟩
                  · refine ⟨fun punctual => absurd late punctual, fun _ => ?_⟩
                    rw [gone]
                    exact ⟨_, _, rfl, rfl⟩

/-- A run that leaves a pool with a host that is checked. -/
def checkedRun : List Event :=
  [entryEvent (.createPool ⟨"/a", ["http://[::1]:80"], "round-robin"⟩)]

/-- An entry for a pattern without a pool changes nothing, and a host whose checks do not stop goes
as if they had. -/
theorem refused_entries_change_nothing_checkedRun :
    (∃ metrics diverged,
      (((fresh { checkInterval := some 1000 } 0).run checkedRun).apply {} ⟨2⟩
          (LogEntry.addHost "/b" "http://[::1]:81").encode).2 =
        { (fresh { checkInterval := some 1000 } 0).run checkedRun with
          lastApplied := ⟨2⟩, diverged
          table := { ((fresh { checkInterval := some 1000 } 0).run checkedRun).table with
            metrics } }) ∧
      ∃ done metrics,
        ((fresh { checkInterval := some 1000 } 0).run checkedRun).apply {} ⟨2⟩
            (LogEntry.removeHost "/a" "[::1]:80").encode = (.ok (), done) ∧
          (((fresh { checkInterval := some 1000 } 0).run checkedRun).apply { checksStop := false }
              ⟨2⟩ (LogEntry.removeHost "/a" "[::1]:80").encode).2 =
            { done with table := { done.table with metrics } } := by
  have unknown : (((fresh { checkInterval := some 1000 } 0).run checkedRun).apply {} ⟨2⟩
      (LogEntry.addHost "/b" "http://[::1]:81").encode).1 =
        .error (.routing (.noPool "/b")) := by decide +kernel
  have late : (((fresh { checkInterval := some 1000 } 0).run checkedRun).apply
      { checksStop := false } ⟨2⟩ (LogEntry.removeHost "/a" "[::1]:80").encode).1 =
        .error (.routing (.pool (.checkStillRuns "[::1]:80"))) := by decide +kernel
  have answer {result : Except ApplyError Unit × Machine} {error : ApplyError}
      (same : result.1 = .error error) : result = (.error error, result.2) := by rw [← same]
  have first := (refused_entries_change_nothing { checkInterval := some 1000 } 0 checkedRun {} ⟨2⟩
    (LogEntry.addHost "/b" "http://[::1]:81").encode).2 _ _ (answer unknown)
  have second := (refused_entries_change_nothing { checkInterval := some 1000 } 0 checkedRun
    { checksStop := false } ⟨2⟩ (LogEntry.removeHost "/a" "[::1]:80").encode).2 _ _ (answer late)
  exact ⟨first.1 fun ⟨_, same⟩ => absurd same (by simp), second.2 ⟨_, rfl⟩⟩

end Machine

end ClusterGateway
