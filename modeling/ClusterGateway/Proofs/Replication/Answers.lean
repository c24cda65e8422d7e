import ClusterGateway.Proofs.Replication.Refusal

/-! # Answers to entries

Machines with one configuration give the same answers to an entry, although their pools were built
at different times, with other settings, and their balancers and checks stand elsewhere. The one
answer that tells machines apart is that the checks of a removed host did not stop in time.
-/

namespace ClusterGateway

/-- Whether something could be done, and if not, why. -/
def verdict {ε α : Type} (result : Except ε α) : Except ε Unit := result.map fun _ => ()

/-- What is done with a result does not matter for the verdict on it. -/
theorem verdict_map {ε α β : Type} (result : Except ε α) (f : α → β) :
    verdict (result.map f) = verdict result := by
  cases result <;> rfl

/-- Neither an error put in other words nor what is made of a result matters for the verdict but for
those words. -/
theorem verdict_bind_pure {ε ε' α β : Type} (wrap : ε → ε') (result : Except ε α) (f : α → β) :
    verdict (result.mapError wrap >>= fun a => pure (f a)) = (verdict result).mapError wrap := by
  cases result <;> rfl

/-- Two results with the same verdict lead to the same verdict if their errors are put in the same
words. -/
theorem verdict_bind_alike {ε ε' α β γ δ : Type} {wrap : ε → ε'} {here : Except ε α}
    {there : Except ε β} (alike : verdict there = verdict here) (f : α → γ) (g : β → δ) :
    verdict (there.mapError wrap >>= fun b => pure (g b)) =
      verdict (here.mapError wrap >>= fun a => pure (f a)) := by
  rw [verdict_bind_pure, verdict_bind_pure, alike]

namespace Pool

/-- Whether a location can be built does not depend on who builds it. -/
theorem verdict_build (serial other : Nat) (settings others : PoolSettings) (l : Location) :
    verdict (build other others l) = verdict (build serial settings l) := by
  rw [build, build]
  cases l.proxyPass.foldlM gather (∅, []) with
  | error error => rfl
  | ok found =>
      simp only [bind, Except.bind, Balancer.build]
      cases BalanceMode.ofName l.balanceMode <;> rfl

/-- Whether the balancer of a pool can be changed depends on the mode alone. -/
theorem verdict_changeBalancer (p q : Pool) (mode : String) :
    verdict (q.changeBalancer mode) = verdict (p.changeBalancer mode) := by
  rw [changeBalancer, changeBalancer, Balancer.build, Balancer.build]
  cases BalanceMode.ofName mode <;> rfl

/-- Whether a host can be added depends on its text alone, and not on the pool. -/
theorem verdict_addHost (p q : Pool) (raw : String) :
    verdict (q.addHost raw) = verdict (p.addHost raw) := by
  cases read : Backend.parse raw with
  | error error => rw [addHost_of_error read, addHost_of_error read]
  | ok url =>
      obtain ⟨_, added, -⟩ := addHost_of_parse read p
      obtain ⟨_, joined, -⟩ := addHost_of_parse read q
      rw [added, joined]
      rfl

end Pool

namespace Table

variable {t u : Table}

/-! ### Pools of two tables with the same locations -/

/-- Under a pattern neither of two tables with the same locations has a pool, or both have pools with
the same hosts. -/
theorem Sound.pools_alike (sound : t.Sound) (others : u.Sound) (same : u.locations = t.locations)
    (pattern : String) :
    (t.pool? pattern = none ∧ u.pool? pattern = none) ∨
      ∃ p q, t.pool? pattern = some p ∧ u.pool? pattern = some q ∧
        ∀ host, q.containsHost host = p.containsHost host := by
  have alike : (u.pool? pattern).map (fun q => Pool.targetsOf q.hosts) =
      (t.pool? pattern).map fun p => Pool.targetsOf p.hosts := by
    have whole := congrArg (fun d => (d.get? pattern).map Service.targets)
      (sound.services_eq others same)
    simp only [services, Dict.get?_map, Option.map_map] at whole
    exact whole
  cases here : t.pool? pattern with
  | none =>
      rw [here, Option.map_none, Option.map_eq_none_iff] at alike
      exact Or.inl ⟨rfl, alike⟩
  | some p =>
      rw [here, Option.map_some] at alike
      obtain ⟨q, there, targets⟩ := Option.map_eq_some_iff.1 alike
      refine Or.inr ⟨p, q, rfl, there, fun host => ?_⟩
      rw [Pool.containsHost_eq, Pool.containsHost_eq]
      exact congrArg (Dict.contains · host) targets

/-- What begins with the pool of a pattern has the verdict of what follows. -/
theorem Sound.verdict_requirePool (sound : t.Sound) (others : u.Sound)
    (same : u.locations = t.locations) (pattern : String) {α β : Type}
    {rest : Pool → Except RoutingError α} {beyond : Pool → Except RoutingError β}
    (alike : ∀ p q, verdict (beyond q) = verdict (rest p)) :
    verdict (u.requirePool pattern >>= beyond) = verdict (t.requirePool pattern >>= rest) := by
  rw [requirePool, requirePool]
  rcases sound.pools_alike others same pattern with ⟨here, there⟩ | ⟨p, q, here, there, -⟩
  · rw [here, there]
    rfl
  · rw [here, there]
    exact alike p q

/-! ### The verdict of each operation -/

/-- Whether a pool can be added depends on the locations alone; a known pattern is no error. -/
theorem Sound.verdict_addPool (sound : t.Sound) (others : u.Sound)
    (same : u.locations = t.locations) (l : Location) :
    verdict (u.addPool l) = verdict (t.addPool l) := by
  have known : u.router.contains l.pattern = t.router.contains l.pattern := by
    rw [contains_router, contains_router, others.keyed, sound.keyed, same]
  have built := Pool.verdict_build t.nextSerial u.nextSerial t.settings u.settings l
  rw [addPool, addPool, verdict_map, verdict_map, insertPool_eq, insertPool_eq, known]
  cases Pattern.check l.pattern with
  | error fault => rfl
  | ok =>
      cases l.proxyPass.isEmpty with
      | true => rfl
      | false =>
          cases t.router.contains l.pattern with
          | true => rfl
          | false =>
              generalize Pool.build t.nextSerial t.settings l = here at *
              generalize Pool.build u.nextSerial u.settings l = there at *
              cases here <;> cases there <;> simp_all [verdict, Except.map]

/-- Whether a limiter can be set depends on the locations alone, and not on the time. -/
theorem Sound.verdict_setLimiter (sound : t.Sound) (others : u.Sound)
    (same : u.locations = t.locations) (s : LimiterSetting) (instant other : Nat) :
    verdict (u.setLimiter s other) = verdict (t.setLimiter s instant) := by
  rw [setLimiter, setLimiter]
  refine sound.verdict_requirePool others same s.pattern fun p q => ?_
  rw [limiterOf, limiterOf]
  cases Limiter.build s.kind <;> rfl

/-- Whether a pool can be removed depends on the locations alone. -/
theorem Sound.verdict_removePool (sound : t.Sound) (others : u.Sound)
    (same : u.locations = t.locations) (pattern : String) :
    verdict (u.removePool pattern) = verdict (t.removePool pattern) := by
  rcases sound.pools_alike others same pattern with ⟨here, there⟩ | ⟨p, q, here, there, -⟩
  · rw [removePool, removePool, requirePool, requirePool, here, there]
    rfl
  · rw [removePool_of_pool here, removePool_of_pool there]
    rfl

/-- Whether a host can be added to a pool depends on the locations alone. -/
theorem Sound.verdict_addHost (sound : t.Sound) (others : u.Sound)
    (same : u.locations = t.locations) (pattern raw : String) :
    verdict (u.addHost pattern raw) = verdict (t.addHost pattern raw) := by
  rw [addHost, addHost]
  refine sound.verdict_requirePool others same pattern fun p q => ?_
  exact verdict_bind_alike (p.verdict_addHost q raw) _ _

theorem Sound.verdict_changeBalancer (sound : t.Sound) (others : u.Sound)
    (same : u.locations = t.locations) (pattern mode : String) :
    verdict (u.changeBalancer pattern mode) = verdict (t.changeBalancer pattern mode) := by
  rw [changeBalancer, changeBalancer]
  refine sound.verdict_requirePool others same pattern fun p q => ?_
  exact verdict_bind_alike (p.verdict_changeBalancer q mode) _ _

/-- Checks that stop in time do not tell two tables apart. -/
theorem Sound.removeHost_alike (sound : t.Sound) (others : u.Sound)
    (same : u.locations = t.locations) (pattern host : String) :
    (u.removeHost pattern host true).1 = (t.removeHost pattern host true).1 := by
  rw [Table.removeHost, Table.removeHost]
  rcases sound.pools_alike others same pattern with ⟨here, there⟩ | ⟨p, q, here, there, hosts⟩
  · rw [here, there]
  · rw [here, there]
    dsimp only
    rw [hosts]
    split
    · next known =>
        rw [(Pool.removeHost_of_known known).1,
          (Pool.removeHost_of_known ((hosts _).trans known)).1]
    · rfl

end Table

namespace Machine

variable {t u : Table}

/-- The outcome of a change answers with the verdict on it. -/
theorem outcome_fst {ε : Type} (t : Table) (wrap : ε → ApplyError) (result : Except ε Table) :
    (outcome t wrap result).1 = (verdict result).mapError wrap := by
  cases result <;> rfl

/-- Whether a network can be blocked or freed depends on the blocked networks alone. -/
theorem verdict_mutate (sound : t.acl.Sound) (others : u.acl.Sound)
    (same : u.acl.records = t.acl.records) (action : AclAction) (cidr : String) :
    verdict (mutate u action cidr) = verdict (mutate t action cidr) := by
  cases action with
  | insert =>
      simp only [mutate, AccessList.block, verdict_map]
  | delete =>
      simp only [mutate, verdict_map]
      cases read : parseCidr cidr with
      | error error => simp only [AccessList.delete, read]; rfl
      | ok net =>
          obtain ⟨present, absent⟩ := sound.delete read
          obtain ⟨here, gone⟩ := others.delete read
          rw [same] at here gone
          cases known : t.acl.records.contains net.text with
          | true =>
              obtain ⟨_, deleted, -⟩ := present known
              obtain ⟨_, removed, -⟩ := here known
              rw [deleted, removed]
              rfl
          | false => rw [absent known, gone known]

/-- Tables with one configuration give one answer to an entry, as long as checks stop in time. -/
theorem execute_alike (sound : t.Sound) (acl : t.acl.Sound) (others : u.Sound) (list : u.acl.Sound)
    (same : u.configuration = t.configuration) {around beside : Surroundings}
    (stop : around.checksStop = true) (halt : beside.checksStop = true) (entry : LogEntry) :
    (execute u beside entry).1 = (execute t around entry).1 := by
  have located : u.locations = t.locations := congrArg Configuration.locations same
  cases entry with
  | createPool l =>
      rw [execute, execute, outcome_fst, outcome_fst, verdict_map, verdict_map,
        sound.verdict_addPool others located]
  | setRateLimiter s =>
      rw [execute, execute, outcome_fst, outcome_fst,
        sound.verdict_setLimiter others located s around.instant]
  | aclMutate action cidr =>
      rw [execute, execute, outcome_fst, outcome_fst,
        verdict_mutate acl list (congrArg Configuration.blocked same)]
  | removePool pattern =>
      rw [execute, execute, outcome_fst, outcome_fst, sound.verdict_removePool others located]
  | removeHost pattern host =>
      simp only [execute, stop, halt, sound.removeHost_alike others located]
  | addHost pattern raw =>
      rw [execute, execute, outcome_fst, outcome_fst, verdict_map, verdict_map,
        sound.verdict_addHost others located]
  | changeBalancer pattern mode =>
      rw [execute, execute, outcome_fst, outcome_fst, sound.verdict_changeBalancer others located]

/-- Machines with one replica give one answer to an entry, as long as checks stop in time. -/
theorem Sound.apply_alike {m other : Machine} (sound : m.Sound) (others : other.Sound)
    (same : other.replica = m.replica) {around beside : Surroundings}
    (stop : around.checksStop = true) (halt : beside.checksStop = true) (index : LogIndex)
    (bytes : Bytes) :
    (other.apply beside index bytes).1 = (m.apply around index bytes).1 := by
  rw [Machine.apply, Machine.apply]
  have flag : other.diverged = m.diverged := congrArg Replica.diverged same
  dsimp only
  rw [flag]
  split
  · rfl
  · cases LogEntry.decode bytes with
    | error error => rfl
    | ok entry =>
        have answer := execute_alike sound.table sound.acl others.table others.acl
          (congrArg Replica.configuration same) stop halt entry
        dsimp only
        generalize execute m.table around entry = here at *
        generalize execute other.table beside entry = there at *
        obtain ⟨result, here⟩ := here
        obtain ⟨other, there⟩ := there
        obtain rfl : result = other := answer.symm
        cases result <;> rfl

end Machine

end ClusterGateway
