import ClusterGateway.Proofs.Replication.CatchUp

/-! # Entries that are applied in place

A node does not compute a new table from the old one. It changes the table where it is, one write
after another, and between the writes there are checks that may end the whole with an error. What is
written by then stays written. The programs here do just that, and they come to what the machine
makes of the table as a whole: every check but one stands before the first write. The one exception
is the removal of a host whose checks do not stop in time.
-/

namespace ClusterGateway

/-- A program that changes a state as it goes and may end with an error, but takes nothing back. -/
abbrev InPlace (σ ε α : Type) := ExceptT ε (StateM σ) α

namespace InPlace

variable {σ τ ε ε' α β : Type}

/-- The result of a program, and the state that it leaves. -/
def runOn (program : InPlace σ ε α) (s : σ) : Except ε α × σ := program.run.run s

/-- Ends with an error if something has failed. -/
def check (result : Except ε α) : InPlace σ ε α :=
  match result with
  | .ok a => pure a
  | .error error => throw error

/-- Runs a program on a part of the state. -/
def part (read : σ → τ) (write : σ → τ → σ) (wrap : ε → ε') (program : InPlace τ ε α) :
    InPlace σ ε' α :=
  ExceptT.mk fun s =>
    let (result, after) := program.runOn (read s)
    (result.mapError wrap, write s after)

@[simp] theorem runOn_pure (a : α) (s : σ) : (pure a : InPlace σ ε α).runOn s = (.ok a, s) := rfl

@[simp] theorem runOn_throw (error : ε) (s : σ) :
    (throw error : InPlace σ ε α).runOn s = (.error error, s) := rfl

@[simp] theorem runOn_get (s : σ) : (get : InPlace σ ε σ).runOn s = (.ok s, s) := rfl

@[simp] theorem runOn_modify (f : σ → σ) (s : σ) :
    (modify f : InPlace σ ε PUnit).runOn s = (.ok ⟨⟩, f s) := rfl

@[simp] theorem runOn_check_ok (a : α) (s : σ) :
    (check (.ok a) : InPlace σ ε α).runOn s = (.ok a, s) := rfl

@[simp] theorem runOn_check_error (error : ε) (s : σ) :
    (check (.error error) : InPlace σ ε α).runOn s = (.error error, s) := rfl

/-- Runs a program and goes on with its result, be it an error. -/
def observe (program : InPlace σ ε α) : InPlace σ ε' (Except ε α) :=
  ExceptT.mk fun s =>
    let (result, after) := program.runOn s
    (.ok result, after)

@[simp] theorem runOn_observe (program : InPlace σ ε α) (s : σ) :
    (observe program : InPlace σ ε' (Except ε α)).runOn s =
      (.ok (program.runOn s).1, (program.runOn s).2) := rfl

/-- After an error nothing more is done. -/
@[simp] theorem runOn_bind (program : InPlace σ ε α) (rest : α → InPlace σ ε β) (s : σ) :
    (program >>= rest).runOn s =
      match program.runOn s with
      | (.ok a, after) => (rest a).runOn after
      | (.error error, after) => (.error error, after) := by
  change (match (program.run.run s).1 with
    | .ok a => (rest a).run
    | .error error => pure (.error error)).run (program.run.run s).2 = _
  rw [runOn]
  generalize program.run.run s = done
  obtain ⟨result, after⟩ := done
  cases result <;> rfl

@[simp] theorem runOn_part (read : σ → τ) (write : σ → τ → σ) (wrap : ε → ε')
    (program : InPlace τ ε α) (s : σ) :
    (part read write wrap program).runOn s =
      ((program.runOn (read s)).1.mapError wrap, write s (program.runOn (read s)).2) := rfl

/-- What a change as a whole comes to if it is refused before anything is written. -/
def kept (s : σ) (result : Except ε (α × σ)) : Except ε α × σ :=
  match result with
  | .ok (a, after) => (.ok a, after)
  | .error error => (.error error, s)

end InPlace

open InPlace

/-! ### Pools -/

namespace Pool

/-- Adds a host in place. -/
def addHostInPlace (raw : String) : InPlace Pool PoolError String := do
  let target ← check ((Backend.parse raw).mapError .badBackend)
  if (← get).hosts.contains target.address then
    return target.address
  modify fun p => { p with hosts := p.hosts.insert target.address { target } }
  modify fun p => p.startCheck target.address
  modify fun p => { p with balancer := p.balancer.add target.address }
  return target.address

/-- Removes a host in place: first it leaves the pool, and then its checks are awaited. -/
def removeHostInPlace (host : String) (checksStop : Bool) : InPlace Pool PoolError Unit := do
  match (← get).hosts.get? host with
  | none => throw (.hostNotFound (← get).pattern host)
  | some h =>
    modify fun p => { p with hosts := p.hosts.erase host }
    modify fun p => { p with balancer := p.balancer.remove host }
    match h.check with
    | none => return
    | some n =>
      let runs := (← get).checks[n]?.any (!·.hasEnded)
      modify fun p => { p with checks := p.checks.modify n CheckLoop.cancel }
      -- Whether the loop ends by itself or is ended by force, it has ended after this.
      modify fun p => { p with checks := p.checks.modify n fun l => { l with phase := .ended } }
      if runs && !checksStop then throw (.checkStillRuns host)

/-- Changes the balancer in place. -/
def changeBalancerInPlace (mode : String) : InPlace Pool PoolError Unit := do
  let p ← get
  let balancer ← check
    ((Balancer.build mode p.settings.replicas p.aliveHosts).mapError .balancer)
  modify fun p => { p with balancer }

/-- Adding a host in place does what adding it as a whole does, since nothing fails once the pool is
written to. -/
theorem addHostInPlace_eq (raw : String) (p : Pool) :
    (addHostInPlace raw).runOn p = kept p (p.addHost raw) := by
  rw [addHostInPlace, addHost]
  cases Backend.parse raw with
  | error error => simp [Except.mapError, kept]
  | ok url =>
      simp only [Except.mapError, runOn_bind, runOn_check_ok, runOn_get]
      split
      · rfl
      · simp only [runOn_bind, runOn_modify, runOn_pure, kept, startCheck]
        split <;> rfl

/-- Removing a host in place does what removing it as a whole does, also when its checks do not stop
in time. -/
theorem removeHostInPlace_eq (host : String) (checksStop : Bool) (p : Pool) :
    (removeHostInPlace host checksStop).runOn p = p.removeHost host checksStop := by
  rw [removeHostInPlace, removeHost, Dict.contains, isChecked, stopCheck]
  simp only [runOn_bind, runOn_get]
  cases p.hosts.get? host with
  | none => simp
  | some h =>
      obtain ⟨target, alive, check⟩ := h
      cases check with
      | none => simp
      | some n =>
          simp only [runOn_bind, runOn_modify, runOn_get, Option.isSome_some, ↓reduceIte,
            Option.bind_some, List.modify_modify_eq]
          split <;> rfl

/-- Changing the balancer in place does what changing it as a whole does. -/
theorem changeBalancerInPlace_eq (mode : String) (p : Pool) :
    (changeBalancerInPlace mode).runOn p = kept p ((p.changeBalancer mode).map ((), ·)) := by
  rw [changeBalancerInPlace, changeBalancer]
  cases built : Balancer.build mode p.settings.replicas p.aliveHosts <;>
    simp [built, Except.mapError, Except.map, kept]

end Pool

/-! ### Tables -/

namespace Table

variable {t : Table}

/-- The pool of a pattern, or the error that there is none. -/
def poolInPlace (pattern : String) : InPlace Table RoutingError Pool := do
  check ((← get).requirePool pattern)

/-- Runs a program on a pool of the table. -/
def onPool {α : Type} (p : Pool) (program : InPlace Pool PoolError α) :
    InPlace Table RoutingError α :=
  part (fun _ => p) putPool .pool program

/-- Adds a pool in place. -/
def addPoolInPlace (l : Location) : InPlace Table RoutingError Bool := do
  check ((Pattern.check l.pattern).mapError fun fault => .badLocation l.pattern (.pattern fault))
  if l.proxyPass.isEmpty then throw (.badLocation l.pattern .noHosts)
  let t ← get
  if t.router.contains l.pattern then
    return false
  let p ← check ((Pool.build t.nextSerial t.settings l).mapError .pool)
  modify fun t => { t with nextSerial := t.nextSerial + 1 }
  modify fun t => { t with router := t.router.insert l.pattern p }
  modify fun t => { t with locations := t.locations.insert l.pattern l }
  modify countPools
  return true

/-- Removes a pool in place: it leaves the router first, and if it was not there that is all. -/
def removePoolInPlace (pattern : String) : InPlace Table RoutingError Unit := do
  let found := (← get).pool? pattern
  modify fun t => { t with router := t.router.erase pattern }
  match found with
  | none => throw (.noPool pattern)
  | some p =>
    modify fun t => { t with locations := t.locations.erase pattern }
    modify fun t => { t with limiters := t.limiters.erase pattern }
    modify countPools
    modify fun t => t.retire p

/-- Adds a host in place, to the pool first. -/
def addHostInPlace (pattern raw : String) : InPlace Table RoutingError String := do
  let p ← poolInPlace pattern
  let key ← onPool p (Pool.addHostInPlace raw)
  modify fun t => t.changeBackends pattern fun backends =>
    if backends.any (Backend.address? · = some key) then backends else backends ++ [raw]
  return key

/-- Removes a host in place, from the location first. -/
def removeHostInPlace (pattern host : String) (checksStop : Bool) :
    InPlace Table RoutingError Unit := do
  let key := (Backend.address? host).getD host
  let p ← poolInPlace pattern
  if !p.containsHost key then throw (.pool (.hostNotFound pattern key))
  modify fun t => t.changeBackends pattern fun backends =>
    backends.filter (Backend.address? · ≠ some key)
  onPool p (Pool.removeHostInPlace key checksStop)

/-- Changes a balancer in place, in the pool first. -/
def changeBalancerInPlace (pattern mode : String) : InPlace Table RoutingError Unit := do
  let p ← poolInPlace pattern
  onPool p (Pool.changeBalancerInPlace mode)
  modify fun t => { t with
    locations := t.locations.modify pattern fun l => { l with balanceMode := mode } }

/-- Sets a limiter in place, in the pool first. -/
def setLimiterInPlace (s : LimiterSetting) (instant : Nat) : InPlace Table RoutingError Unit := do
  let p ← poolInPlace s.pattern
  let limiter ← check ((limiterOf s instant).mapError .limiter)
  onPool p (modify fun p => p.installLimiter s.path limiter)
  modify fun t => { t with limiters := t.limiters.insert s.pattern (t.limiterSettings s.pattern) }
  modify fun t => { t with
    limiters := t.limiters.modify s.pattern fun settings => settings.filter (·.path ≠ s.path) }
  modify fun t => { t with limiters := t.limiters.modify s.pattern fun settings => settings ++ [s] }

/-- Swapping a pool in service for itself changes nothing, since no other has its number. -/
theorem Sound.putPool_self (sound : t.Sound) {pattern : String} {p : Pool}
    (found : t.pool? pattern = some p) : t.putPool p = t := by
  have live : t.router.entries.map (fun _ q => if q.serial = p.serial then p else q) =
      t.router.entries := by
    apply Dict.ext_get?
    intro other
    rw [Dict.get?_map]
    cases present : t.router.entries.get? other with
    | none => rfl
    | some q =>
        rw [Option.map_some]
        split
        · next same =>
            obtain rfl := sound.pattern_eq present found same
            rw [← present]
            exact found.symm
        · rfl
  have gone : t.retired.map (fun q => if q.serial = p.serial then p else q) = t.retired := by
    refine (List.map_congr_left fun q member => ?_).trans (List.map_id t.retired)
    exact if_neg fun same => sound.serial_apart found (List.mem_map.2 ⟨q, member, same⟩)
  simp only [putPool, live, gone]

/-- Looking for the pool of a pattern leaves the table alone. -/
@[simp] theorem runOn_poolInPlace (pattern : String) (t : Table) :
    (poolInPlace pattern).runOn t =
      match t.pool? pattern with
      | some p => (.ok p, t)
      | none => (.error (.noPool pattern), t) := by
  simp only [poolInPlace, runOn_bind, runOn_get, requirePool]
  cases t.pool? pattern <;> rfl

/-- Adding a pool in place does what adding it as a whole does: all that may fail comes before the
first write. -/
theorem addPoolInPlace_eq (l : Location) (t : Table) :
    (addPoolInPlace l).runOn t = kept t (t.addPool l) := by
  rw [addPoolInPlace, addPool, insertPool_eq]
  cases Pattern.check l.pattern with
  | error fault => rfl
  | ok =>
      simp only [Except.mapError, runOn_bind, runOn_check_ok]
      split
      · rfl
      · simp only [runOn_bind, runOn_get]
        split
        · rfl
        · cases Pool.build t.nextSerial t.settings l <;> rfl

/-- Removing a pool in place does what removing it as a whole does. -/
theorem removePoolInPlace_eq (pattern : String) (t : Table) :
    (removePoolInPlace pattern).runOn t = kept t ((t.removePool pattern).map ((), ·)) := by
  cases found : t.pool? pattern with
  | some p =>
      rw [removePool_of_pool found, removePoolInPlace]
      simp only [runOn_bind, runOn_get, runOn_modify, found]
      rfl
  | none =>
      have absent : t.router.entries.erase pattern = t.router.entries := Dict.erase_of_absent found
      rw [removePool, requirePool, found, removePoolInPlace]
      simp only [runOn_bind, runOn_get, runOn_modify, found, runOn_throw, Router.erase, absent]
      rfl

/-- The programs on a table that change one of its pools first. -/
theorem runOn_onPool {α : Type} (p : Pool) (program : InPlace Pool PoolError α) (t : Table) :
    (onPool p program).runOn t =
      ((program.runOn p).1.mapError .pool, t.putPool (program.runOn p).2) := rfl

/-- Adding a host to a sound table in place, to the pool and then to the location, does what adding
it as a whole does. -/
theorem Sound.addHostInPlace_eq (sound : t.Sound) (pattern raw : String) :
    (addHostInPlace pattern raw).runOn t = kept t (t.addHost pattern raw) := by
  rw [addHostInPlace, addHost, requirePool]
  simp only [runOn_bind, runOn_poolInPlace, runOn_onPool, Pool.addHostInPlace_eq]
  cases found : t.pool? pattern with
  | none => rfl
  | some p =>
      simp only [bind, Except.bind]
      cases p.addHost raw with
      | error error =>
          simp only [kept, Except.mapError, sound.putPool_self found]
      | ok answer => rfl

/-- Removing a host in place, from the location and then from the pool, does what removing it as a
whole does, also when the checks of the host do not stop in time. -/
theorem removeHostInPlace_eq (pattern host : String) (checksStop : Bool) (t : Table) :
    (removeHostInPlace pattern host checksStop).runOn t = t.removeHost pattern host checksStop := by
  rw [removeHostInPlace, removeHost]
  simp only [runOn_bind, runOn_poolInPlace]
  cases t.pool? pattern with
  | none => rfl
  | some p =>
      simp only
      cases p.containsHost ((Backend.address? host).getD host) with
      | false => rfl
      | true =>
          simp only [Bool.not_true, Bool.false_eq_true, ↓reduceIte, runOn_bind,
            runOn_modify, runOn_onPool, Pool.removeHostInPlace_eq]

/-- Changing the balancer of a pool in place, and then its location, does what changing it as a
whole does. -/
theorem Sound.changeBalancerInPlace_eq (sound : t.Sound) (pattern mode : String) :
    (changeBalancerInPlace pattern mode).runOn t =
      kept t ((t.changeBalancer pattern mode).map ((), ·)) := by
  rw [changeBalancerInPlace, changeBalancer, requirePool]
  simp only [runOn_bind, runOn_poolInPlace, runOn_onPool, Pool.changeBalancerInPlace_eq]
  cases found : t.pool? pattern with
  | none => rfl
  | some p =>
      simp only [bind, Except.bind]
      cases p.changeBalancer mode with
      | error error => simp only [kept, Except.map, Except.mapError, sound.putPool_self found]
      | ok q => rfl

/-- Setting a limiter in place does what setting it as a whole does: the three writes to the records
make one. -/
theorem setLimiterInPlace_eq (s : LimiterSetting) (instant : Nat) (t : Table) :
    (setLimiterInPlace s instant).runOn t =
      kept t ((t.setLimiter s instant).map ((), ·)) := by
  rw [setLimiterInPlace, setLimiter, requirePool]
  simp only [runOn_bind, runOn_poolInPlace, runOn_onPool]
  cases t.pool? s.pattern with
  | none => rfl
  | some p =>
      simp only [bind, Except.bind]
      cases limiterOf s instant with
      | error error => rfl
      | ok limiter =>
          have whole : ((t.limiters.insert s.pattern (t.limiterSettings s.pattern)).modify s.pattern
              (·.filter (·.path ≠ s.path))).modify s.pattern (· ++ [s]) =
                t.limiters.insert s.pattern
                  ((t.limiterSettings s.pattern).filter (·.path ≠ s.path) ++ [s]) := by
            apply Dict.ext_get?
            intro other
            simp only [Dict.get?_modify, Dict.get?_insert]
            by_cases same : other = s.pattern
            · simp [same]
            · simp [same, Ne.symm same]
          have settings : (t.putPool (p.installLimiter s.path limiter)).limiterSettings s.pattern =
              t.limiterSettings s.pattern := rfl
          simp only [Except.mapError, runOn_check_ok, runOn_modify, settings, kept, Except.map]
          exact congrArg (fun limiters => (Except.ok (),
            { t.putPool (p.installLimiter s.path limiter) with limiters })) whole

end Table

/-! ### The access list -/

namespace AccessList

/-- Blocks a network under a tag in place, in the trie first. -/
def addInPlace (cidr tag : String) : InPlace AccessList AclError Unit := do
  if tag.isEmpty then throw (.emptyTag cidr)
  let net ← check (parseCidr cidr)
  modify fun acl => { acl with trie := acl.trie.insert net.path tag }
  modify fun acl => { acl with records := acl.records.insert net.text () }

/-- Blocks a network under its own text in place. -/
def blockInPlace (cidr : String) : InPlace AccessList AclError Unit := do
  let net ← check (parseCidr cidr)
  addInPlace cidr net.text

/-- Frees a network in place, in the trie first, which tells whether it was blocked. -/
def deleteInPlace (cidr : String) : InPlace AccessList AclError Unit := do
  let net ← check (parseCidr cidr)
  let (known, trie) := (← get).trie.erase net.path
  modify fun acl => { acl with trie }
  if !known then throw (.notFound cidr)
  modify fun acl => { acl with records := acl.records.erase net.text }

/-- Blocking a network under a tag in place does what blocking it as a whole does. -/
theorem addInPlace_eq (cidr tag : String) (acl : AccessList) :
    (addInPlace cidr tag).runOn acl = kept acl ((acl.add cidr tag).map ((), ·)) := by
  rw [addInPlace, add]
  split
  · rfl
  · cases parseCidr cidr <;> rfl

theorem blockInPlace_eq (cidr : String) (acl : AccessList) :
    (blockInPlace cidr).runOn acl = kept acl ((acl.block cidr).map ((), ·)) := by
  rw [blockInPlace, block]
  cases read : parseCidr cidr with
  | error error => rfl
  | ok net =>
      have tagged : net.text.isEmpty = false := by
        rw [Bool.eq_false_iff]
        intro bare
        have empty : net.text = "" := by simpa using bare
        have again := parseCidr_text net
        have refused : parseCidr "" = .error (.invalidAddress "") := by decide
        rw [empty, refused] at again
        exact absurd again (by simp)
      simp only [runOn_bind, runOn_check_ok, addInPlace, tagged, read]
      rfl

/-- A trie that holds no value at a bit string is left as it is when the string is taken out. -/
theorem erase_of_unknown {trie : BitTrie String} {path : List Bool}
    (unknown : (trie.erase path).1 = false) : (trie.erase path).2 = trie := by
  rw [BitTrie.erase] at unknown ⊢
  generalize trie.descend 0 path = last at *
  obtain ⟨i, rest⟩ := last
  cases rest with
  | cons bit rest => rfl
  | nil =>
      dsimp only at unknown ⊢
      split
      · rfl
      · next value =>
          rw [if_neg value] at unknown
          split at unknown <;> exact absurd unknown (by simp)

/-- Freeing a network in place does what freeing it as a whole does: a trie that does not know the
network is left as it was. -/
theorem deleteInPlace_eq (cidr : String) (acl : AccessList) :
    (deleteInPlace cidr).runOn acl = kept acl ((acl.delete cidr).map ((), ·)) := by
  rw [deleteInPlace, delete]
  cases parseCidr cidr with
  | error error => rfl
  | ok net =>
      simp only [runOn_bind, runOn_check_ok, runOn_get]
      simp only [bind, Except.bind]
      have same : (acl.trie.erase net.path).1 = false → (acl.trie.erase net.path).2 = acl.trie :=
        erase_of_unknown
      generalize acl.trie.erase net.path = erased at *
      obtain ⟨known, trie⟩ := erased
      cases known with
      | true => rfl
      | false =>
          obtain rfl := same rfl
          rfl

end AccessList

/-! ### Entries -/

namespace Machine

variable {m : Machine} {t : Table}

/-- Changes the access list in place. -/
def mutateInPlace (action : AclAction) (cidr : String) : InPlace Table AclError Unit := do
  part (·.acl) (fun t acl => { t with acl }) id
    (match action with
      | .insert => AccessList.blockInPlace cidr
      | .delete => AccessList.deleteInPlace cidr)
  modify countRules

/-- Runs a program on the table that reports its errors in another way. -/
def reported {ε α : Type} (wrap : ε → ApplyError) (program : InPlace Table ε α) :
    InPlace Table ApplyError Unit := do
  let _ ← part id (fun _ t => t) wrap program

/-- Makes the change of an entry in place. -/
def executeInPlace (around : Surroundings) : LogEntry → InPlace Table ApplyError Unit
  | .createPool l => reported .routing (Table.addPoolInPlace l)
  | .setRateLimiter s => reported .routing (Table.setLimiterInPlace s around.instant)
  | .aclMutate action cidr => reported .acl (mutateInPlace action cidr)
  | .removePool pattern => reported .routing (Table.removePoolInPlace pattern)
  | .removeHost pattern host =>
    reported .routing (Table.removeHostInPlace pattern host around.checksStop)
  | .addHost pattern host => reported .routing (Table.addHostInPlace pattern host)
  | .changeBalancer pattern mode => reported .routing (Table.changeBalancerInPlace pattern mode)

/-- Applies a committed entry in place. -/
def applyInPlace (around : Surroundings) (index : LogIndex) (bytes : Bytes) :
    InPlace Machine ApplyError Unit := do
  modify fun m => { m with lastApplied := index }
  if (← get).diverged then
    modify fun m => { m with table := countFailure m.table .diverged }
    throw .diverged
  match LogEntry.decode bytes with
  | .error error =>
    modify fun m => { m with diverged := true }
    modify fun m => { m with table := countFailure m.table (.decode error) }
    throw (.decode error)
  | .ok entry =>
    let result ← observe
      (part (·.table) (fun m table => { m with table }) id (executeInPlace around entry))
    match result with
    | .ok () => modify fun m => { m with table := countApplied m.table entry.op }
    | .error error =>
      modify fun m => { m with table := countFailure m.table error }
      throw error

/-- A program on the table whose errors are reported in other words leaves the table as it leaves
it. -/
theorem runOn_reported {ε α : Type} (wrap : ε → ApplyError) (program : InPlace Table ε α)
    (t : Table) :
    (reported wrap program).runOn t =
      (((program.runOn t).1.map fun _ => ()).mapError wrap, (program.runOn t).2) := by
  simp only [reported, runOn_bind, runOn_part, id]
  cases (program.runOn t).1 <;> rfl

/-- A change that is refused before anything is written is like one of the whole table. -/
theorem reported_of_kept {ε α : Type} {wrap : ε → ApplyError} {program : InPlace Table ε α}
    {result : Except ε (α × Table)} (same : program.runOn t = kept t result) :
    (reported wrap program).runOn t = outcome t wrap (result.map (·.2)) := by
  rw [runOn_reported, same]
  cases result <;> rfl

theorem mutateInPlace_eq (action : AclAction) (cidr : String) (t : Table) :
    (mutateInPlace action cidr).runOn t = kept t ((mutate t action cidr).map ((), ·)) := by
  cases action with
  | insert =>
      simp only [mutateInPlace, mutate, runOn_bind, runOn_part, AccessList.blockInPlace_eq]
      cases t.acl.block cidr <;> rfl
  | delete =>
      simp only [mutateInPlace, mutate, runOn_bind, runOn_part, AccessList.deleteInPlace_eq]
      cases t.acl.delete cidr <;> rfl

/-- The writes of an entry, one after another, come to its change as a whole. -/
theorem executeInPlace_eq (sound : t.Sound) (around : Surroundings) (entry : LogEntry) :
    (executeInPlace around entry).runOn t = execute t around entry := by
  have mapped {ε : Type} (result : Except ε Table) :
      (result.map (((), ·) : Table → Unit × Table)).map (·.2) = result := by cases result <;> rfl
  cases entry with
  | createPool l => exact reported_of_kept (t.addPoolInPlace_eq l)
  | setRateLimiter s =>
      exact (reported_of_kept (t.setLimiterInPlace_eq s around.instant)).trans
        (by rw [mapped, execute])
  | aclMutate action cidr =>
      exact (reported_of_kept (mutateInPlace_eq action cidr t)).trans (by rw [mapped, execute])
  | removePool pattern =>
      exact (reported_of_kept (t.removePoolInPlace_eq pattern)).trans (by rw [mapped, execute])
  | removeHost pattern host =>
      rw [executeInPlace, runOn_reported, Table.removeHostInPlace_eq, execute]
      generalize t.removeHost pattern host around.checksStop = done
      obtain ⟨result, after⟩ := done
      cases result <;> rfl
  | addHost pattern host => exact reported_of_kept (sound.addHostInPlace_eq pattern host)
  | changeBalancer pattern mode =>
      exact (reported_of_kept (sound.changeBalancerInPlace_eq pattern mode)).trans
        (by rw [mapped, execute])

/-- A sound machine that applies an entry in place, write by write, ends up where it ends up when it
applies the entry as a whole. -/
theorem Sound.applyInPlace_eq (sound : m.Sound) (around : Surroundings) (index : LogIndex)
    (bytes : Bytes) :
    (applyInPlace around index bytes).runOn m = m.apply around index bytes := by
  rw [applyInPlace, Machine.apply]
  simp only [runOn_bind, runOn_modify, runOn_get]
  cases m.diverged with
  | true => rfl
  | false =>
      simp only [Bool.false_eq_true, ↓reduceIte]
      cases LogEntry.decode bytes with
      | error error => rfl
      | ok entry =>
          simp only [runOn_bind, runOn_observe, runOn_part, executeInPlace_eq sound.table]
          generalize execute m.table around entry = executed
          obtain ⟨result, table⟩ := executed
          cases result <;> rfl

end Machine

end ClusterGateway
