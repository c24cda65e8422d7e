import ClusterGateway.Proofs.Route.Runs

/-! # What a machine makes of entries and snapshots

Every machine keeps its table and its access list in order. Then what an entry or a snapshot makes
of its configuration depends on that configuration alone, and not on its pools, its balancers, the
state of its checks or the time.
-/

namespace ClusterGateway

/-- What machines that follow one log have in common. -/
structure Replica where
  configuration : Configuration := {}
  /-- Whether the log can no longer be followed. -/
  diverged : Bool := false
deriving DecidableEq

namespace Replica

/-- Takes in a committed entry. -/
def follow (r : Replica) (bytes : Bytes) : Replica :=
  if r.diverged then r
  else
    match LogEntry.decode bytes with
    | .ok entry => { r with configuration := r.configuration.after entry }
    | .error _ => { r with diverged := true }

/-- Takes over a snapshot; one that cannot be read changes nothing. -/
def adopt (r : Replica) (bytes : Bytes) : Replica :=
  match StateSnapshot.ofBytes bytes with
  | .ok s => { configuration := Configuration.restored s }
  | .error _ => r

/-- Takes in the entries of a log one after another. -/
def followAll (r : Replica) (log : List Bytes) : Replica := log.foldl follow r

theorem follow_of_diverged {r : Replica} (diverged : r.diverged = true) (bytes : Bytes) :
    r.follow bytes = r :=
  if_pos diverged

/-- A replica that follows the log makes the change of an entry that it can read. -/
theorem follow_of_decode {r : Replica} (following : r.diverged = false) {bytes : Bytes}
    {entry : LogEntry} (read : LogEntry.decode bytes = .ok entry) :
    r.follow bytes = { r with configuration := r.configuration.after entry } := by
  rw [follow, following, read]
  rfl

/-- A replica diverges with the first entry that it cannot read. -/
theorem follow_of_error {r : Replica} (following : r.diverged = false) {bytes : Bytes}
    {error : DecodeError} (read : LogEntry.decode bytes = .error error) :
    r.follow bytes = { r with diverged := true } := by
  rw [follow, following, read]
  rfl

/-! ### Replicas in step -/

/-- Replicas follow the log alike, and block the same networks. -/
structure InStep (r q : Replica) : Prop where
  diverged : q.diverged = r.diverged
  blocked : q.configuration.blocked = r.configuration.blocked

variable {r q : Replica}

/-- What one entry does to two replicas: they stay as they were, or both take it in, or both
diverge. -/
theorem InStep.follow_cases (level : r.InStep q) (bytes : Bytes) :
    (r.follow bytes = r ∧ q.follow bytes = q) ∨
      (∃ entry, LogEntry.decode bytes = .ok entry ∧
        r.follow bytes = { r with configuration := r.configuration.after entry } ∧
        q.follow bytes = { q with configuration := q.configuration.after entry }) ∨
      (r.follow bytes = { r with diverged := true } ∧
        q.follow bytes = { q with diverged := true }) := by
  rcases Bool.eq_false_or_eq_true r.diverged with diverged | following
  · exact Or.inl ⟨follow_of_diverged diverged bytes,
      follow_of_diverged (level.diverged.trans diverged) bytes⟩
  · have other := level.diverged.trans following
    cases read : LogEntry.decode bytes with
    | ok entry =>
        exact Or.inr (Or.inl ⟨entry, rfl, follow_of_decode following read,
          follow_of_decode other read⟩)
    | error error =>
        exact Or.inr (Or.inr ⟨follow_of_error following read, follow_of_error other read⟩)

/-- Replicas that follow the log alike still do so after one more entry. -/
theorem InStep.follow (level : r.InStep q) (bytes : Bytes) :
    (r.follow bytes).InStep (q.follow bytes) := by
  rcases level.follow_cases bytes with ⟨here, there⟩ | ⟨entry, _, here, there⟩ | ⟨here, there⟩
  · rwa [here, there]
  · rw [here, there]
    exact ⟨level.diverged, Configuration.blocked_after level.blocked entry⟩
  · rw [here, there]
    exact ⟨rfl, level.blocked⟩

/-- Replicas in step that are the same at a pattern are the same there after every entry. -/
theorem InStep.sameAt_follow (level : r.InStep q) {pattern : String}
    (same : Configuration.SameAt pattern r.configuration q.configuration) (bytes : Bytes) :
    Configuration.SameAt pattern (r.follow bytes).configuration (q.follow bytes).configuration := by
  rcases level.follow_cases bytes with ⟨here, there⟩ | ⟨entry, _, here, there⟩ | ⟨here, there⟩
  · rwa [here, there]
  · rw [here, there]
    exact same.after entry
  · rw [here, there]
    exact same

/-- Replicas in step stay in step under one log. -/
theorem InStep.followAll (level : r.InStep q) (log : List Bytes) :
    (r.followAll log).InStep (q.followAll log) := by
  induction log generalizing r q with
  | nil => exact level
  | cons bytes log ih => exact ih (level.follow bytes)

/-- Where two replicas in step have the same at a pattern, they have the same there after any
entries. -/
theorem InStep.sameAt_followAll (level : r.InStep q) {pattern : String}
    (same : Configuration.SameAt pattern r.configuration q.configuration) (log : List Bytes) :
    Configuration.SameAt pattern (r.followAll log).configuration
      (q.followAll log).configuration := by
  induction log generalizing r q with
  | nil => exact same
  | cons bytes log ih => exact ih (level.follow bytes) (level.sameAt_follow same bytes)

/-- Whether some entry of a log removes the pool of a pattern, and all before it can be read. -/
def removes (pattern : String) : List Bytes → Bool
  | [] => false
  | bytes :: log =>
    match LogEntry.decode bytes with
    | .ok entry => decide (entry = .removePool pattern) || removes pattern log
    | .error _ => false

/-- A log that removes the pool of a pattern makes replicas in step the same there, whatever they
had before. -/
theorem InStep.sameAt_of_removes (level : r.InStep q) (following : r.diverged = false)
    {pattern : String} {log : List Bytes} (removed : removes pattern log = true) :
    Configuration.SameAt pattern (r.followAll log).configuration
      (q.followAll log).configuration := by
  induction log generalizing r q with
  | nil => exact absurd removed Bool.false_ne_true
  | cons bytes log ih =>
      rw [removes] at removed
      cases read : LogEntry.decode bytes with
      | error error =>
          rw [read] at removed
          exact absurd removed Bool.false_ne_true
      | ok entry =>
          simp only [read, Bool.or_eq_true, decide_eq_true_iff] at removed
          have here := follow_of_decode following read
          rcases removed with rfl | removed
          · refine (level.follow bytes).sameAt_followAll ?_ log
            rw [here, follow_of_decode (level.diverged.trans following) read]
            exact Configuration.sameAt_removePool pattern r.configuration q.configuration
          · exact ih (level.follow bytes) (by rw [here]; exact following) removed

end Replica

namespace Machine

variable {m : Machine} {t : Table}

/-- The configuration of a machine. -/
def configuration (m : Machine) : Configuration := m.table.configuration

/-- What a machine has in common with others that follow the log. -/
def replica (m : Machine) : Replica := ⟨m.configuration, m.diverged⟩

theorem state_eq (m : Machine) : m.state = m.configuration.state := rfl

/-- A machine whose table and access list are in order. -/
structure Sound (m : Machine) : Prop where
  table : m.table.Sound
  acl : m.table.acl.Sound
  fits : m.configuration.Fits

/-- Every network that a sound machine blocks has its canonical text. -/
theorem Sound.named (sound : m.Sound) : m.configuration.Named := sound.acl.named

/-- A machine that has not applied anything. -/
def fresh (settings : PoolSettings) (hostWait : Nat) : Machine where
  table := { settings, hostWait }

/-- A machine that has not applied anything is sound, whatever its settings are. -/
theorem sound_fresh (settings : PoolSettings) (hostWait : Nat) : (fresh settings hostWait).Sound :=
  ⟨Table.sound_empty settings hostWait .empty, AccessList.sound_empty,
    Configuration.fits_empty _⟩

/-! ### Entries -/

/-- What a change of the access list makes of a table. -/
theorem makes_mutate (sound : t.Sound) (acl : t.acl.Sound) (action : AclAction) (cidr : String) :
    (t.attempt (mutate t action cidr)).Sound ∧ (t.attempt (mutate t action cidr)).acl.Sound ∧
      (t.attempt (mutate t action cidr)).configuration =
        t.configuration.after (.aclMutate action cidr) := by
  cases read : parseCidr cidr with
  | error error =>
      rw [Configuration.after_aclMutate_of_error read]
      cases action with
      | insert =>
          simp only [mutate, AccessList.block, read]
          exact ⟨sound, acl, rfl⟩
      | delete =>
          simp only [mutate, AccessList.delete, read]
          exact ⟨sound, acl, rfl⟩
  | ok net =>
      cases action with
      | insert =>
          rw [Configuration.after_insert read]
          simp only [mutate, AccessList.block, read]
          exact ⟨(sound.withAcl _).of_steady ⟨rfl, rfl, rfl, rfl, rfl, rfl⟩,
            acl.put net net.text, rfl⟩
      | delete =>
          obtain ⟨present, absent⟩ := acl.delete read
          rw [Configuration.after_delete read]
          simp only [mutate]
          cases known : t.acl.records.contains net.text with
          | true =>
              obtain ⟨left, deleted, kept, records⟩ := present known
              rw [deleted]
              exact ⟨(sound.withAcl left).of_steady ⟨rfl, rfl, rfl, rfl, rfl, rfl⟩, kept, congrArg
                (fun blocked => ({ t.configuration with blocked } : Configuration)) records⟩
          | false =>
              rw [absent known]
              rw [Dict.contains, Option.isSome_eq_false_iff, Option.isNone_iff_eq_none] at known
              exact ⟨sound, acl, congrArg
                (fun blocked => ({ t.configuration with blocked } : Configuration))
                (Dict.erase_of_absent known).symm⟩

/-- The outcome of a change is the changed table, or the old one if the change has failed. -/
theorem outcome_snd {ε : Type} (t : Table) (wrap : ε → ApplyError) (result : Except ε Table) :
    (outcome t wrap result).2 = t.attempt result := by
  cases result <;> rfl

/-- What an entry makes of a table does not depend on the surroundings, even where the answer
does. -/
theorem execute_spec (sound : t.Sound) (acl : t.acl.Sound) (around : Surroundings)
    (entry : LogEntry) :
    (execute t around entry).2.Sound ∧ (execute t around entry).2.acl.Sound ∧
      (execute t around entry).2.configuration = t.configuration.after entry := by
  have made {ε : Type} {result : Except ε Table} (change : t.Makes entry result) :
      (t.attempt result).Sound ∧ (t.attempt result).acl.Sound ∧
        (t.attempt result).configuration = t.configuration.after entry := by
    obtain ⟨kept, same, after⟩ := sound.attempt change
    exact ⟨kept, same ▸ acl, after⟩
  cases entry with
  | createPool l =>
      rw [execute, outcome_snd]
      exact made (sound.makes_addPool l)
  | setRateLimiter s =>
      rw [execute, outcome_snd]
      exact made (sound.makes_setLimiter s around.instant)
  | aclMutate action cidr =>
      rw [execute, outcome_snd]
      exact makes_mutate sound acl action cidr
  | removePool pattern =>
      rw [execute, outcome_snd]
      exact made (sound.makes_removePool pattern)
  | removeHost pattern host =>
      obtain ⟨kept, same, after⟩ := sound.removeHost pattern host around.checksStop
      exact ⟨kept, same ▸ acl, after⟩
  | addHost pattern raw =>
      rw [execute, outcome_snd]
      exact made (sound.makes_addHost pattern raw)
  | changeBalancer pattern mode =>
      rw [execute, outcome_snd]
      exact made (sound.makes_changeBalancer pattern mode)

/-- The counters of a machine do not matter. -/
theorem Sound.of_steady (sound : m.Sound) {table : Table} (steady : m.table.Steady table)
    (diverged : Bool) (lastApplied : LogIndex) : Sound { table, diverged, lastApplied } := by
  refine ⟨sound.table.of_steady steady, ?_, ?_⟩
  · change table.acl.Sound
    rw [steady.acl]
    exact sound.acl
  · change table.configuration.Fits
    rw [steady.configuration]
    exact sound.fits

theorem steady_countFailure (t : Table) (error : ApplyError) : t.Steady (countFailure t error) :=
  ⟨rfl, rfl, rfl, rfl, rfl, rfl⟩

theorem steady_countApplied (t : Table) (op : OpCode) : t.Steady (countApplied t op) :=
  ⟨rfl, rfl, rfl, rfl, rfl, rfl⟩

/-- Every entry keeps a machine sound, and is taken in as by any other machine. -/
theorem Sound.apply (sound : m.Sound) (around : Surroundings) (index : LogIndex) (bytes : Bytes) :
    (m.apply around index bytes).2.Sound ∧
      (m.apply around index bytes).2.replica = m.replica.follow bytes := by
  rw [Machine.apply, Replica.follow]
  dsimp only
  change _ ∧ _ = if m.diverged then _ else _
  split
  · exact ⟨sound.of_steady (steady_countFailure m.table _) _ _, rfl⟩
  · cases read : LogEntry.decode bytes with
    | error error => exact ⟨sound.of_steady (steady_countFailure m.table _) _ _, rfl⟩
    | ok entry =>
        obtain ⟨kept, acl, after⟩ := execute_spec sound.table sound.acl around entry
        have done : Sound { m with table := (execute m.table around entry).2 } :=
          ⟨kept, acl, by
            change (execute m.table around entry).2.configuration.Fits
            rw [after]
            exact sound.fits.after (LogEntry.fits_of_decode read)⟩
        dsimp only
        generalize execute m.table around entry = executed at *
        obtain ⟨result, table⟩ := executed
        cases result with
        | ok =>
            exact ⟨done.of_steady (steady_countApplied table entry.op) _ _,
              congrArg (fun c => Replica.mk c m.diverged) after⟩
        | error error =>
            exact ⟨done.of_steady (steady_countFailure table error) _ _,
              congrArg (fun c => Replica.mk c m.diverged) after⟩

/-! ### Snapshots -/

/-- The records of any snapshot give an access list. -/
theorem exists_list_of_records (records : List String) :
    ∃ built : AccessList, (AccessList.ofRecords (canonicalRecords records)).toOption = some built ∧
      built.Sound ∧ built.records = AccessList.recorded (networksOf records) := by
  obtain ⟨built, whole, sound, recorded⟩ := AccessList.ofRecords_map_text (networksOf records)
  exact ⟨built, by rw [canonicalRecords_eq, whole]; rfl, sound, recorded⟩

/-- A machine that takes over a state has the configuration that is rebuilt from it. -/
theorem Sound.adopt (sound : m.Sound) (around : Surroundings) {s : StateSnapshot}
    (fits : s.routing.Fits) :
    (m.adopt around s).Sound ∧ (m.adopt around s).replica = ⟨Configuration.restored s, false⟩ := by
  obtain ⟨built, given, acl, records⟩ := exists_list_of_records s.records
  obtain ⟨kept, same, rebuilt⟩ := sound.table.restore s.routing (some built) around.instant
  rw [Option.getD_some] at same rebuilt
  rw [records] at rebuilt
  rw [Machine.adopt, given]
  have steady : (m.table.restore s.routing (some built) around.instant).Steady
      (countRules (m.table.restore s.routing (some built) around.instant)) :=
    ⟨rfl, rfl, rfl, rfl, rfl, rfl⟩
  have restored : Sound { m with
      table := m.table.restore s.routing (some built) around.instant } := by
    refine ⟨kept, same ▸ acl, ?_⟩
    change (m.table.restore s.routing (some built) around.instant).configuration.Fits
    rw [rebuilt]
    exact Configuration.fits_restored fits
  exact ⟨restored.of_steady steady _ _, congrArg (Replica.mk · false) rebuilt⟩

/-- A machine takes over any snapshot that can be read, as any other machine does. -/
theorem Sound.restore_of_read (sound : m.Sound) (around : Surroundings) {bytes : Bytes}
    {s : StateSnapshot} (read : StateSnapshot.ofBytes bytes = .ok s) :
    ∃ after, m.restore around bytes = .ok after ∧ after.Sound ∧
      after.replica = m.replica.adopt bytes := by
  obtain ⟨kept, same⟩ := sound.adopt around (StateSnapshot.fits_of_ofBytes read)
  refine ⟨m.adopt around s, by rw [Machine.restore, read]; rfl, kept, ?_⟩
  rw [same, Replica.adopt, read]

/-- A snapshot that cannot be read is not restored. -/
theorem restore_of_error {bytes : Bytes} {error : SnapshotError}
    (fault : StateSnapshot.ofBytes bytes = .error error) (around : Surroundings) :
    m.restore around bytes = .error error := by
  rw [Machine.restore, fault]
  rfl

/-! ### Requests and checks -/

/-- Lets a step of a request or of a check happen. -/
def serve (m : Machine) (event : Traffic) : Machine := { m with table := m.table.serve event }

/-- Requests and checks keep a machine sound, and leave what it has in common with others as it
is. -/
theorem Sound.serve (sound : m.Sound) (event : Traffic) :
    (m.serve event).Sound ∧ (m.serve event).replica = m.replica := by
  have steady := sound.table.steady_serve event
  exact ⟨sound.of_steady steady _ _, congrArg (Replica.mk · m.diverged) steady.configuration⟩

end Machine

end ClusterGateway
