import ClusterGateway.Proofs.Replication.CatchUp

/-! # Snapshots have a normal form

What a machine makes of a snapshot is settled by the octets of the snapshot. The pools it had, those
out of service among them, its blocked networks, its checks, its counters and whether it had
diverged play no part, so machines in any two states come to the same state. What they come to is a
normal form: its own snapshot leads back to it, although a document that was never the snapshot of a
machine may hold networks with host bits, locations that cannot be built or lie under a foreign key,
and limiters that belong to no pool.
-/

namespace ClusterGateway

namespace Configuration

/-! ### What is rebuilt is in normal form -/

/-- What is rebuilt from a snapshot is well formed, whatever the snapshot has. -/
theorem wellFormed_restored (s : StateSnapshot) : (restored s).WellFormed := by
  have pools : WellFormed (s.routing.locations.values.foldl (fun c l => after c (.createPool l))
      { blocked := AccessList.recorded (networksOf s.records) }) :=
    List.foldlRecOn _ _ (wellFormed_empty _) fun _ kept _ _ => kept.after _
  exact List.foldlRecOn _ _ pools fun _ known _ _ =>
    List.foldlRecOn _ _ known fun _ kept _ _ => kept.after _

/-- After a restore the networks are blocked that the texts of the snapshot spell, under their
canonical texts. -/
theorem blocked_restored (s : StateSnapshot) :
    (restored s).blocked = AccessList.recorded (networksOf s.records) :=
  congrArg Configuration.blocked
    (rebuilt_withBlocked (AccessList.recorded (networksOf s.records)) {} s.routing)

/-- After a restore every blocked network has its canonical text. -/
theorem named_restored (s : StateSnapshot) : (restored s).Named := by
  obtain ⟨built, -, sound, records⟩ := Machine.exists_list_of_records s.records
  intro record known
  rw [blocked_restored, ← records] at known
  exact sound.named record known

/-- Every location has a host. -/
def Hosted (c : Configuration) : Prop :=
  ∀ pattern l, c.locations.get? pattern = some l → l.proxyPass ≠ []

/-- A pool that can be created has a host, so every location has one still. -/
theorem Hosted.createPool {c : Configuration} (hosted : c.Hosted) (l : Location) :
    (c.after (.createPool l)).Hosted := by
  rw [after_createPool]
  split
  · next fresh =>
      intro pattern k found
      rw [Dict.get?_insert] at found
      split at found
      · exact Option.some.inj found ▸ fresh.1.hosts
      · exact hosted pattern k found
  · exact hosted

/-- Locations without hosts are left out, and limiters change no location. -/
theorem hosted_restored (s : StateSnapshot) : (restored s).Hosted := by
  have pools : Hosted (s.routing.locations.values.foldl (fun c l => after c (.createPool l))
      { blocked := AccessList.recorded (networksOf s.records) }) :=
    List.foldlRecOn _ _ (fun _ _ found => absurd found (by simp)) fun _ kept l _ =>
      kept.createPool l
  exact List.foldlRecOn (motive := Hosted) _ _ pools fun c kept e _ pattern l found =>
    kept pattern l (c.locations_withLimiters e ▸ found)

/-- What is rebuilt from a snapshot is rebuilt from its own snapshot. -/
theorem restored_state_restored (s : StateSnapshot) : restored (restored s).state = restored s :=
  restored_state (wellFormed_restored s) (named_restored s) (hosted_restored s)

end Configuration

namespace Table

variable {t u : Table}

/-! ### Pools out of service play no part -/

/-- Two tables that differ at most in their pools out of service. -/
def InServiceAlike (t u : Table) : Prop := ∃ past, u = { t with retired := past }

/-- Pools that are out of service do not show in a configuration. -/
theorem InServiceAlike.configuration (alike : t.InServiceAlike u) :
    u.configuration = t.configuration := by
  obtain ⟨past, rfl⟩ := alike
  rfl

/-- An attempt to add a pool comes to the same, whatever pools are out of service. -/
theorem InServiceAlike.insertPool (alike : t.InServiceAlike u) (l : Location) :
    (t.attempt ((t.insertPool l).map (·.2))).InServiceAlike
      (u.attempt ((u.insertPool l).map (·.2))) := by
  obtain ⟨past, rfl⟩ := alike
  refine ⟨past, ?_⟩
  rw [insertPool_eq, insertPool_eq]
  cases Pattern.check l.pattern with
  | error fault => rfl
  | ok =>
      cases l.proxyPass.isEmpty with
      | true => rfl
      | false =>
          cases t.router.contains l.pattern with
          | true => simp [Except.map, attempt]
          | false =>
              cases Pool.build t.nextSerial t.settings l <;> simp [Except.map, attempt, withPool]

theorem InServiceAlike.setLimiter (alike : t.InServiceAlike u) (s : LimiterSetting)
    (instant : Nat) :
    (t.attempt (t.setLimiter s instant)).InServiceAlike (u.attempt (u.setLimiter s instant)) := by
  obtain ⟨past, rfl⟩ := alike
  rw [Table.setLimiter, Table.setLimiter]
  have same : ({ t with retired := past } : Table).requirePool s.pattern =
      t.requirePool s.pattern := rfl
  rw [same]
  cases t.requirePool s.pattern with
  | error error => exact ⟨past, rfl⟩
  | ok p =>
      cases limiterOf s instant with
      | error error => exact ⟨past, rfl⟩
      | ok limiter => exact ⟨_, rfl⟩

/-- Changes that leave tables alike do so one after another. -/
theorem InServiceAlike.foldl {α : Type} {f : Table → α → Table}
    (step : ∀ {t u : Table} (a : α), t.InServiceAlike u → (f t a).InServiceAlike (f u a))
    (alike : t.InServiceAlike u) (changes : List α) :
    (changes.foldl f t).InServiceAlike (changes.foldl f u) := by
  induction changes generalizing t u with
  | nil => exact alike
  | cons a changes ih => exact ih (step a alike)

/-- A rebuild comes to the same, whatever pools were out of service before. -/
theorem InServiceAlike.rebuild (alike : t.InServiceAlike u) (s : RoutingState) (instant : Nat) :
    (t.rebuild s instant).InServiceAlike (u.rebuild s instant) :=
  (alike.foldl (fun l same => same.insertPool l) s.locations.values).foldl
    (fun e same => same.foldl (fun l kept => kept.setLimiter l instant)
      (e.2.filter (·.pattern = e.1))) s.limiters.entries

/-- Whatever a table was like, it takes over a state as a table without pools does. -/
theorem configuration_restore (t : Table) (s : RoutingState) (acl : Option AccessList)
    (instant : Nat) :
    (t.restore s acl instant).configuration =
      Configuration.rebuilt { blocked := (acl.getD t.acl).records } s := by
  let bare : Table := { t with router := {}, locations := ∅, limiters := ∅, retired := [] }
  have emptied : bare.InServiceAlike t.cleared := ⟨_, by rw [cleared, foldl_retire]⟩
  have rebuilt : (t.cleared.rebuild s instant).configuration =
      Configuration.rebuilt { blocked := t.acl.records } s :=
    (emptied.rebuild s instant).configuration.trans
      ((sound_bare t).rebuild s instant).configuration
  have others := Configuration.rebuilt_withBlocked (acl.getD t.acl).records
    { blocked := t.acl.records } s
  rw [← rebuilt] at others
  exact others.symm

end Table

namespace Machine

variable {m : Machine}

/-! ### Taking over a snapshot -/

/-- A machine that takes over a snapshot has the configuration that is rebuilt from it, whatever it
had before. -/
theorem configuration_adopt (m : Machine) (around : Surroundings) (s : StateSnapshot) :
    (m.adopt around s).configuration = Configuration.restored s := by
  obtain ⟨built, given, -, records⟩ := exists_list_of_records s.records
  rw [adopt, given]
  have restored := m.table.configuration_restore s.routing (some built) around.instant
  rw [Option.getD_some, records] at restored
  exact restored

/-- A snapshot that can be read is taken over. -/
theorem restore_of_ofBytes {bytes : Bytes} {s : StateSnapshot}
    (read : StateSnapshot.ofBytes bytes = .ok s) (m : Machine) (around : Surroundings) :
    m.restore around bytes = .ok (m.adopt around s) := by
  rw [restore, read]
  rfl

/-- The state of a machine that takes over a snapshot depends on the snapshot alone. -/
theorem state_adopt (m : Machine) (around : Surroundings) (s : StateSnapshot) :
    (m.adopt around s).state = (Configuration.restored s).state := by
  rw [state_eq, configuration_adopt]

/-- A machine comes to a state that its own snapshot leads back to. -/
theorem restore_snapshot_adopt (m : Machine) (around : Surroundings) {s : StateSnapshot}
    (fits : s.routing.Fits) (third : Machine) (later : Surroundings) :
    ∃ again, third.restore later (m.adopt around s).snapshot = .ok again ∧
      again.snapshot = (m.adopt around s).snapshot := by
  have read : StateSnapshot.ofBytes (m.adopt around s).snapshot =
      .ok (Configuration.restored s).state := by
    rw [snapshot, state_adopt]
    exact StateSnapshot.ofBytes_toBytes (Configuration.fits_restored fits)
  refine ⟨_, restore_of_ofBytes read third later, ?_⟩
  rw [snapshot, snapshot, state_adopt, state_adopt, Configuration.restored_state_restored]

/-- The octets of a snapshot settle what any machine makes of them. If they cannot be read, any two
machines refuse them and stay as they are. Otherwise both follow the log again in one state, which is
a normal form: any machine that restores its stored form has that stored form itself. -/
theorem restore_settled_by_octets (m other : Machine) (around beside : Surroundings)
    (bytes : Bytes) :
    (∃ error, StateSnapshot.ofBytes bytes = .error error ∧
        m.restore around bytes = .error error ∧ other.restore beside bytes = .error error ∧
        m.undergo (.restore around bytes) = m ∧
        other.undergo (.restore beside bytes) = other) ∨
      ∃ s after beyond, StateSnapshot.ofBytes bytes = .ok s ∧
        m.restore around bytes = .ok after ∧ other.restore beside bytes = .ok beyond ∧
        m.undergo (.restore around bytes) = after ∧
        other.undergo (.restore beside bytes) = beyond ∧
        after.diverged = false ∧ beyond.diverged = false ∧
        after.state = (Configuration.restored s).state ∧ beyond.state = after.state ∧
        ∀ (third : Machine) (later : Surroundings), ∃ again,
          third.restore later after.snapshot = .ok again ∧ again.snapshot = after.snapshot := by
  cases read : StateSnapshot.ofBytes bytes with
  | error error =>
      have refused := restore_of_error (m := m) read around
      have turnedDown := restore_of_error (m := other) read beside
      exact Or.inl ⟨error, rfl, refused, turnedDown, by rw [undergo, refused]; rfl,
        by rw [undergo, turnedDown]; rfl⟩
  | ok s =>
      have taken := restore_of_ofBytes read m around
      have shared := restore_of_ofBytes read other beside
      have normal := restore_snapshot_adopt m around (StateSnapshot.fits_of_ofBytes read)
      have alike := (state_adopt other beside s).trans (state_adopt m around s).symm
      exact Or.inr ⟨s, _, _, rfl, taken, shared, by rw [undergo, taken]; rfl,
        by rw [undergo, shared]; rfl, rfl, rfl, state_adopt m around s, alike, normal⟩

/-- A snapshot that was never the snapshot of a machine: a location lies under a foreign key, one
comes twice, one has no host; a path is limited twice, and other limiters are of an unknown kind,
under a foreign key or without a pool; one network has host bits and one text is no network. -/
def crookedSnapshot : StateSnapshot where
  routing :=
    { routerType := "regex"
      locations := Dict.ofList
        [("/a", ⟨"/b", ["http://[::1]:80"], "round-robin"⟩),
         ("/b", ⟨"/b", ["http://[::2]:80"], "round-robin"⟩),
         ("/c", ⟨"/c", [], "round-robin"⟩)]
      limiters := Dict.ofList
        [("/a", [{ pattern := "/b", path := "/x", kind := "qps", volume := 9 }]),
         ("/b", [{ pattern := "/b", path := "/x", kind := "qps", volume := 1 },
            { pattern := "/b", path := "/y", kind := "none" },
            { pattern := "/b", path := "/x", kind := "qps", volume := 4 }]),
         ("/c", [{ pattern := "/c", path := "/x", kind := "qps", volume := 2 }])] }
  records := ["10.0.0.7/8", "nonsense", "10.0.0.0/8"]

example : ((fresh {} 0).restore {} crookedSnapshot.toBytes).toOption.map Machine.state =
    some
      { routing :=
          { routerType := Router.kind
            locations := Dict.ofList [("/b", ⟨"/b", ["http://[::1]:80"], "round-robin"⟩)]
            limiters := Dict.ofList
              [("/b", [{ pattern := "/b", path := "/x", kind := "qps", volume := 4 }])] }
        records := ["10.0.0.0/8"] } := by
  decide +kernel

end Machine

end ClusterGateway
