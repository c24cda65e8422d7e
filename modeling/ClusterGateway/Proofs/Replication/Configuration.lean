import ClusterGateway.Proofs.Acl.Agreement
import ClusterGateway.Proofs.Pool.Outline
import ClusterGateway.Proofs.Replication.SnapshotCodec
import ClusterGateway.Replication.Machine

/-! # The replicated configuration

A configuration is what a cluster agrees on: locations, limiter settings and blocked networks. Here
is what each log entry makes of a configuration, without pools, balancers, limiters or tries, and
what is left of a configuration that is written as a snapshot and rebuilt from it. Nothing is lost
as long as every location has a host.
-/

namespace ClusterGateway

/-- A name is read as a kind of limiter just if it is the name of that kind. -/
theorem LimiterKind.ofName_eq_ok_iff {name : String} {kind : LimiterKind} :
    ofName name = .ok kind ↔ kind.name = name := by
  rw [ofName]
  constructor
  · intro known
    split at known
    · next same => rw [← Except.ok.inj known, same]
    · split at known
      · next same => rw [← Except.ok.inj known, same]
      · exact absurd known (by simp)
  · rintro rfl
    cases kind <;> rfl

/-- The known names are the names of the kinds of limiters. -/
theorem LimiterKind.mem_names {name : String} :
    name ∈ names ↔ ∃ kind : LimiterKind, kind.name = name := by
  constructor
  · intro listed
    simp only [names, List.mem_cons, List.not_mem_nil, or_false] at listed
    rcases listed with rfl | rfl
    · exact ⟨.concurrency, rfl⟩
    · exact ⟨.qps, rfl⟩
  · rintro ⟨kind, rfl⟩
    cases kind <;> decide

/-- What a cluster agrees on. -/
structure Configuration where
  locations : Dict Location := ∅
  limiters : Dict (List LimiterSetting) := ∅
  /-- The texts of the blocked networks. -/
  blocked : Dict Unit := ∅
deriving DecidableEq, Repr

namespace Configuration

/-- The limiter settings of a pattern. -/
def settings (c : Configuration) (pattern : String) : List LimiterSetting :=
  (c.limiters.get? pattern).getD []

/-- The configuration with a limiter setting in place of the one for the same path. -/
def withSetting (c : Configuration) (s : LimiterSetting) : Configuration :=
  { c with
    limiters := c.limiters.insert s.pattern
      ((c.settings s.pattern).filter (·.path ≠ s.path) ++ [s]) }

/-- The configuration with another location at a pattern, if there is one. -/
def withLocation (c : Configuration) (pattern : String) (change : Location → Location) :
    Configuration :=
  { c with locations := c.locations.modify pattern change }

/-- What an entry makes of a configuration. -/
def after (c : Configuration) : LogEntry → Configuration
  | .createPool l =>
    if l.Buildable ∧ c.locations.contains l.pattern = false then
      { c with locations := c.locations.insert l.pattern l }
    else c
  | .setRateLimiter s =>
    if c.locations.contains s.pattern = true ∧ s.kind ∈ LimiterKind.names then c.withSetting s
    else c
  | .aclMutate action cidr =>
    match parseCidr cidr, action with
    | .ok net, .insert => { c with blocked := c.blocked.insert net.text () }
    | .ok net, .delete => { c with blocked := c.blocked.erase net.text }
    | .error _, _ => c
  | .removePool pattern =>
    { c with locations := c.locations.erase pattern, limiters := c.limiters.erase pattern }
  | .removeHost pattern host =>
    c.withLocation pattern fun l =>
      { l with proxyPass :=
          l.proxyPass.filter (Backend.address? · ≠ some ((Backend.address? host).getD host)) }
  | .addHost pattern raw =>
    match Backend.address? raw with
    | none => c
    | some key =>
      c.withLocation pattern fun l =>
        { l with proxyPass :=
            if l.proxyPass.any (Backend.address? · = some key) then l.proxyPass
            else l.proxyPass ++ [raw] }
  | .changeBalancer pattern mode =>
    if mode ∈ BalanceMode.names then c.withLocation pattern fun l => { l with balanceMode := mode }
    else c

/-- The snapshot of a configuration. -/
def state (c : Configuration) : StateSnapshot where
  routing := { routerType := Router.kind, locations := c.locations, limiters := c.limiters }
  records := c.blocked.keys

/-- Two configurations that are written the same way are the same. -/
theorem state_injective : Function.Injective state := by
  rintro ⟨locations, limiters, blocked⟩ ⟨others, settings, records⟩ same
  simp only [state, StateSnapshot.mk.injEq, RoutingState.mk.injEq, true_and] at same
  obtain ⟨⟨rfl, rfl⟩, keys⟩ := same
  congr 1
  apply Dict.ext_get?
  intro key
  have known : blocked.contains key = records.contains key := by
    rw [Bool.eq_iff_iff, ← Dict.mem_keys, ← Dict.mem_keys, keys]
  rw [Dict.contains, Dict.contains] at known
  cases first : blocked.get? key <;> cases second : records.get? key <;>
    simp_all

/-! ### Entry by entry -/

/-- A new pool is recorded if it can be built and its pattern is free; else nothing changes. -/
theorem after_createPool (c : Configuration) (l : Location) :
    c.after (.createPool l) =
      if l.Buildable ∧ c.locations.contains l.pattern = false then
        { c with locations := c.locations.insert l.pattern l }
      else c :=
  rfl

/-- A setting is recorded if its pool is known and so is its kind; else nothing changes. -/
theorem after_setRateLimiter (c : Configuration) (s : LimiterSetting) :
    c.after (.setRateLimiter s) =
      if c.locations.contains s.pattern = true ∧ s.kind ∈ LimiterKind.names then c.withSetting s
      else c :=
  rfl

/-- A network that cannot be read changes nothing. -/
theorem after_aclMutate_of_error {cidr : String} {e : AclError} (read : parseCidr cidr = .error e)
    (c : Configuration) (action : AclAction) : c.after (.aclMutate action cidr) = c := by
  delta after
  simp only [read]

/-- A network that is blocked is recorded under its canonical text. -/
theorem after_insert {cidr : String} {net : Network} (read : parseCidr cidr = .ok net)
    (c : Configuration) : c.after (.aclMutate .insert cidr) =
      { c with blocked := c.blocked.insert net.text () } := by
  delta after
  simp only [read]

/-- A network that is freed is struck out under its canonical text. -/
theorem after_delete {cidr : String} {net : Network} (read : parseCidr cidr = .ok net)
    (c : Configuration) : c.after (.aclMutate .delete cidr) =
      { c with blocked := c.blocked.erase net.text } := by
  delta after
  simp only [read]

theorem after_addHost_of_none {raw : String} (unread : Backend.address? raw = none)
    (c : Configuration) (pattern : String) : c.after (.addHost pattern raw) = c := by
  delta after
  simp only [unread]

/-- A host is recorded with the text that was given, unless the location has a text of the same
address. -/
theorem after_addHost_of_address {raw key : String} (address : Backend.address? raw = some key)
    (c : Configuration) (pattern : String) : c.after (.addHost pattern raw) =
      c.withLocation pattern fun l =>
        { l with proxyPass :=
            if l.proxyPass.any (Backend.address? · = some key) then l.proxyPass
            else l.proxyPass ++ [raw] } := by
  delta after
  simp only [address]

/-- A new mode is recorded if it is known; else nothing changes. -/
theorem after_changeBalancer (c : Configuration) (pattern mode : String) :
    c.after (.changeBalancer pattern mode) =
      if mode ∈ BalanceMode.names then
        c.withLocation pattern fun l => { l with balanceMode := mode }
      else c :=
  rfl

/-! ### Sound configurations -/

/-- What holds of every configuration that a routing table can have. -/
structure WellFormed (c : Configuration) : Prop where
  /-- A location lies under its pattern and can be served. -/
  located : ∀ {pattern l}, c.locations.get? pattern = some l → l.pattern = pattern ∧ l.Servable
  limited : ∀ {pattern settings}, c.limiters.get? pattern = some settings →
    c.locations.contains pattern = true
  filled : ∀ {pattern settings}, c.limiters.get? pattern = some settings → settings ≠ []
  /-- A setting lies under its pattern and names a kind of limiter. -/
  kept : ∀ {pattern settings}, c.limiters.get? pattern = some settings → ∀ s ∈ settings,
    s.pattern = pattern ∧ s.kind ∈ LimiterKind.names
  /-- No path has two settings. -/
  single : ∀ {pattern settings}, c.limiters.get? pattern = some settings →
    (settings.map (·.path)).Nodup

theorem wellFormed_empty (blocked : Dict Unit) : WellFormed { blocked } := by
  constructor <;> exact fun found => absurd found (by simp)

/-- The settings that are recorded for a pattern are made for that pattern, and are of a known
kind. -/
theorem WellFormed.mem_settings {c : Configuration} (sound : c.WellFormed) {pattern : String}
    {s : LimiterSetting} (member : s ∈ c.settings pattern) :
    s.pattern = pattern ∧ s.kind ∈ LimiterKind.names := by
  rw [settings] at member
  cases found : c.limiters.get? pattern with
  | none => exact absurd member (by simp [found])
  | some all => exact sound.kept found s (by simpa [found] using member)

/-- No two settings that are recorded for a pattern are for the same path. -/
theorem WellFormed.nodup_settings {c : Configuration} (sound : c.WellFormed) (pattern : String) :
    ((c.settings pattern).map (·.path)).Nodup := by
  rw [settings]
  cases found : c.limiters.get? pattern with
  | none => exact List.nodup_nil
  | some all => exact sound.single found

/-- A configuration stays well formed if a setting of a known kind is recorded for a known
pattern. -/
theorem WellFormed.withSetting {c : Configuration} (sound : c.WellFormed) {s : LimiterSetting}
    (known : c.locations.contains s.pattern = true) (kind : s.kind ∈ LimiterKind.names) :
    (c.withSetting s).WellFormed := by
  have lookup {pattern : String} {all : List LimiterSetting}
      (found : (c.withSetting s).limiters.get? pattern = some all) :
      pattern = s.pattern ∧ all = (c.settings s.pattern).filter (·.path ≠ s.path) ++ [s] ∨
        c.limiters.get? pattern = some all := by
    rw [Configuration.withSetting, Dict.get?_insert] at found
    split at found
    · next same => exact Or.inl ⟨same.symm, (Option.some.inj found).symm⟩
    · exact Or.inr found
  refine ⟨sound.located, fun found => ?_, fun found => ?_, fun found => ?_, fun found => ?_⟩
  · rcases lookup found with ⟨rfl, rfl⟩ | found
    · exact known
    · exact sound.limited found
  · rcases lookup found with ⟨rfl, rfl⟩ | found
    · simp
    · exact sound.filled found
  · rcases lookup found with ⟨rfl, rfl⟩ | found
    · intro other member
      rcases List.mem_append.1 member with member | member
      · exact sound.mem_settings (List.mem_of_mem_filter member)
      · rw [List.mem_singleton.1 member]
        exact ⟨rfl, kind⟩
    · exact sound.kept found
  · rcases lookup found with ⟨rfl, rfl⟩ | found
    · rw [List.map_append, List.nodup_append]
      refine ⟨(sound.nodup_settings s.pattern).sublist (List.filter_sublist.map _),
        List.nodup_singleton _, ?_⟩
      intro path member other last
      obtain ⟨old, listed, rfl⟩ := List.mem_map.1 member
      rw [List.map_singleton, List.mem_singleton] at last
      rw [last]
      simpa using List.of_mem_filter listed
    · exact sound.single found

/-- A configuration stays well formed under a change of a location that keeps its pattern and lets
it be served. -/
theorem WellFormed.withLocation {c : Configuration} (sound : c.WellFormed) (pattern : String)
    {change : Location → Location}
    (keeps : ∀ l, l.Servable → (change l).pattern = l.pattern ∧ (change l).Servable) :
    (c.withLocation pattern change).WellFormed := by
  refine ⟨fun found => ?_, fun found => ?_, sound.filled, sound.kept, sound.single⟩
  · rw [Configuration.withLocation, Dict.get?_modify] at found
    split at found
    · obtain ⟨old, present, rfl⟩ := Option.map_eq_some_iff.1 found
      obtain ⟨same, servable⟩ := sound.located present
      exact ⟨(keeps old servable).1.trans same, (keeps old servable).2⟩
    · exact sound.located found
  · rw [Configuration.withLocation, Dict.contains_modify]
    exact sound.limited found

/-- Every entry keeps a configuration well-formed. -/
theorem WellFormed.after {c : Configuration} (sound : c.WellFormed) (entry : LogEntry) :
    (c.after entry).WellFormed := by
  cases entry with
  | createPool l =>
      rw [after_createPool]
      split
      · next fresh =>
          refine ⟨fun found => ?_, fun found => ?_, sound.filled, sound.kept, sound.single⟩
          · rw [Dict.get?_insert] at found
            split at found
            · next same => exact Option.some.inj found ▸ ⟨same, fresh.1.toServable⟩
            · exact sound.located found
          · rw [Dict.contains_insert, sound.limited found, Bool.or_true]
      · exact sound
  | setRateLimiter s =>
      rw [after_setRateLimiter]
      split
      · next fits => exact sound.withSetting fits.1 fits.2
      · exact sound
  | aclMutate action cidr =>
      cases read : parseCidr cidr with
      | error error =>
          rw [after_aclMutate_of_error read]
          exact sound
      | ok net =>
          cases action with
          | insert =>
              rw [after_insert read]
              exact ⟨sound.located, sound.limited, sound.filled, sound.kept, sound.single⟩
          | delete =>
              rw [after_delete read]
              exact ⟨sound.located, sound.limited, sound.filled, sound.kept, sound.single⟩
  | removePool pattern =>
      -- What is recorded after the removal was recorded before, under another pattern.
      have lookup {key : String} {all : List LimiterSetting}
          (found : (c.limiters.erase pattern).get? key = some all) :
          pattern ≠ key ∧ c.limiters.get? key = some all := by
        rw [Dict.get?_erase] at found
        split at found
        · exact absurd found (by simp)
        · next other => exact ⟨other, found⟩
      refine ⟨fun found => ?_, fun found => ?_, fun found => sound.filled (lookup found).2,
        fun found => sound.kept (lookup found).2, fun found => sound.single (lookup found).2⟩
      · change (c.locations.erase pattern).get? _ = _ at found
        rw [Dict.get?_erase] at found
        split at found
        · exact absurd found (by simp)
        · exact sound.located found
      · change (c.locations.erase pattern).contains _ = true
        rw [Dict.contains_erase, sound.limited (lookup found).2]
        simpa using (lookup found).1
  | removeHost pattern host =>
      exact sound.withLocation pattern fun l servable => ⟨rfl, servable.pattern,
        fun raw member => servable.backends raw (List.mem_of_mem_filter member), servable.mode⟩
  | addHost pattern raw =>
      cases address : Backend.address? raw with
      | none =>
          rw [after_addHost_of_none address]
          exact sound
      | some key =>
          rw [after_addHost_of_address address]
          refine sound.withLocation pattern fun l servable => ⟨rfl, servable.pattern, ?_,
            servable.mode⟩
          dsimp only
          split
          · exact servable.backends
          · intro other member
            rcases List.mem_append.1 member with member | member
            · exact servable.backends other member
            · rw [List.mem_singleton.1 member, address]
              rfl
  | changeBalancer pattern mode =>
      rw [after_changeBalancer]
      split
      · next known =>
          exact sound.withLocation pattern fun l servable =>
            ⟨rfl, servable.pattern, servable.backends, known⟩
      · exact sound

/-! ### One pattern at a time -/

/-- Two configurations have the same location and the same limiters at a pattern. -/
structure SameAt (pattern : String) (c d : Configuration) : Prop where
  location : d.locations.get? pattern = c.locations.get? pattern
  limiters : d.limiters.get? pattern = c.limiters.get? pattern

variable {pattern : String} {c d : Configuration}

theorem SameAt.symm (same : SameAt pattern c d) : SameAt pattern d c :=
  ⟨same.location.symm, same.limiters.symm⟩

theorem SameAt.trans {e : Configuration} (same : SameAt pattern c d) (further : SameAt pattern d e) :
    SameAt pattern c e :=
  ⟨further.location.trans same.location, further.limiters.trans same.limiters⟩

theorem SameAt.contains (same : SameAt pattern c d) :
    d.locations.contains pattern = c.locations.contains pattern := by
  rw [Dict.contains, Dict.contains, same.location]

/-- The same change of the location at any pattern keeps configurations the same at a pattern. -/
theorem SameAt.withLocation (same : SameAt pattern c d) (changed : String)
    (change : Location → Location) :
    SameAt pattern (c.withLocation changed change) (d.withLocation changed change) := by
  refine ⟨?_, same.limiters⟩
  simp only [Configuration.withLocation, Dict.get?_modify, same.location]

/-- A new pool changes nothing at another pattern than its own. -/
theorem sameAt_createPool {l : Location} (elsewhere : l.pattern ≠ pattern) (c : Configuration) :
    SameAt pattern c (c.after (.createPool l)) := by
  rw [after_createPool]
  split
  · exact ⟨by simp [elsewhere], rfl⟩
  · exact ⟨rfl, rfl⟩

theorem sameAt_setRateLimiter {s : LimiterSetting} (elsewhere : s.pattern ≠ pattern)
    (c : Configuration) : SameAt pattern c (c.after (.setRateLimiter s)) := by
  rw [after_setRateLimiter]
  split
  · exact ⟨rfl, by simp [withSetting, elsewhere]⟩
  · exact ⟨rfl, rfl⟩

/-- What an entry makes of one pattern depends on nothing but that pattern, so configurations that
are the same there stay the same there under every entry. -/
theorem SameAt.after (same : SameAt pattern c d) (entry : LogEntry) :
    SameAt pattern (c.after entry) (d.after entry) := by
  cases entry with
  | createPool l =>
      by_cases here : l.pattern = pattern
      · -- Whether the pool is accepted is decided at the pattern itself.
        subst here
        rw [after_createPool, after_createPool, same.contains]
        split
        · exact ⟨by simp, same.limiters⟩
        · exact same
      · exact (sameAt_createPool here c).symm.trans (same.trans (sameAt_createPool here d))
  | setRateLimiter s =>
      by_cases here : s.pattern = pattern
      · subst here
        rw [after_setRateLimiter, after_setRateLimiter, same.contains]
        split
        · exact ⟨same.location, by simp [withSetting, settings, same.limiters]⟩
        · exact same
      · exact (sameAt_setRateLimiter here c).symm.trans (same.trans (sameAt_setRateLimiter here d))
  | aclMutate action cidr =>
      cases read : parseCidr cidr with
      | error error =>
          rw [after_aclMutate_of_error read, after_aclMutate_of_error read]
          exact same
      | ok net =>
          cases action with
          | insert =>
              rw [after_insert read, after_insert read]
              exact ⟨same.location, same.limiters⟩
          | delete =>
              rw [after_delete read, after_delete read]
              exact ⟨same.location, same.limiters⟩
  | removePool removed =>
      constructor
      · change (d.locations.erase removed).get? pattern = (c.locations.erase removed).get? pattern
        rw [Dict.get?_erase, Dict.get?_erase, same.location]
      · change (d.limiters.erase removed).get? pattern = (c.limiters.erase removed).get? pattern
        rw [Dict.get?_erase, Dict.get?_erase, same.limiters]
  | removeHost changed host => exact same.withLocation changed _
  | addHost changed raw =>
      cases address : Backend.address? raw with
      | none =>
          rw [after_addHost_of_none address, after_addHost_of_none address]
          exact same
      | some key =>
          rw [after_addHost_of_address address, after_addHost_of_address address]
          exact same.withLocation changed _
  | changeBalancer changed mode =>
      rw [after_changeBalancer, after_changeBalancer]
      split
      · exact same.withLocation changed _
      · exact same

/-- A pattern whose pool is removed is the same everywhere, whatever was there before. -/
theorem sameAt_removePool (pattern : String) (c d : Configuration) :
    SameAt pattern (c.after (.removePool pattern)) (d.after (.removePool pattern)) := by
  constructor
  · change (d.locations.erase pattern).get? pattern = (c.locations.erase pattern).get? pattern
    rw [Dict.get?_erase, Dict.get?_erase, if_pos rfl, if_pos rfl]
  · change (d.limiters.erase pattern).get? pattern = (c.limiters.erase pattern).get? pattern
    rw [Dict.get?_erase, Dict.get?_erase, if_pos rfl, if_pos rfl]

/-- What an entry makes of the blocked networks depends on nothing but them. -/
theorem blocked_after (same : d.blocked = c.blocked) (entry : LogEntry) :
    (d.after entry).blocked = (c.after entry).blocked := by
  cases entry with
  | createPool l =>
      rw [after_createPool, after_createPool]
      split <;> split <;> exact same
  | setRateLimiter s =>
      rw [after_setRateLimiter, after_setRateLimiter]
      split <;> split <;> exact same
  | aclMutate action cidr =>
      cases read : parseCidr cidr with
      | error error =>
          rw [after_aclMutate_of_error read, after_aclMutate_of_error read]
          exact same
      | ok net =>
          cases action with
          | insert =>
              rw [after_insert read, after_insert read]
              exact congrArg (Dict.insert · net.text ()) same
          | delete =>
              rw [after_delete read, after_delete read]
              exact congrArg (Dict.erase · net.text) same
  | removePool pattern => exact same
  | removeHost pattern host => exact same
  | addHost pattern raw =>
      cases address : Backend.address? raw with
      | none =>
          rw [after_addHost_of_none address, after_addHost_of_none address]
          exact same
      | some key =>
          rw [after_addHost_of_address address, after_addHost_of_address address]
          exact same
  | changeBalancer pattern mode =>
      rw [after_changeBalancer, after_changeBalancer]
      split <;> exact same

/-! ### Numbers and networks -/

/-- The numbers of all settings fit into 64 bits. -/
def Fits (c : Configuration) : Prop := c.state.routing.Fits

theorem fits_empty (blocked : Dict Unit) : Fits { blocked } :=
  fun _ _ found => absurd found (by simp [state])

/-- An entry whose numbers fit keeps a configuration whose numbers fit. -/
theorem Fits.after {c : Configuration} (fits : c.Fits) {entry : LogEntry} (small : entry.Fits) :
    (c.after entry).Fits := by
  cases entry with
  | createPool l =>
      rw [after_createPool]
      split <;> exact fits
  | setRateLimiter s =>
      rw [after_setRateLimiter]
      split
      · intro pattern settings found l member
        change (c.limiters.insert s.pattern _).get? pattern = some settings at found
        rw [Dict.get?_insert] at found
        split at found
        · rw [← Option.some.inj found] at member
          -- The pattern has its old settings for other paths, and then the new one.
          rcases List.mem_append.1 member with member | member
          · have listed := List.mem_of_mem_filter member
            rw [Configuration.settings] at listed
            cases present : c.limiters.get? s.pattern with
            | none => exact absurd listed (by simp [present])
            | some all => exact fits s.pattern all present l (by simpa [present] using listed)
          · exact List.mem_singleton.1 member ▸ small
        · exact fits pattern settings found l member
      · exact fits
  | aclMutate action cidr =>
      cases read : parseCidr cidr with
      | error error =>
          rw [after_aclMutate_of_error read]
          exact fits
      | ok net =>
          cases action with
          | insert =>
              rw [after_insert read]
              exact fits
          | delete =>
              rw [after_delete read]
              exact fits
  | removePool pattern =>
      intro other settings found
      change (c.limiters.erase pattern).get? other = some settings at found
      rw [Dict.get?_erase] at found
      split at found
      · exact absurd found (by simp)
      · exact fits other settings found
  | removeHost pattern host => exact fits
  | addHost pattern raw =>
      cases address : Backend.address? raw with
      | none =>
          rw [after_addHost_of_none address]
          exact fits
      | some key =>
          rw [after_addHost_of_address address]
          exact fits
  | changeBalancer pattern mode =>
      rw [after_changeBalancer]
      split <;> exact fits

/-- Every record is the text of a network. -/
def Named (c : Configuration) : Prop :=
  ∀ record, c.blocked.contains record = true → ∃ net : Network, net.text = record

end Configuration

end ClusterGateway
