import ClusterGateway.Proofs.Replication.Rebuild
import ClusterGateway.Route.Dispatch

/-! # The routing table stays coherent

The router, the locations and the limiter settings of a table change together, and each pool goes
on serving just what its location says. The table swaps pools by their numbers, so the invariant
also says that no number is shared. Requests and checks change no outline; every other operation
changes pools and configuration alike, and what it makes of the configuration is told by the log
entry for it.
-/

namespace ClusterGateway

namespace Dict

universe u

variable {α : Type u}

/-- Changing what a dictionary does not have changes nothing. -/
theorem modify_of_absent {d : Dict α} {key : String} (absent : d.get? key = none) (f : α → α) :
    d.modify key f = d := by
  apply ext_get?
  intro other
  rw [get?_modify]
  split
  · next same => rw [same, absent]; rfl
  · rfl

/-- A change that keeps what stands under the key changes nothing. -/
theorem modify_of_same {d : Dict α} {key : String} {f : α → α}
    (same : ∀ a, d.get? key = some a → f a = a) : d.modify key f = d := by
  apply ext_get?
  intro other
  rw [get?_modify]
  split
  · next here =>
      subst here
      cases found : d.get? other with
      | none => rfl
      | some a => exact congrArg some (same a found)
  · rfl

end Dict

/-- A pool with this outline serves a location. -/
structure Outline.Serves (o : Outline) (l : Location) : Prop where
  pattern : o.pattern = l.pattern
  /-- The hosts are the location's backends, each with the target of the first one. -/
  targets : ∀ key, o.targets.get? key = Backend.firstAt? l.proxyPass key
  mode : o.mode.name = l.balanceMode

namespace Table

variable {t u : Table}

/-- The outlines of the pools by pattern. -/
def outlines (t : Table) : Dict Outline := t.router.entries.map fun _ p => p.outline

/-- The numbers of the pools out of service. -/
def pastSerials (t : Table) : List Nat := t.retired.map (·.serial)

/-- What the table says of the configuration of its cluster. -/
def configuration (t : Table) : Configuration where
  locations := t.locations
  limiters := t.limiters
  blocked := t.acl.records

theorem get?_outlines (t : Table) (pattern : String) :
    t.outlines.get? pattern = (t.pool? pattern).map Pool.outline := Dict.get?_map _ _ _

/-- A pool in service shows its outline under its pattern. -/
theorem get?_outlines_of_pool {pattern : String} {p : Pool} (found : t.pool? pattern = some p) :
    t.outlines.get? pattern = some p.outline := by
  rw [get?_outlines, found]
  rfl

/-- Pools, locations and limiter settings belong together. -/
structure Sound (t : Table) : Prop where
  configured : t.configuration.WellFormed
  /-- The pools are those of the locations. -/
  keyed : ∀ pattern, t.outlines.contains pattern = t.locations.contains pattern
  serves : ∀ {pattern o l}, t.outlines.get? pattern = some o → t.locations.get? pattern = some l →
    o.Serves l
  /-- Pools of different patterns have different numbers. -/
  single : ∀ {a b o p}, t.outlines.get? a = some o → t.outlines.get? b = some p →
    o.serial = p.serial → a = b
  /-- No pool shares its number with one out of service. -/
  apart : ∀ {a o}, t.outlines.get? a = some o → o.serial ∉ t.pastSerials
  /-- The number of the next pool is new. -/
  numbered : ∀ {a o}, t.outlines.get? a = some o → o.serial < t.nextSerial
  /-- The number of the next pool is new among those out of service too. -/
  past : ∀ n ∈ t.pastSerials, n < t.nextSerial

/-- Two pools in service with one number are of the same pattern. -/
theorem Sound.pattern_eq (sound : t.Sound) {a b : String} {p q : Pool}
    (here : t.pool? a = some p) (there : t.pool? b = some q) (same : p.serial = q.serial) : a = b :=
  sound.single (get?_outlines_of_pool here) (get?_outlines_of_pool there) same

/-- A pool in service shares its number with none out of service. -/
theorem Sound.serial_apart (sound : t.Sound) {pattern : String} {p : Pool}
    (found : t.pool? pattern = some p) : p.serial ∉ t.pastSerials :=
  sound.apart (get?_outlines_of_pool found)

/-! ### Steps that change no outline -/

/-- One table has the configuration and the outlines of another. -/
structure Steady (t u : Table) : Prop where
  outlines : u.outlines = t.outlines
  past : u.pastSerials = t.pastSerials
  nextSerial : u.nextSerial = t.nextSerial
  locations : u.locations = t.locations
  limiters : u.limiters = t.limiters
  acl : u.acl = t.acl

theorem Steady.refl (t : Table) : t.Steady t := ⟨rfl, rfl, rfl, rfl, rfl, rfl⟩

theorem Steady.configuration (steady : t.Steady u) : u.configuration = t.configuration := by
  rw [Table.configuration, Table.configuration, steady.locations, steady.limiters, steady.acl]

/-- A table that has the configuration and the outlines of a sound one is sound. -/
theorem Sound.of_steady (sound : t.Sound) (steady : t.Steady u) : u.Sound := by
  obtain ⟨outlines, past, next, locations, limiters, acl⟩ := steady
  refine ⟨?_, ?_, ?_, ?_, ?_, ?_, ?_⟩
  · rw [Table.configuration, locations, limiters, acl]
    exact sound.configured
  · intro pattern
    rw [outlines, locations]
    exact sound.keyed pattern
  · intro pattern o l found located
    rw [outlines] at found
    rw [locations] at located
    exact sound.serves found located
  · intro a b o p first second
    rw [outlines] at first second
    exact sound.single first second
  · intro a o found
    rw [outlines] at found
    rw [past]
    exact sound.apart found
  · intro a o found
    rw [outlines] at found
    rw [next]
    exact sound.numbered found
  · rw [past, next]
    exact sound.past

/-! ### Swapping a pool -/

/-- Putting a pool back changes the outline of the pool with its number, if it is in service, and no
other. -/
theorem outlines_putPool (t : Table) (q : Pool) :
    (t.putPool q).outlines =
      t.outlines.map fun _ o => if o.serial = q.serial then q.outline else o := by
  apply Dict.ext_get?
  intro pattern
  simp only [outlines, putPool, Dict.get?_map, Option.map_map]
  congr 1
  funext r
  change (if r.serial = q.serial then q else r).outline =
    if r.serial = q.serial then q.outline else r.outline
  split <;> rfl

/-- Putting a pool back leaves the numbers of the pools out of service as they are. -/
theorem pastSerials_putPool (t : Table) (q : Pool) : (t.putPool q).pastSerials = t.pastSerials := by
  simp only [pastSerials, putPool, List.map_map]
  congr 1
  funext r
  change (if r.serial = q.serial then q else r).serial = r.serial
  split
  · next same => exact same.symm
  · rfl

/-- A pool is in service and shows its outline, or is out of service under its number. -/
theorem mem_allPools {p : Pool} (member : p ∈ t.allPools) :
    (∃ pattern, t.outlines.get? pattern = some p.outline) ∨ p.serial ∈ t.pastSerials := by
  rcases List.mem_append.1 member with live | gone
  · obtain ⟨pattern, found⟩ := Dict.mem_values.1 live
    exact Or.inl ⟨pattern, get?_outlines_of_pool found⟩
  · exact Or.inr (List.mem_map_of_mem gone)

/-- Swapping a pool for one with its outline keeps configuration and outlines. -/
theorem Sound.steady_putPool (sound : t.Sound) {p q : Pool} (member : p ∈ t.allPools)
    (same : q.outline = p.outline) : t.Steady (t.putPool q) := by
  refine ⟨?_, pastSerials_putPool t q, rfl, rfl, rfl, rfl⟩
  apply Dict.ext_get?
  intro pattern
  rw [outlines_putPool, Dict.get?_map]
  cases found : t.outlines.get? pattern with
  | none => rfl
  | some o =>
      rw [Option.map_some]
      congr 1
      split
      · next equal =>
          have number : o.serial = p.outline.serial :=
            equal.trans (congrArg Outline.serial same)
          rcases mem_allPools member with ⟨other, present⟩ | gone
          · have here := sound.single found present number
            rw [here, present] at found
            rw [same, Option.some.inj found]
          · exact absurd (number ▸ gone) (sound.apart found)
      · rfl

/-- Swapping the pool of a pattern changes the outline there and no other. -/
theorem Sound.outlines_putPool_of_pool (sound : t.Sound) {pattern : String} {p q : Pool}
    (found : t.pool? pattern = some p) (same : q.outline.serial = p.outline.serial) :
    (t.putPool q).outlines = t.outlines.insert pattern q.outline := by
  apply Dict.ext_get?
  intro other
  rw [outlines_putPool, Dict.get?_map, Dict.get?_insert]
  have here := get?_outlines_of_pool found
  split
  · next equal =>
      subst equal
      rw [here, Option.map_some]
      exact congrArg some (if_pos same.symm)
  · next different =>
      cases present : t.outlines.get? other with
      | none => rfl
      | some o =>
          rw [Option.map_some]
          refine congrArg some (if_neg fun equal => different ?_)
          exact sound.single here present (same.symm.trans equal.symm)

/-- A pool and its location may change alike. -/
theorem Sound.update (sound : t.Sound) {pattern : String} {p q : Pool}
    (found : t.pool? pattern = some p) (serial : q.outline.serial = p.outline.serial)
    (change : Location → Location)
    (configured : (t.configuration.withLocation pattern change).WellFormed)
    (serves : ∀ l, p.outline.Serves l → q.outline.Serves (change l)) :
    ({ t.putPool q with locations := t.locations.modify pattern change } : Table).Sound := by
  have here := get?_outlines_of_pool found
  have outlines : ({ t.putPool q with locations := t.locations.modify pattern change } :
      Table).outlines = t.outlines.insert pattern q.outline :=
    sound.outlines_putPool_of_pool found serial
  -- Numbers stay as they were, so what is said of them holds as before.
  have lookup {a : String} {o : Outline} (present : ({ t.putPool q with
      locations := t.locations.modify pattern change } : Table).outlines.get? a = some o) :
      ∃ old, t.outlines.get? a = some old ∧ o.serial = old.serial := by
    rw [outlines, Dict.get?_insert] at present
    split at present
    · next equal =>
        subst equal
        exact ⟨p.outline, here, Option.some.inj present ▸ serial⟩
    · exact ⟨o, present, rfl⟩
  have past : ({ t.putPool q with locations := t.locations.modify pattern change } :
      Table).pastSerials = t.pastSerials := pastSerials_putPool t q
  refine ⟨configured, ?_, ?_, ?_, ?_, ?_, ?_⟩
  · intro other
    rw [outlines, Dict.contains_insert, Dict.contains_modify, sound.keyed]
    by_cases equal : pattern = other
    · subst equal
      rw [← sound.keyed, Dict.contains, here]
      simp
    · simp [equal]
  · intro other o l present located
    rw [outlines, Dict.get?_insert] at present
    change (t.locations.modify pattern change).get? other = some l at located
    rw [Dict.get?_modify] at located
    split at present
    · next equal =>
        subst equal
        rw [if_pos rfl] at located
        obtain ⟨old, known, rfl⟩ := Option.map_eq_some_iff.1 located
        exact Option.some.inj present ▸ serves old (sound.serves here known)
    · next different =>
        rw [if_neg (Ne.symm different)] at located
        exact sound.serves present located
  · intro a b o r first second equal
    obtain ⟨x, foundX, serialX⟩ := lookup first
    obtain ⟨y, foundY, serialY⟩ := lookup second
    exact sound.single foundX foundY (serialX.symm.trans (equal.trans serialY))
  · intro a o present
    obtain ⟨x, foundX, serialX⟩ := lookup present
    rw [past, serialX]
    exact sound.apart foundX
  · intro a o present
    obtain ⟨x, foundX, serialX⟩ := lookup present
    rw [serialX]
    exact sound.numbered foundX
  · rw [past]
    exact sound.past

end Table

end ClusterGateway
