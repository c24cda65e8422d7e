import ClusterGateway.Proofs.Replication.Configuration

/-! # Rebuilding a configuration

A snapshot is not copied but built up again: a pool for each location, then each limiter, and the
blocked networks one by one, and whatever is refused on the way is left out. A well-formed
configuration gains nothing in this, and loses nothing but the locations that have no host.
-/

namespace ClusterGateway

namespace Dict

universe u

variable {α : Type u}

/-- Of two entries under one key the later one stays. -/
theorem insert_insert (d : Dict α) (key : String) (a b : α) :
    (d.insert key a).insert key b = d.insert key b := by
  apply ext_get?
  intro other
  simp only [get?_insert]
  split <;> rfl

theorem foldl_insert_entries (d : Dict α) :
    d.entries.foldl (fun d e => d.insert e.1 e.2) ∅ = d := ofList_entries d

end Dict

/-- The networks among some texts. -/
def networksOf (records : List String) : List Network :=
  records.filterMap fun r => (parseCidr r).toOption

/-- The canonical records are the texts of the networks among the records. -/
theorem canonicalRecords_eq (records : List String) :
    Machine.canonicalRecords records = (networksOf records).map Network.text := by
  rw [Machine.canonicalRecords, networksOf, List.map_filterMap]

namespace Configuration

/-- Sets up the limiters of one pattern, as far as they are recorded under their own pattern. -/
def withLimiters (c : Configuration) (e : String × List LimiterSetting) : Configuration :=
  (e.2.filter (·.pattern = e.1)).foldl (fun c s => c.after (.setRateLimiter s)) c

/-- A configuration with the locations and limiters of a snapshot, as far as they are accepted. -/
def rebuilt (c : Configuration) (s : RoutingState) : Configuration :=
  s.limiters.entries.foldl withLimiters
    (s.locations.values.foldl (fun c l => c.after (.createPool l)) c)

/-- The configuration of a machine that has taken over a snapshot. -/
def restored (s : StateSnapshot) : Configuration :=
  rebuilt { blocked := AccessList.recorded (networksOf s.records) } s.routing

/-! ### Blocked networks do not matter -/

/-- The configuration with other blocked networks. -/
def withBlocked (blocked : Dict Unit) (c : Configuration) : Configuration := { c with blocked }

/-- Which networks are blocked does not matter for a new pool. -/
theorem after_createPool_withBlocked (blocked : Dict Unit) (c : Configuration) (l : Location) :
    (c.withBlocked blocked).after (.createPool l) =
      (c.after (.createPool l)).withBlocked blocked := by
  rw [after_createPool, after_createPool, apply_ite (withBlocked blocked)]
  rfl

theorem after_setRateLimiter_withBlocked (blocked : Dict Unit) (c : Configuration)
    (s : LimiterSetting) :
    (c.withBlocked blocked).after (.setRateLimiter s) =
      (c.after (.setRateLimiter s)).withBlocked blocked := by
  rw [after_setRateLimiter, after_setRateLimiter, apply_ite (withBlocked blocked)]
  rfl

theorem withLimiters_withBlocked (blocked : Dict Unit) (c : Configuration)
    (e : String × List LimiterSetting) :
    (c.withBlocked blocked).withLimiters e = (c.withLimiters e).withBlocked blocked :=
  List.foldl_hom (withBlocked blocked) (after_setRateLimiter_withBlocked blocked)

/-- Locations and limiters are rebuilt whatever is blocked. -/
theorem rebuilt_withBlocked (blocked : Dict Unit) (c : Configuration) (s : RoutingState) :
    (c.withBlocked blocked).rebuilt s = (c.rebuilt s).withBlocked blocked := by
  rw [rebuilt, rebuilt,
    List.foldl_hom (withBlocked blocked) (after_createPool_withBlocked blocked),
    List.foldl_hom (withBlocked blocked) (withLimiters_withBlocked blocked)]

/-! ### Numbers -/

/-- Setting up limiters whose numbers fit keeps all numbers within their bounds. -/
theorem Fits.withLimiters {c : Configuration} (fits : c.Fits) {e : String × List LimiterSetting}
    (small : ∀ l ∈ e.2, l.Fits) : (c.withLimiters e).Fits :=
  List.foldlRecOn _ _ fits fun _ kept l member =>
    kept.after (small l (List.mem_of_mem_filter member))

/-- What is rebuilt from numbers that fit has numbers that fit. -/
theorem fits_restored {s : StateSnapshot} (fits : s.routing.Fits) : (restored s).Fits := by
  have pools : Fits (s.routing.locations.values.foldl (fun c l => after c (.createPool l))
      { blocked := AccessList.recorded (networksOf s.records) }) :=
    List.foldlRecOn _ _ (fits_empty _) fun _ kept _ _ => kept.after trivial
  exact List.foldlRecOn _ _ pools fun _ kept e member =>
    kept.withLimiters (fits e.1 e.2 (Dict.get?_eq_some_iff.2 member))

/-! ### Every part is accepted again -/

/-- Locations that can be built, under their own new patterns, are recorded one after another as
they are. -/
theorem rebuild_locations (entries : List (String × Location)) (c : Configuration)
    (distinct : (entries.map (·.1)).Nodup)
    (fresh : ∀ e ∈ entries, c.locations.contains e.1 = false)
    (sound : ∀ e ∈ entries, e.2.pattern = e.1 ∧ e.2.Buildable) :
    (entries.map (·.2)).foldl (fun c l => c.after (.createPool l)) c =
      { c with locations := entries.foldl (fun d e => d.insert e.1 e.2) c.locations } := by
  induction entries generalizing c with
  | nil => rfl
  | cons e entries ih =>
      rw [List.map_cons, List.nodup_cons] at distinct
      obtain ⟨named, buildable⟩ := sound e List.mem_cons_self
      have step : c.after (.createPool e.2) =
          { c with locations := c.locations.insert e.1 e.2 } := by
        rw [after_createPool, if_pos ⟨buildable, named ▸ fresh e List.mem_cons_self⟩, named]
      rw [List.map_cons, List.foldl_cons, List.foldl_cons, step]
      refine ih _ distinct.2 (fun other member => ?_)
        fun other member => sound other (List.mem_cons_of_mem e member)
      have apart : e.1 ≠ other.1 := fun same =>
        distinct.1 (List.mem_map.2 ⟨other, member, same.symm⟩)
      rw [Dict.contains_insert, fresh other (List.mem_cons_of_mem e member)]
      simpa using apart

/-- The settings of a known pattern are recorded in their order, as long as they are for different
paths. -/
theorem rebuild_settings (settings : List LimiterSetting) (c : Configuration) (pattern : String)
    (known : c.locations.contains pattern = true)
    (kept : ∀ s ∈ settings, s.pattern = pattern ∧ s.kind ∈ LimiterKind.names)
    (distinct : ((c.settings pattern ++ settings).map (·.path)).Nodup) (some_ : settings ≠ []) :
    settings.foldl (fun c s => c.after (.setRateLimiter s)) c =
      { c with limiters := c.limiters.insert pattern (c.settings pattern ++ settings) } := by
  -- Every setting goes to the end of the list, since no path comes twice.
  induction settings generalizing c with
  | nil => exact absurd rfl some_
  | cons s settings ih =>
      obtain ⟨here, kind⟩ := kept s List.mem_cons_self
      have others : (c.settings pattern).filter (·.path ≠ s.path) = c.settings pattern := by
        rw [List.filter_eq_self]
        intro other member
        rw [List.map_append, List.nodup_append] at distinct
        simpa using distinct.2.2 other.path (List.mem_map_of_mem member) s.path (by simp)
      have step : c.after (.setRateLimiter s) =
          { c with limiters := c.limiters.insert pattern (c.settings pattern ++ [s]) } := by
        rw [after_setRateLimiter, if_pos ⟨here ▸ known, kind⟩, withSetting, here, others]
      rw [List.foldl_cons, step]
      have now : ({ c with limiters :=
          c.limiters.insert pattern (c.settings pattern ++ [s]) } : Configuration).settings
            pattern = c.settings pattern ++ [s] := by
        rw [Configuration.settings, Dict.get?_insert, if_pos rfl, Option.getD_some]
      cases settings with
      | nil => rfl
      | cons next settings =>
          rw [ih { c with limiters := c.limiters.insert pattern (c.settings pattern ++ [s]) } known
            (fun other member => kept other (List.mem_cons_of_mem s member))
            (by rw [now, List.append_assoc]; exact distinct) (by simp), now]
          dsimp only
          rw [Dict.insert_insert, List.append_assoc, List.singleton_append]

/-- The limiters of known patterns are recorded one after another as they are. -/
theorem rebuild_limiters (entries : List (String × List LimiterSetting)) (c : Configuration)
    (distinct : (entries.map (·.1)).Nodup)
    (fresh : ∀ e ∈ entries, c.limiters.contains e.1 = false)
    (known : ∀ e ∈ entries, c.locations.contains e.1 = true)
    (filled : ∀ e ∈ entries, e.2 ≠ [])
    (kept : ∀ e ∈ entries, ∀ s ∈ e.2, s.pattern = e.1 ∧ s.kind ∈ LimiterKind.names)
    (single : ∀ e ∈ entries, (e.2.map (·.path)).Nodup) :
    entries.foldl withLimiters c =
      { c with limiters := entries.foldl (fun d e => d.insert e.1 e.2) c.limiters } := by
  induction entries generalizing c with
  | nil => rfl
  | cons e entries ih =>
      rw [List.map_cons, List.nodup_cons] at distinct
      have bare : c.settings e.1 = [] := by
        have absent := fresh e List.mem_cons_self
        rw [Dict.contains, Option.isSome_eq_false_iff, Option.isNone_iff_eq_none] at absent
        rw [settings, absent, Option.getD_none]
      have own : e.2.filter (·.pattern = e.1) = e.2 := by
        rw [List.filter_eq_self]
        intro s member
        simpa using (kept e List.mem_cons_self s member).1
      -- The pattern is new to the limiters, so its settings come in their own order.
      have step : c.withLimiters e = { c with limiters := c.limiters.insert e.1 e.2 } := by
        rw [withLimiters, own, rebuild_settings e.2 c e.1 (known e List.mem_cons_self)
          (kept e List.mem_cons_self) (by rw [bare]; exact single e List.mem_cons_self)
          (filled e List.mem_cons_self), bare, List.nil_append]
      rw [List.foldl_cons, List.foldl_cons, step]
      have more {p : String × List LimiterSetting → Prop} (each : ∀ f ∈ e :: entries, p f) :
          ∀ f ∈ entries, p f := fun f member => each f (List.mem_cons_of_mem e member)
      refine ih _ distinct.2 (fun other member => ?_) (more known) (more filled) (more kept)
        (more single)
      have apart : e.1 ≠ other.1 := fun same =>
        distinct.1 (List.mem_map.2 ⟨other, member, same.symm⟩)
      rw [Dict.contains_insert, fresh other (List.mem_cons_of_mem e member)]
      simpa using apart

/-- A blocked network with its canonical text is read back as the network with that text. -/
theorem parseCidr_of_named {c : Configuration} (named : c.Named) {record : String}
    (member : record ∈ c.blocked.keys) :
    ∃ net : Network, parseCidr record = .ok net ∧ net.text = record := by
  obtain ⟨net, rfl⟩ := named record (Dict.mem_keys.1 member)
  exact ⟨net, parseCidr_text net, rfl⟩

/-- The blocked networks are read back from their texts. -/
theorem recorded_keys {c : Configuration} (named : c.Named) :
    AccessList.recorded (networksOf c.blocked.keys) = c.blocked := by
  have texts (records : List String)
      (each : ∀ r ∈ records, ∃ net : Network, parseCidr r = .ok net ∧ net.text = r) :
      (networksOf records).map Network.text = records := by
    induction records with
    | nil => rfl
    | cons r records ih =>
        obtain ⟨net, read, text⟩ := each r List.mem_cons_self
        rw [networksOf, List.filterMap_cons, read]
        exact congrArg₂ List.cons text (ih fun s member => each s (List.mem_cons_of_mem r member))
  have whole := texts c.blocked.keys fun r => parseCidr_of_named named
  rw [AccessList.recorded]
  have pairs : (networksOf c.blocked.keys).map (fun net => (net.text, ())) = c.blocked.entries := by
    have split : (fun net : Network => (net.text, ())) = (fun r => (r, ())) ∘ Network.text := rfl
    rw [split, ← List.map_map, whole, Dict.keys, List.map_map]
    exact List.map_id'' (fun _ => rfl) _
  rw [pairs, Dict.ofList_entries]

/-! ### Locations without hosts -/

/-- A configuration without the locations that have no host, and without their limiters. -/
def served (c : Configuration) : Configuration :=
  { c with
    locations := c.locations.filter fun _ l => !l.proxyPass.isEmpty
    limiters := c.limiters.filter fun pattern _ =>
      (c.locations.filter fun _ l => !l.proxyPass.isEmpty).contains pattern }

/-- A configuration whose locations all have hosts has nothing else. -/
theorem served_of_hosted {c : Configuration} (sound : c.WellFormed)
    (hosted : ∀ pattern l, c.locations.get? pattern = some l → l.proxyPass ≠ []) :
    c.served = c := by
  have locations : (c.locations.filter fun _ l => !l.proxyPass.isEmpty) = c.locations :=
    Dict.ext (List.filter_eq_self.2 fun e member => by
      simpa using hosted e.1 e.2 (Dict.get?_eq_some_iff.2 member))
  have limiters : (c.limiters.filter fun pattern _ => c.locations.contains pattern) = c.limiters :=
    Dict.ext (List.filter_eq_self.2 fun e member => sound.limited (Dict.get?_eq_some_iff.2 member))
  rw [served, locations, limiters]

/-- Whether a configuration has a location without hosts at a pattern. -/
def Emptied (c : Configuration) (pattern : String) : Prop :=
  ∃ l, c.locations.get? pattern = some l ∧ l.proxyPass = []

instance (c : Configuration) (pattern : String) : Decidable (c.Emptied pattern) :=
  decidable_of_iff ((c.locations.get? pattern).any (·.proxyPass.isEmpty) = true) (by
    simp [Emptied, Option.any_eq_true])

/-- At every other pattern nothing is taken away. -/
theorem sameAt_served {c : Configuration} (sound : c.WellFormed) {pattern : String}
    (filled : ¬ c.Emptied pattern) : SameAt pattern c c.served := by
  have location : c.served.locations.get? pattern = c.locations.get? pattern :=
    Dict.get?_filter_of_keep fun l found => by simpa using fun bare => filled ⟨l, found, bare⟩
  refine ⟨location, Dict.get?_filter_of_keep fun settings found => ?_⟩
  change c.served.locations.contains pattern = true
  rw [Dict.contains, location]
  exact sound.limited found

/-- Locations without hosts are passed over. -/
theorem foldl_createPool_filter (entries : List (String × Location)) (c : Configuration) :
    (entries.map (·.2)).foldl (fun c l => c.after (.createPool l)) c =
      ((entries.filter fun e => !e.2.proxyPass.isEmpty).map (·.2)).foldl
        (fun c l => c.after (.createPool l)) c := by
  rw [List.foldl_map, List.foldl_map, List.foldl_filter]
  congr 1
  funext c e
  by_cases bare : e.2.proxyPass = []
  · have refused : ¬ (e.2.Buildable ∧ c.locations.contains e.2.pattern = false) :=
      fun accepted => accepted.1.2 bare
    rw [after_createPool, if_neg refused, bare]
    rfl
  · simp [bare]

/-- Setting up limiters leaves the locations as they are. -/
theorem locations_withLimiters (c : Configuration) (e : String × List LimiterSetting) :
    (c.withLimiters e).locations = c.locations :=
  List.foldlRecOn (motive := fun d : Configuration => d.locations = c.locations) _ _ rfl
    fun d same s _ => by
      rw [← same, after_setRateLimiter]
      split <;> rfl

/-- Limiters of patterns without a location are passed over. -/
theorem foldl_withLimiters_filter (entries : List (String × List LimiterSetting))
    (c : Configuration) :
    entries.foldl withLimiters c =
      (entries.filter fun e => c.locations.contains e.1).foldl withLimiters c := by
  induction entries generalizing c with
  | nil => rfl
  | cons e entries ih =>
      rw [List.foldl_cons, ih, locations_withLimiters]
      cases known : c.locations.contains e.1 with
      | true => rw [List.filter_cons, if_pos known, List.foldl_cons]
      | false =>
          rw [List.filter_cons, if_neg (by simp [known])]
          congr 1
          refine List.foldlRecOn (motive := (· = c)) _ _ rfl fun d same s member => ?_
          rw [same, after_setRateLimiter, if_neg]
          have here : s.pattern = e.1 := of_decide_eq_true (List.mem_filter.1 member).2
          rw [here, known]
          exact fun accepted => Bool.false_ne_true accepted.1

/-- Whatever is blocked, the locations and limiters of a configuration are rebuilt from its snapshot
but for the locations without hosts. -/
theorem rebuilt_state {c : Configuration} (sound : c.WellFormed) (blocked : Dict Unit) :
    rebuilt { blocked } c.state.routing = c.served.withBlocked blocked := by
  let locations := c.locations.filter fun _ l => !l.proxyPass.isEmpty
  let limiters := c.limiters.filter fun pattern _ => locations.contains pattern
  have buildable : ∀ e ∈ locations.entries, e.2.pattern = e.1 ∧ e.2.Buildable := by
    intro e member
    obtain ⟨listed, hosted⟩ := List.mem_filter.1 member
    obtain ⟨same, servable⟩ := sound.located (Dict.get?_eq_some_iff.2 listed)
    exact ⟨same, servable, by simpa using hosted⟩
  have found {e : String × List LimiterSetting} (member : e ∈ limiters.entries) :
      c.limiters.get? e.1 = some e.2 :=
    Dict.get?_eq_some_iff.2 (List.mem_filter.1 member).1
  rw [rebuilt]
  simp only [state]
  -- The limiters come last, when every pattern they need is there.
  rw [Dict.values, foldl_createPool_filter]
  change List.foldl _ ((locations.entries.map (·.2)).foldl _ _) _ = _
  rw [rebuild_locations locations.entries _ locations.keys_nodup (fun _ _ => rfl) buildable,
    Dict.foldl_insert_entries, foldl_withLimiters_filter]
  change limiters.entries.foldl withLimiters _ = _
  rw [rebuild_limiters limiters.entries { locations, blocked }
    limiters.keys_nodup (fun _ _ => rfl) (fun e member => (List.mem_filter.1 member).2)
    (fun e member => sound.filled (found member)) (fun e member => sound.kept (found member))
    (fun e member => sound.single (found member)), Dict.foldl_insert_entries]
  rfl

/-- A configuration is rebuilt from its snapshot but for the locations without hosts. -/
theorem restored_state_eq_served {c : Configuration} (sound : c.WellFormed) (named : c.Named) :
    restored c.state = c.served := by
  have records : AccessList.recorded (networksOf c.state.records) = c.blocked :=
    recorded_keys named
  rw [restored, records, rebuilt_state sound]
  rfl

/-- A configuration whose locations all have hosts is what its snapshot is rebuilt to. -/
theorem restored_state {c : Configuration} (sound : c.WellFormed) (named : c.Named)
    (hosted : ∀ pattern l, c.locations.get? pattern = some l → l.proxyPass ≠ []) :
    restored c.state = c :=
  (restored_state_eq_served sound named).trans (served_of_hosted sound hosted)

end Configuration

end ClusterGateway
