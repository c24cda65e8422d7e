import ClusterGateway.Config.Review
import ClusterGateway.Proofs.Control.Acceptance

/-! # What a review finds in locations

The review of a configuration goes through the locations with the patterns seen so far. It finds
fault with none of them just when each is sound by itself and no two share a pattern. So a review
that passes and the check that a node makes of each location before it proposes one never disagree.
-/

namespace ClusterGateway

/-- A location passes its check just if its pattern, its backends and its mode are in order. -/
theorem Location.check_eq_ok_iff {l : Location} :
    l.check = .ok () ↔ Pattern.check l.pattern = .ok () ∧ l.proxyPass.isEmpty = false ∧
      l.backendErrors = [] ∧ l.lacksMode = false := by
  rw [check_eq]
  cases Pattern.check l.pattern <;> cases l.proxyPass.isEmpty <;> cases l.backendErrors <;>
    cases l.lacksMode <;> simp

namespace Review

/-- There is no fault with a location just when it is sound by itself and its pattern is new. -/
theorem locationErrors_eq_nil_iff {earlier : List String} {l : Location} :
    locationErrors earlier l = [] ↔ l.check = .ok () ∧ l.pattern ∉ earlier := by
  have fresh : earlier.contains l.pattern = false ↔ l.pattern ∉ earlier := by simp
  rw [Location.check_eq_ok_iff, ← fresh]
  simp only [locationErrors, List.append_eq_nil_iff, List.map_eq_nil_iff]
  cases Pattern.check l.pattern <;> cases earlier.contains l.pattern <;>
    cases l.proxyPass.isEmpty <;> cases l.lacksMode <;> simp

/-- There is no fault with locations just when each is sound by itself, they share no pattern, and
they have none of the patterns seen before. -/
theorem locationsErrors_eq_nil_iff {earlier : List String} {locations : List Location} :
    locationsErrors earlier locations = [] ↔
      (∀ l ∈ locations, l.check = .ok ()) ∧ (locations.map (·.pattern)).Nodup ∧
        ∀ l ∈ locations, l.pattern ∉ earlier := by
  induction locations generalizing earlier with
  | nil => simp [locationsErrors]
  | cons l rest ih =>
      rw [locationsErrors, List.append_eq_nil_iff, locationErrors_eq_nil_iff, ih,
        List.forall_mem_cons, List.forall_mem_cons, List.map_cons, List.nodup_cons]
      -- A later location is to avoid this pattern too, which is what makes the patterns distinct.
      have avoids : (∀ k ∈ rest, k.pattern ∉ earlier ++ [l.pattern]) ↔
          (∀ k ∈ rest, k.pattern ∉ earlier) ∧ l.pattern ∉ rest.map (·.pattern) := by
        simp only [List.mem_append, List.mem_singleton, not_or, List.mem_map, not_exists, not_and]
        exact forall₂_and
      rw [avoids]
      tauto

/-- What is found about locations concerns them or their backends. -/
theorem part_of_locationErrors {earlier : List String} {l : Location} {f : ConfigFinding}
    (found : f ∈ locationErrors earlier l) : f.part = .location ∨ f.part = .backend := by
  simp only [locationErrors, List.mem_append, List.mem_map] at found
  rcases found with (((shape | twice) | none) | ⟨error, -, rfl⟩) | mode
  · split at shape
    · exact Or.inl (List.mem_singleton.1 shape ▸ rfl)
    · exact absurd shape List.not_mem_nil
  · split at twice
    · exact Or.inl (List.mem_singleton.1 twice ▸ rfl)
    · exact absurd twice List.not_mem_nil
  · split at none
    · exact Or.inl (List.mem_singleton.1 none ▸ rfl)
    · exact absurd none List.not_mem_nil
  · exact Or.inr rfl
  · split at mode
    · exact Or.inl (List.mem_singleton.1 mode ▸ rfl)
    · exact absurd mode List.not_mem_nil

/-- What is found wrong with the locations concerns a location or a backend. -/
theorem part_of_locationsErrors {earlier : List String} {locations : List Location}
    {f : ConfigFinding} (found : f ∈ locationsErrors earlier locations) :
    f.part = .location ∨ f.part = .backend := by
  induction locations generalizing earlier with
  | nil => exact absurd found List.not_mem_nil
  | cons l rest ih =>
      rw [locationsErrors, List.mem_append] at found
      exact found.elim part_of_locationErrors ih

/-- A number that must not be zero is reported under its own part. -/
theorem part_of_nonzero {part : ConfigPart} {n : Nat} {message : String} {f : ConfigFinding}
    (found : f ∈ nonzero part n message) : f.part = part := by
  rw [nonzero] at found
  split at found
  · exact List.mem_singleton.1 found ▸ rfl
  · exact absurd found List.not_mem_nil

/-- A review reports no fault with locations or backends just when every location is sound by itself
and no two share a pattern. -/
theorem no_location_fault_iff (c : Config) :
    (∀ f ∈ errorsOf c, f.part ≠ .location ∧ f.part ≠ .backend) ↔
      (∀ l ∈ c.locations, l.check = .ok ()) ∧ (c.locations.map (·.pattern)).Nodup := by
  have whole : locationsErrors [] c.locations = [] ↔
      (∀ l ∈ c.locations, l.check = .ok ()) ∧ (c.locations.map (·.pattern)).Nodup := by
    rw [locationsErrors_eq_nil_iff]
    simp
  rw [← whole]
  constructor
  · intro clean
    rw [List.eq_nil_iff_forall_not_mem]
    intro f found
    have listed : f ∈ errorsOf c := by
      simp only [errorsOf, List.mem_append]
      exact Or.inl (Or.inl (Or.inl found))
    rcases part_of_locationsErrors found with part | part
    · exact (clean f listed).1 part
    · exact (clean f listed).2 part
  · intro none f listed
    -- Everything else is found by a bound of its own part.
    have part : f.part = .cluster ∨ f.part = .healthCheck ∨ f.part = .loadBalance := by
      simp only [errorsOf, none, List.nil_append, List.mem_append] at listed
      rcases listed with (time | checks) | replicas
      · exact Or.inl (part_of_nonzero time)
      · split at checks
        · rcases List.mem_append.1 checks with interval | timeout
          · exact Or.inr (Or.inl (part_of_nonzero interval))
          · exact Or.inr (Or.inl (part_of_nonzero timeout))
        · exact absurd checks List.not_mem_nil
      · exact Or.inr (Or.inr (part_of_nonzero replicas))
    rcases part with part | part | part <;> rw [part] <;> exact ⟨nofun, nofun⟩

/-- What a review that passes says of a configuration. -/
theorem sound_of_passes {c : Config} (passes : c.review.passes = true) :
    (∀ l ∈ c.locations, l.check = .ok ()) ∧ (c.locations.map (·.pattern)).Nodup ∧
      c.cluster.proposeTimeout ≠ 0 := by
  have clean : errorsOf c = [] := List.isEmpty_iff.1 passes
  obtain ⟨checked, distinct⟩ := (no_location_fault_iff c).1 fun f found =>
    absurd (clean ▸ found) List.not_mem_nil
  refine ⟨checked, distinct, fun zero => ?_⟩
  rw [errorsOf, zero] at clean
  simp [nonzero] at clean

end Review

end ClusterGateway
