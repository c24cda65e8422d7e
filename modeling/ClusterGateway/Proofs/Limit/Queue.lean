import ClusterGateway.Limit.Gate
import Mathlib.Data.List.Nodup

/-! # The queue of a gate

A call has its place at a gate in the queue, or among those that were woken in it and have not looked
again. Waking one or all moves places from the one to the other, and a call that goes takes its place
with it. A wake-up for a slot stays under way until a call looks, unless the queue is empty.
-/

namespace ClusterGateway

section Tickets

variable {α : Type} {entries : List (Nat × α)}

/-- Taking out what is not there changes nothing. -/
theorem filter_ne_of_absent {t : Nat} (absent : ∀ e ∈ entries, e.1 ≠ t) :
    entries.filter (·.1 ≠ t) = entries := by
  rw [List.filter_eq_self]
  intro e member
  simpa using absent e member

/-- Of entries with distinct keys one has a key, and the others have other keys. -/
theorem perm_cons_filter_ne (distinct : (entries.map (·.1)).Nodup) {e : Nat × α}
    (member : e ∈ entries) : entries.Perm (e :: entries.filter (·.1 ≠ e.1)) := by
  induction entries with
  | nil => exact absurd member List.not_mem_nil
  | cons first entries ih =>
      obtain ⟨single, rest⟩ := List.nodup_cons.1 distinct
      rcases List.mem_cons.1 member with rfl | later
      · have absent : ∀ other ∈ entries, other.1 ≠ e.1 := fun other known same =>
          single (List.mem_map.2 ⟨other, known, same⟩)
        rw [List.filter_cons_of_neg (by simp), filter_ne_of_absent absent]
      · have apart : first.1 ≠ e.1 := fun same =>
          single (List.mem_map.2 ⟨e, later, same.symm⟩)
        rw [List.filter_cons_of_pos (by simpa using apart)]
        exact ((ih rest later).cons first).trans (.swap _ _ _)

end Tickets

namespace Gate

variable {g : Gate} {t u : Nat}

/-- The calls in the queue and those that were woken in it. -/
def places (g : Gate) : List Nat := g.waiting ++ g.woken.map (·.1)

/-- How many calls have been woken for a slot and have not looked yet. -/
def slotsUnderway (g : Gate) : Nat := g.woken.countP (·.2 = .slot)

/-- Waking a call moves it, but leaves all calls their places. -/
theorem places_wakeOne (g : Gate) : g.wakeOne.2.places.Perm g.places := by
  rw [wakeOne]
  split
  · next first rest queue =>
      rw [places, places, queue, List.map_append, ← List.append_assoc]
      exact List.perm_append_singleton first _
  · exact .refl _

/-- Waking a call keeps a wake-up under way, unless the queue is empty. -/
theorem waiting_wakeOne (member : u ∈ g.wakeOne.2.waiting) :
    u ∈ g.waiting ∧ g.wakeOne.2.slotsUnderway = g.slotsUnderway + 1 := by
  rw [wakeOne] at member ⊢
  split at member
  · next first rest queue =>
      rw [queue]
      exact ⟨List.mem_cons_of_mem first member, by simp [slotsUnderway]⟩
  · next queue => exact absurd member (by simp [queue])

@[simp] theorem volume_wakeOne (g : Gate) : g.wakeOne.2.volume = g.volume := by
  rw [wakeOne]
  split <;> rfl

@[simp] theorem inUse_wakeOne (g : Gate) : g.wakeOne.2.inUse = g.inUse := by
  rw [wakeOne]
  split <;> rfl

/-- Wakes all calls in the queue. -/
def wakeAll (g : Gate) : Gate := (g.setVolume g.volume).2

/-- Changing the volume wakes all calls at the gate with the new volume. -/
theorem setVolume_snd (g : Gate) (volume : Int) :
    (g.setVolume volume).2 = wakeAll { g with volume := volume.toNat } := by
  rw [wakeAll, setVolume, setVolume, Int.toNat_natCast]

/-- Waking all calls moves them, but leaves them their places. -/
theorem places_wakeAll (g : Gate) : g.wakeAll.places.Perm g.places := by
  have keys : (g.waiting.map fun ticket => (ticket, WakeCause.volume)).map (·.1) = g.waiting := by
    rw [List.map_map]
    exact List.map_id'' (fun _ => rfl) _
  rw [wakeAll, setVolume, places, places, List.map_append, keys, List.nil_append]
  exact List.perm_append_comm

/-- The gate without a call in its queue. -/
def without (g : Gate) (t : Nat) : Gate :=
  { g with waiting := g.waiting.filter (· ≠ t), woken := g.woken.filter (·.1 ≠ t) }

/-- Without a call the others have the places they had. -/
theorem places_without (g : Gate) (t : Nat) : (g.without t).places = g.places.filter (· ≠ t) := by
  rw [places, places, List.filter_append, List.filter_map]
  rfl

/-- A call that is not in the queue can only have been woken there. -/
theorem without_of_unqueued (unqueued : t ∉ g.waiting) :
    g.without t = { g with woken := g.woken.filter (·.1 ≠ t) } := by
  have queue : g.waiting.filter (· ≠ t) = g.waiting :=
    List.filter_eq_self.2 fun u queued => by simpa using ne_of_mem_of_not_mem queued unqueued
  rw [without, queue]

/-- Without a call that has no place the gate is as it was. -/
theorem without_of_absent (absent : t ∉ g.places) : g.without t = g := by
  rw [places, List.mem_append, not_or] at absent
  have woken : g.woken.filter (·.1 ≠ t) = g.woken :=
    filter_ne_of_absent fun e member same => absent.2 (List.mem_map.2 ⟨e, member, same⟩)
  rw [without_of_unqueued absent.1, woken]

/-- A call that looks loses its place first. -/
theorem attempt_without (unqueued : t ∉ g.waiting) : (g.without t).attempt t = g.attempt t := by
  rw [without_of_unqueued unqueued, attempt, attempt]
  simp only [List.filter_filter, Bool.and_self]

/-- A call that gives up passes its wake-up on if it was woken for a slot. -/
theorem abandon_snd (g : Gate) (t : Nat) :
    (g.abandon t).2 =
      if (t, WakeCause.slot) ∈ g.woken then (g.without t).wakeOne.2 else g.without t := by
  rw [abandon]
  split <;> rfl

/-- A call without a place can give up without any effect. -/
theorem abandon_of_absent (absent : t ∉ g.places) : (g.abandon t).2 = g := by
  have unwoken : (t, WakeCause.slot) ∉ g.woken := fun member =>
    absent (List.mem_append_right _ (List.mem_map.2 ⟨_, member, rfl⟩))
  rw [abandon_snd, if_neg unwoken, without_of_absent absent]

/-- A call that was woken for a slot accounts for one of the slots that are under way. -/
theorem slotsUnderway_without (once : g.places.Nodup) (t : Nat) :
    g.slotsUnderway =
      (g.without t).slotsUnderway + if (t, WakeCause.slot) ∈ g.woken then 1 else 0 := by
  have distinct : (g.woken.map (·.1)).Nodup := (List.nodup_append.1 once).2.1
  rw [slotsUnderway, slotsUnderway, without]
  by_cases here : ∃ cause, (t, cause) ∈ g.woken
  · obtain ⟨cause, member⟩ := here
    have split := perm_cons_filter_ne distinct member
    rw [split.countP_eq, List.countP_cons]
    have only (other : WakeCause) (known : (t, other) ∈ g.woken) : other = cause := by
      rcases List.mem_cons.1 (split.mem_iff.1 known) with same | gone
      · exact congrArg Prod.snd same
      · simp at gone
    cases cause with
    | slot => simp [member]
    | volume =>
        have absent : (t, WakeCause.slot) ∉ g.woken := fun known =>
          absurd (only _ known) (by simp)
        simp [absent]
  · have absent : (t, WakeCause.slot) ∉ g.woken := fun known => here ⟨_, known⟩
    have others : ∀ e ∈ g.woken, e.1 ≠ t := fun e known same => here ⟨e.2, same ▸ known⟩
    rw [filter_ne_of_absent others, if_neg absent, Nat.add_zero]

/-- After a call has given up the others have their places. -/
theorem places_abandon (g : Gate) (t : Nat) :
    (g.abandon t).2.places.Perm (g.places.filter (· ≠ t)) := by
  rw [abandon_snd, ← places_without]
  split
  · exact places_wakeOne _
  · exact .refl _

/-- A call that goes passes the wake-up for its slot on, unless the queue is empty. -/
theorem waiting_abandon (once : g.places.Nodup) (member : u ∈ (g.abandon t).2.waiting) :
    u ∈ g.waiting ∧ g.slotsUnderway ≤ (g.abandon t).2.slotsUnderway := by
  have lost := slotsUnderway_without once t
  rw [abandon_snd] at member ⊢
  split at member
  · next given =>
      obtain ⟨queued, gained⟩ := waiting_wakeOne member
      rw [if_pos given] at lost ⊢
      exact ⟨(List.mem_filter.1 queued).1, by omega⟩
  · next given =>
      rw [if_neg given] at lost ⊢
      exact ⟨(List.mem_filter.1 member).1, by omega⟩

@[simp] theorem volume_abandon (g : Gate) (t : Nat) : (g.abandon t).2.volume = g.volume := by
  rw [abandon_snd]
  split <;> simp [without]

@[simp] theorem inUse_abandon (g : Gate) (t : Nat) : (g.abandon t).2.inUse = g.inUse := by
  rw [abandon_snd]
  split <;> simp [without]

/-- A slot is taken only where there is room, and nothing else changes. -/
theorem take?_eq_some {entered : Gate} (enters : g.take? = some entered) :
    g.HasRoom ∧ entered = { g with inUse := g.inUse + 1 } := by
  rw [take?] at enters
  split at enters
  · next room => exact ⟨room, (Option.some.inj enters).symm⟩
  · exact absurd enters (by simp)

/-- A slot is refused only at a gate that has a limit and is full. -/
theorem take?_eq_none (refused : g.take? = none) : g.volume ≠ 0 ∧ g.volume ≤ g.inUse := by
  rw [take?] at refused
  split at refused
  · exact absurd refused (by simp)
  · next full => exact ⟨fun free => full (Or.inl free), by omega⟩

end Gate

end ClusterGateway
