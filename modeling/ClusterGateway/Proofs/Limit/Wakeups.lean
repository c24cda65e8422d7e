import ClusterGateway.Proofs.Limit.Crowd

/-! # No wake-up is lost

While a call waits in the queue, the slots in use, those given back for which a call is still to be
woken, the wake-ups under way and the calls that are about to look add up to the volume at least. No
move breaks this: a slot that comes free goes from one of these to another until a call has entered
with it. When nothing can go on by itself only the slots in use are left, so there is no room.
-/

namespace ClusterGateway

namespace Call

/-- The call has a place in the queue, or was woken in it. -/
def Placed (call : Call) : Prop := call.stage ≠ .coming ∧ call.ready = false

/-- The call is going to look for room before it waits again. -/
def seeks (call : Call) : Bool := call.stage = .coming ∨ call.stage = .looking

end Call

namespace Crowd

variable {c : Crowd} {t : Nat}

/-! ### The invariant -/

/-- One if there is a call and it seeks room. -/
def weight (call : Option Call) : Nat := call.toList.countP Call.seeks

@[simp] theorem weight_none : weight none = 0 := rfl

@[simp] theorem weight_coming (ready : Bool) : weight (some ⟨.coming, ready⟩) = 1 := rfl

@[simp] theorem weight_looking (ready : Bool) : weight (some ⟨.looking, ready⟩) = 1 := rfl

/-- A call that does not seek room does not count. -/
theorem weight_of_idle {call : Call} (idle : call.seeks = false) : weight (some call) = 0 := by
  rw [weight, Option.toList_some, List.countP_cons_of_neg (by simp [idle]), List.countP_nil]

/-- How many calls seek room. -/
def seekers (c : Crowd) : Nat := c.calls.countP (·.2.seeks)

/-- The slots in use, and all that will lead to a look for room. -/
def credit (c : Crowd) : Nat := c.gate.inUse + c.freed + c.gate.slotsUnderway + c.seekers

/-- A crowd whose books are in order. -/
structure Sound (c : Crowd) : Prop where
  /-- Every ticket has one call. -/
  distinct : (c.calls.map (·.1)).Nodup
  /-- Every ticket has one place. -/
  once : c.gate.places.Nodup
  placed : ∀ t, t ∈ c.gate.places ↔ ∃ call, c.call? t = some call ∧ call.Placed
  /-- While calls wait for a slot, every slot is in use or will be looked for. -/
  claimed : c.changed = 0 → ∀ t ∈ c.gate.waiting, c.call? t = some ⟨.waiting, false⟩ →
    c.gate.volume ≠ 0 ∧ c.gate.volume ≤ c.credit

theorem sound_empty : Sound {} :=
  ⟨List.nodup_nil, List.nodup_nil, fun t => by simp [Gate.places, call?],
    fun _ t queued => absurd queued List.not_mem_nil⟩

/-- A call that is found under a ticket is one of the calls. -/
theorem mem_of_call? {call : Call} (found : c.call? t = some call) : (t, call) ∈ c.calls := by
  rw [call?] at found
  generalize c.calls = calls at found
  induction calls with
  | nil => exact absurd found (by simp)
  | cons e calls ih =>
      rw [lookup_cons_eq] at found
      split at found
      · next same =>
          obtain rfl := Option.some.inj found
          exact same ▸ List.mem_cons_self
      · exact List.mem_cons_of_mem e (ih found)

/-- In a crowd in order every call is found under its ticket. -/
theorem Sound.call?_of_mem (sound : c.Sound) {e : Nat × Call} (member : e ∈ c.calls) :
    c.call? e.1 = some e.2 := by
  have distinct := sound.distinct
  rw [call?]
  generalize c.calls = calls at *
  induction calls with
  | nil => exact absurd member List.not_mem_nil
  | cons first calls ih =>
      rw [List.map_cons, List.nodup_cons] at distinct
      rw [lookup_cons_eq]
      rcases List.mem_cons.1 member with rfl | later
      · rw [if_pos rfl]
      · have apart : e.1 ≠ first.1 := fun same =>
          distinct.1 (List.mem_map.2 ⟨e, later, same⟩)
        rw [if_neg apart]
        exact ih later distinct.2

/-- A call that takes the place of another one changes the number of those that seek room by what
the two weigh. -/
theorem Sound.seekers_put (sound : c.Sound) (gate : Gate) (t : Nat) (call : Option Call) :
    (c.put gate t call).seekers + weight (c.call? t) = c.seekers + weight call := by
  have added : (c.put gate t call).seekers =
      weight call + (c.calls.filter (·.1 ≠ t)).countP (·.2.seeks) := by
    rw [seekers, put, List.countP_append, weight]
    cases call <;> simp [List.countP_cons]
  have before : c.seekers =
      weight (c.call? t) + (c.calls.filter (·.1 ≠ t)).countP (·.2.seeks) := by
    cases found : c.call? t with
    | some old =>
        rw [seekers, (perm_cons_filter_ne sound.distinct (mem_of_call? found)).countP_eq, weight]
        simp [List.countP_cons, Nat.add_comm]
    | none =>
        have absent : ∀ e ∈ c.calls, e.1 ≠ t := fun e member same => by
          simpa [same] using List.lookup_eq_none_iff.1 found e member
        rw [filter_ne_of_absent absent, weight, Option.toList_none, List.countP_nil, Nat.zero_add,
          seekers]
  omega

/-! ### One move -/

/-- Putting a call keeps tickets from being used twice. -/
theorem Sound.distinct_put (sound : c.Sound) (gate : Gate) (t : Nat) (call : Option Call) :
    ((c.put gate t call).calls.map (·.1)).Nodup := by
  have others : ((c.calls.filter (·.1 ≠ t)).map (·.1)).Nodup :=
    sound.distinct.sublist (List.filter_sublist.map _)
  cases call with
  | none => exact others
  | some call =>
      refine List.nodup_cons.2 ⟨fun member => ?_, others⟩
      obtain ⟨e, known, same⟩ := List.mem_map.1 member
      exact absurd same (by simpa using (List.mem_filter.1 known).2)

/-- If the gate changes its places as the call does, the books agree on who has a place. -/
theorem Sound.placed_of_put (sound : c.Sound) {gate : Gate} {call : Option Call}
    (placed : ∀ u, u ∈ gate.places ↔
      if u = t then ∃ k, call = some k ∧ k.Placed else u ∈ c.gate.places) (u : Nat) :
    u ∈ gate.places ↔ ∃ k, (c.put gate t call).call? u = some k ∧ k.Placed := by
  rw [placed, call?_put]
  split
  · rfl
  · exact sound.placed u

/-- A call moves on, and the gate changes with it. The call does not come to wait for a slot, and as
long as others do, nothing is lost of what will lead to a look for room. -/
theorem Sound.move (sound : c.Sound) {gate : Gate} {call : Option Call}
    (once : gate.places.Nodup)
    (placed : ∀ u, u ∈ gate.places ↔
      if u = t then ∃ k, call = some k ∧ k.Placed else u ∈ c.gate.places)
    (aside : call ≠ some ⟨.waiting, false⟩) (volume : gate.volume = c.gate.volume)
    (kept : ∀ u ∈ gate.waiting, u ≠ t → u ∈ c.gate.waiting ∧
      c.gate.inUse + c.gate.slotsUnderway + weight (c.call? t) ≤
        gate.inUse + gate.slotsUnderway + weight call) :
    (c.put gate t call).Sound := by
  have counted := sound.seekers_put gate t call
  refine ⟨sound.distinct_put gate t call, once, sound.placed_of_put placed,
    fun settled u queued found => ?_⟩
  rw [call?_put] at found
  split at found
  · exact absurd found aside
  · next other =>
      obtain ⟨before, credit⟩ := kept u queued other
      obtain ⟨limited, full⟩ := sound.claimed settled u before found
      have whole : c.credit ≤ (c.put gate t call).credit := by
        change _ ≤ gate.inUse + c.freed + gate.slotsUnderway + (c.put gate t call).seekers
        rw [Crowd.credit]
        omega
      rw [gate_put, volume]
      exact ⟨limited, Nat.le_trans full whole⟩

/-- A call that moves on where it is changes no place. -/
theorem Sound.placed_put (sound : c.Sound) {call : Option Call}
    (same : (∃ k, c.call? t = some k ∧ k.Placed) ↔ ∃ k, call = some k ∧ k.Placed) (u : Nat) :
    u ∈ c.gate.places ↔ if u = t then ∃ k, call = some k ∧ k.Placed else u ∈ c.gate.places := by
  split
  · next here => exact here ▸ (sound.placed t).trans same
  · rfl

/-- A call without a place in the books has none at the gate. -/
theorem Sound.not_placed (sound : c.Sound) {call : Call} (found : c.call? t = some call)
    (unplaced : ¬ call.Placed) : t ∉ c.gate.places := by
  intro member
  obtain ⟨known, same, placed⟩ := (sound.placed t).1 member
  rw [found] at same
  exact unplaced (Option.some.inj same ▸ placed)

/-- A call that comes is put on the books without a place. -/
theorem Sound.arrive (sound : c.Sound) (absent : c.call? t = none) :
    (c.put c.gate t (some ⟨.coming, false⟩)).Sound := by
  refine sound.move sound.once (sound.placed_put ?_) (by simp) rfl fun u queued _ => ⟨queued, ?_⟩
  · simp [absent, Call.Placed]
  · rw [absent, weight_none, weight_coming]
    exact Nat.le_succ _

/-- A call that takes a stored wake-up goes on to look without a place in the queue. -/
theorem Sound.enlist_ready (sound : c.Sound) {ready : Bool}
    (found : c.call? t = some ⟨.coming, ready⟩) (stored : Bool) :
    (c.put { c.gate with stored } t (some ⟨.looking, true⟩)).Sound := by
  refine sound.move sound.once (sound.placed_put ?_) (by simp) rfl fun u queued _ => ⟨queued, ?_⟩
  · simp [found, Call.Placed]
  · rw [found, weight_coming, weight_looking]
    exact Nat.le_refl _

/-- A call that finds no stored wake-up goes to the end of the queue before it looks. -/
theorem Sound.enlist_queue (sound : c.Sound) {ready : Bool}
    (found : c.call? t = some ⟨.coming, ready⟩) :
    (c.put { c.gate with waiting := c.gate.waiting ++ [t] } t (some ⟨.looking, false⟩)).Sound := by
  have absent : t ∉ c.gate.places := sound.not_placed found (by simp [Call.Placed])
  have places : Gate.places { c.gate with waiting := c.gate.waiting ++ [t] } =
      c.gate.waiting ++ t :: c.gate.woken.map (·.1) := by simp [Gate.places]
  have split : (c.gate.waiting ++ t :: c.gate.woken.map (·.1)).Perm (t :: c.gate.places) :=
    List.perm_middle
  refine sound.move ?_ (fun u => ?_) (by simp) rfl fun u queued other => ⟨?_, ?_⟩
  · rw [places, split.nodup_iff]
    exact List.nodup_cons.2 ⟨absent, sound.once⟩
  · rw [places, split.mem_iff, List.mem_cons]
    by_cases here : u = t <;> simp [here, Call.Placed]
  · simpa [other] using queued
  · rw [found, weight_coming, weight_looking]
    exact Nat.le_refl _

/-- A call that enters has its slot in place of its look for room. -/
theorem Sound.enter (sound : c.Sound) {ready : Bool} (found : c.call? t = some ⟨.looking, ready⟩) :
    (c.put { c.gate with inUse := c.gate.inUse + 1 } t (some ⟨.entered, ready⟩)).Sound := by
  refine sound.move sound.once (sound.placed_put ?_) (by simp) rfl fun u queued _ => ⟨queued, ?_⟩
  · simp [found, Call.Placed]
  · rw [found, weight_looking, weight_of_idle rfl]
    change _ ≤ c.gate.inUse + 1 + c.gate.slotsUnderway + 0
    omega

/-- A call waits only when all slots are in use. -/
theorem Sound.wait (sound : c.Sound) {ready : Bool} (found : c.call? t = some ⟨.looking, ready⟩)
    (refused : c.gate.take? = none) : (c.put c.gate t (some ⟨.waiting, ready⟩)).Sound := by
  obtain ⟨limited, full⟩ := Gate.take?_eq_none refused
  have same : (∃ k, c.call? t = some k ∧ k.Placed) ↔
      ∃ k, some (⟨.waiting, ready⟩ : Call) = some k ∧ k.Placed := by simp [found, Call.Placed]
  refine ⟨sound.distinct_put _ t _, sound.once, sound.placed_of_put (sound.placed_put same),
    fun _ u _ _ => ⟨limited, Nat.le_trans full ?_⟩⟩
  rw [credit, gate_put]
  omega

/-- A woken call that looks again leaves its place in the queue. -/
theorem Sound.resume (sound : c.Sound) {ready : Bool} (found : c.call? t = some ⟨.waiting, ready⟩)
    (due : ready = true ∨ t ∈ c.gate.woken.map (·.1)) :
    (c.put { c.gate with woken := c.gate.woken.filter (·.1 ≠ t) } t
      (some ⟨.coming, false⟩)).Sound := by
  have gone : t ∉ c.gate.waiting := by
    intro queued
    rcases due with rfl | woken
    · exact sound.not_placed found (by simp [Call.Placed]) (List.mem_append_left _ queued)
    · exact (List.nodup_append.1 sound.once).2.2 t queued t woken rfl
  rw [← Gate.without_of_unqueued gone]
  refine sound.move ?_ (fun u => ?_) (by simp) rfl fun u queued _ => ⟨?_, ?_⟩
  · rw [Gate.places_without]
    exact sound.once.filter _
  · rw [Gate.places_without, List.mem_filter]
    by_cases here : u = t <;> simp [here, Call.Placed]
  · exact (List.mem_filter.1 queued).1
  · have lost := Gate.slotsUnderway_without sound.once t
    have used : (c.gate.without t).inUse = c.gate.inUse := rfl
    rw [found, weight_of_idle rfl, weight_coming, used]
    split at lost <;> omega

/-- A call goes after it has entered, or gives up. -/
theorem Sound.dismiss (sound : c.Sound) {call : Call} (found : c.call? t = some call)
    (idle : call.seeks = false) : (c.dismiss t).Sound := by
  have places := c.gate.places_abandon t
  refine sound.move ?_ (fun u => ?_) (by simp) (c.gate.volume_abandon t) fun u queued _ => ?_
  · exact places.nodup_iff.2 (sound.once.filter _)
  · rw [places.mem_iff, List.mem_filter]
    by_cases here : u = t <;> simp [here]
  · obtain ⟨before, slots⟩ := Gate.waiting_abandon sound.once queued
    refine ⟨before, ?_⟩
    rw [found, weight_of_idle idle, weight_none, Gate.inUse_abandon]
    omega

/-- The gate changes while no call moves, and as long as calls wait, nothing is lost of what will
lead to a look for room. -/
theorem Sound.aside (sound : c.Sound) {gate : Gate} {freed : Nat}
    (places : gate.places.Perm c.gate.places) (volume : gate.volume = c.gate.volume)
    (kept : ∀ t ∈ gate.waiting, t ∈ c.gate.waiting ∧
      c.gate.inUse + c.freed + c.gate.slotsUnderway ≤ gate.inUse + freed + gate.slotsUnderway) :
    ({ c with gate, freed } : Crowd).Sound := by
  refine ⟨sound.distinct, places.nodup_iff.2 sound.once,
    fun t => places.mem_iff.trans (sound.placed t), fun settled t queued found => ?_⟩
  obtain ⟨before, credit⟩ := kept t queued
  obtain ⟨limited, full⟩ := sound.claimed settled t before found
  have whole : c.credit ≤ ({ c with gate, freed } : Crowd).credit := Nat.add_le_add_right credit _
  exact ⟨volume ▸ limited, volume ▸ Nat.le_trans full whole⟩

/-- A slot that is taken past the queue counts among the slots in use. -/
theorem Sound.take (sound : c.Sound) :
    ({ c with gate := { c.gate with inUse := c.gate.inUse + 1 } } : Crowd).Sound := by
  refine sound.aside (.refl _) rfl fun t queued => ⟨queued, ?_⟩
  change _ ≤ c.gate.inUse + 1 + c.freed + c.gate.slotsUnderway
  omega

/-- A slot that is given back is still to be told of. -/
theorem Sound.giveBack (sound : c.Sound) :
    ({ c with
      gate := { c.gate with inUse := c.gate.inUse - 1 }, freed := c.freed + 1 } : Crowd).Sound := by
  refine sound.aside (.refl _) rfl fun t queued => ⟨queued, ?_⟩
  change _ ≤ c.gate.inUse - 1 + (c.freed + 1) + c.gate.slotsUnderway
  omega

/-- Waking a call settles one slot that was to be told of. -/
theorem Sound.wakeOne (sound : c.Sound) :
    ({ c with gate := c.gate.wakeOne.2, freed := c.freed - 1 } : Crowd).Sound := by
  refine sound.aside c.gate.places_wakeOne c.gate.volume_wakeOne fun t queued => ?_
  obtain ⟨before, slots⟩ := Gate.waiting_wakeOne queued
  rw [Gate.inUse_wakeOne, slots]
  exact ⟨before, by omega⟩

/-- A change of the volume reaches every call that is there. -/
theorem call?_hear (c : Crowd) (gate : Gate) (changed t : Nat) :
    ({ c with gate, calls := c.calls.map fun e => (e.1, e.2.hear), changed } : Crowd).call? t =
      (c.call? t).map Call.hear := by
  rw [call?, call?]
  generalize c.calls = calls
  induction calls with
  | nil => rfl
  | cons e calls ih =>
      rw [List.map_cons, lookup_cons_eq, lookup_cons_eq, ih]
      split <;> rfl

/-- A call that hears of a change keeps its place, or stays without one. -/
theorem placed_hear (call : Call) : call.hear.Placed ↔ call.Placed := by
  rw [Call.hear]
  split
  · next coming => simp [Call.Placed, coming]
  · rfl

/-- When all calls are woken the queue is empty. -/
theorem Sound.wakeAll (sound : c.Sound) (changed : Nat) :
    ({ c with
      gate := c.gate.wakeAll
      calls := c.calls.map fun e => (e.1, e.2.hear)
      changed } : Crowd).Sound := by
  have places := c.gate.places_wakeAll
  refine ⟨?_, places.nodup_iff.2 sound.once, fun t => ?_,
    fun _ t queued => absurd queued List.not_mem_nil⟩
  · rw [List.map_map]
    exact sound.distinct
  · refine (places.mem_iff.trans (sound.placed t)).trans ?_
    rw [call?_hear]
    cases c.call? t <;> simp [placed_hear]

/-- Every move keeps the books in order. -/
theorem Sound.step (sound : c.Sound) (move : Move) : (c.step move).Sound := by
  rw [Crowd.step]
  cases move with
  | take =>
      rw [step?]
      cases taken : c.gate.take? with
      | none => exact sound
      | some gate =>
          obtain ⟨-, rfl⟩ := Gate.take?_eq_some taken
          exact sound.take
  | arrive t =>
      simp only [step?]
      split
      · next absent => exact sound.arrive absent
      · exact sound
  | enlist t =>
      simp only [step?]
      split
      · next ready found =>
          split
          · exact sound.enlist_ready found false
          · split
            · exact sound.enlist_ready found c.gate.stored
            · exact sound.enlist_queue found
      · exact sound
  | look t =>
      simp only [step?]
      split
      · next ready found =>
          split
          · next gate taken =>
              obtain ⟨-, rfl⟩ := Gate.take?_eq_some taken
              exact sound.enter found
          · next refused => exact sound.wait found refused
      · exact sound
  | leave t =>
      simp only [step?]
      split
      · next found => exact sound.dismiss found rfl
      · exact sound
  | resume t =>
      simp only [step?]
      split
      · next ready found =>
          split
          · next due => exact sound.resume found due
          · exact sound
      · exact sound
  | giveUp t =>
      simp only [step?]
      split
      · next found => exact sound.dismiss found rfl
      · exact sound
  | giveBack => exact sound.giveBack
  | wakeOne =>
      simp only [step?]
      split
      · exact sound
      · exact sound.wakeOne
  -- As long as a change is not announced, nothing is said of who is woken.
  | change volume =>
      exact ⟨sound.distinct, sound.once, sound.placed, fun settled =>
        absurd settled (Nat.succ_ne_zero _)⟩
  | wakeAll =>
      simp only [step?]
      split
      · exact sound
      · exact sound.wakeAll _

/-- Every run keeps the books in order. -/
theorem Sound.run (sound : c.Sound) (moves : List Move) : (c.run moves).Sound := by
  induction moves generalizing c with
  | nil => exact sound
  | cons move moves ih => exact ih (sound.step move)

/-! ### Quiet crowds -/

/-- In a quiet crowd no call has been woken. -/
theorem Sound.woken_of_quiet (sound : c.Sound) (quiet : c.Quiet) : c.gate.woken = [] := by
  rw [List.eq_nil_iff_forall_not_mem]
  intro e member
  have woken : e.1 ∈ c.gate.woken.map (·.1) := List.mem_map_of_mem member
  obtain ⟨call, found, -⟩ := (sound.placed e.1).1 (List.mem_append_right _ woken)
  exact (quiet.waiting found).2 woken

/-- In a quiet crowd a call waits only if all slots are in use. -/
theorem Sound.full_of_quiet (sound : c.Sound) (quiet : c.Quiet) {call : Call}
    (found : c.call? t = some call) : ¬ c.gate.HasRoom := by
  have woken := sound.woken_of_quiet quiet
  have queued : t ∈ c.gate.waiting := by
    have place : t ∈ c.gate.places := (sound.placed t).2 ⟨call, found, by
      rw [(quiet.waiting found).1]
      exact ⟨by simp, rfl⟩⟩
    rwa [Gate.places, woken, List.map_nil, List.append_nil] at place
  obtain ⟨limited, full⟩ :=
    sound.claimed quiet.changed t queued ((quiet.waiting found).1 ▸ found)
  have resting : c.seekers = 0 := by
    rw [seekers, List.countP_eq_zero]
    intro e member
    rw [(quiet.waiting (sound.call?_of_mem member)).1]
    exact Bool.false_ne_true
  have none_ : c.gate.slotsUnderway = 0 := by rw [Gate.slotsUnderway, woken, List.countP_nil]
  rw [credit, quiet.freed, resting, none_] at full
  rintro (free | room)
  · exact limited free
  · omega

/-- No wake-up is lost: whatever moves calls make and in whatever order, once nothing can go on by
itself no call waits while there is room. -/
theorem no_call_waits_while_room (moves : List Move) (quiet : (run {} moves).Quiet)
    (room : (run {} moves).gate.HasRoom) : (run {} moves).calls = [] := by
  have sound := sound_empty.run moves
  refine calls_eq_nil fun t => ?_
  cases found : (run {} moves).call? t with
  | none => rfl
  | some call => exact absurd room (sound.full_of_quiet quiet found)

/-- Two calls wait for one slot. A newcomer takes it from the first, which goes to the end of the
queue, and the second gives up when it is woken, so that its wake-up goes to the first. -/
def contendedMoves : List Move :=
  [.change 1, .wakeAll, .take,
   .arrive 1, .enlist 1, .look 1, .arrive 2, .enlist 2, .look 2,
   .giveBack, .take, .wakeOne, .resume 1, .enlist 1, .look 1,
   .giveBack, .wakeOne, .giveUp 2, .resume 1, .enlist 1, .look 1, .leave 1,
   .giveBack, .wakeOne]

/-- After the contention the gate has room and nobody waits. -/
theorem no_call_waits_while_room_contendedMoves :
    (run {} contendedMoves).Quiet ∧ (run {} contendedMoves).gate.HasRoom ∧
      (run {} contendedMoves).calls = [] := by
  have quiet : (run {} contendedMoves).Quiet := by
    refine quiet_iff.2 ⟨by decide, by decide, fun t call found => ?_⟩
    have gone : (run {} contendedMoves).calls = [] := by decide
    rw [call?, gone] at found
    exact absurd found (by simp)
  have room : (run {} contendedMoves).gate.HasRoom := by decide
  exact ⟨quiet, room, no_call_waits_while_room contendedMoves quiet room⟩

end Crowd

end ClusterGateway
