import ClusterGateway.Proofs.Limit.Crowd
import Mathlib.Data.List.Induction
import Mathlib.Data.List.Perm.Subperm
import Mathlib.Data.List.Range

/-! # No more permits than the volume

A slot that is granted at a gate is a permit until it is given back. Whoever keeps the permits in
custody numbers them as they are granted, to calls that wait and to calls that do not, and notes
which have come back; nobody gives one back twice. Then the slots in use are the permits that are
out, and another one is granted only while they are fewer than the volume in force, or while there
is no limit. So a gate that was never set above a volume has at most so many permits out, and after
the volume is lowered none is granted before enough of them have come back, whatever the volume was
when they were granted.
-/

namespace ClusterGateway

/-- The volume that a move sets, if it sets one. -/
def Move.volume? : Move → Option Int
  | .change volume => some volume
  | _ => none

namespace Crowd

/-- Whether a call gets a slot by a move. -/
def grants (c : Crowd) : Move → Bool
  | .take => c.gate.take?.isSome
  | .look t =>
    match c.call? t with
    | some ⟨.looking, _⟩ => c.gate.take?.isSome
    | _ => false
  | _ => false

variable {c : Crowd}

/-- A slot is granted only where there is room. -/
theorem hasRoom_of_grants {move : Move} (granted : c.grants move = true) : c.gate.HasRoom := by
  have room (taken : c.gate.take?.isSome = true) : c.gate.HasRoom := by
    obtain ⟨gate, entered⟩ := Option.isSome_iff_exists.1 taken
    exact (Gate.take?_eq_some entered).1
  cases move with
  | take => exact room granted
  | look t =>
      simp only [grants] at granted
      split at granted
      · exact room granted
      · exact absurd granted Bool.false_ne_true
  | _ => exact absurd granted Bool.false_ne_true

/-- What a move makes of the volume and of the slots in use. -/
structure Alters (c : Crowd) (move : Move) (after : Crowd) : Prop where
  volume : after.gate.volume = (move.volume?.map Int.toNat).getD c.gate.volume
  inUse : after.gate.inUse =
    if move = .giveBack then c.gate.inUse - 1
    else c.gate.inUse + if c.grants move then 1 else 0

/-- A move that is no change, grants nothing and gives nothing back alters neither. -/
theorem Alters.aside {move : Move} {after : Crowd} (keeps : move.volume? = none)
    (other : move ≠ .giveBack) (barren : c.grants move = false)
    (volume : after.gate.volume = c.gate.volume) (inUse : after.gate.inUse = c.gate.inUse) :
    c.Alters move after :=
  ⟨by rw [keeps, volume]; rfl, by rw [if_neg other, barren, inUse]; rfl⟩

/-- Every move, possible or not, makes of the volume and of the slots in use what is said of it:
only a call that enters takes a slot, and only who gives one back frees it. -/
theorem alters_step (c : Crowd) (move : Move) : c.Alters move (c.step move) := by
  -- A move that is not possible grants nothing and changes nothing.
  cases move with
  | take =>
      simp only [step, step?]
      cases taken : c.gate.take? with
      | none => exact ⟨rfl, by simp [grants, taken]⟩
      | some gate =>
          obtain ⟨-, rfl⟩ := Gate.take?_eq_some taken
          exact ⟨rfl, by simp [grants, taken]⟩
  | look t =>
      simp only [step, step?]
      split
      · next ready found =>
          cases taken : c.gate.take? with
          | none => exact ⟨rfl, by simp [grants, found, taken]⟩
          | some gate =>
              obtain ⟨-, rfl⟩ := Gate.take?_eq_some taken
              exact ⟨rfl, by simp [grants, found, taken]⟩
      · next idle =>
          have barren : c.grants (.look t) = false := by simp only [grants]
          exact .aside rfl (by simp) barren rfl rfl
  | arrive t =>
      simp only [step, step?]
      split <;> exact .aside rfl (by simp) rfl rfl rfl
  | enlist t =>
      simp only [step, step?]
      split
      · split
        · exact .aside rfl (by simp) rfl rfl rfl
        · split <;> exact .aside rfl (by simp) rfl rfl rfl
      · exact .aside rfl (by simp) rfl rfl rfl
  | leave t | giveUp t =>
      simp only [step, step?]
      split
      · exact .aside rfl (by simp) rfl (c.gate.volume_abandon t) (c.gate.inUse_abandon t)
      · exact .aside rfl (by simp) rfl rfl rfl
  | resume t =>
      simp only [step, step?]
      split
      · split <;> exact .aside rfl (by simp) rfl rfl rfl
      · exact .aside rfl (by simp) rfl rfl rfl
  | giveBack => exact ⟨rfl, rfl⟩
  | wakeOne =>
      simp only [step, step?]
      split
      · exact .aside rfl (by simp) rfl rfl rfl
      · exact .aside rfl (by simp) rfl c.gate.volume_wakeOne c.gate.inUse_wakeOne
  | change volume => exact ⟨rfl, rfl⟩
  | wakeAll =>
      simp only [step, step?]
      split <;> exact .aside rfl (by simp) rfl rfl rfl

end Crowd

/-- A move at a gate of which it is told which permit is given back. -/
inductive Deal where
  | giveBack (permit : Nat)
  | other (move : Move) (keeps : move ≠ .giveBack)

/-- The volume that a deal sets, if it sets one. -/
def Deal.volume? : Deal → Option Int
  | giveBack _ => none
  | other move _ => move.volume?

/-- A gate and the permits that were granted there. -/
structure Custody where
  crowd : Crowd := {}
  /-- How many permits were granted; it is the number of the next one. -/
  granted : Nat := 0
  /-- The permits that were given back, the latest first. -/
  returned : List Nat := []

namespace Custody

/-- Whether a permit is granted by a deal. -/
def grants (c : Custody) : Deal → Bool
  | .giveBack _ => false
  | .other move _ => c.crowd.grants move

def step (c : Custody) : Deal → Custody
  | .giveBack permit =>
    { c with crowd := c.crowd.step .giveBack, returned := permit :: c.returned }
  | .other move keeps =>
    { c with
      crowd := c.crowd.step move
      granted := c.granted + if c.grants (.other move keeps) then 1 else 0 }

/-- Makes deals one after another. -/
def run (c : Custody) (deals : List Deal) : Custody := deals.foldl step c

/-- The permits that are out. -/
def outstanding (c : Custody) : List Nat := (List.range c.granted).filter (· ∉ c.returned)

/-- Only a permit that is out is given back. -/
def Permits (c : Custody) : Deal → Prop
  | .giveBack permit => permit < c.granted ∧ permit ∉ c.returned
  | .other _ _ => True

/-- Every permit that is given back was granted earlier and was not given back before. -/
def Proper (c : Custody) : List Deal → Prop
  | [] => True
  | deal :: deals => c.Permits deal ∧ (c.step deal).Proper deals

instance decidablePermits (c : Custody) : DecidablePred c.Permits
  | .giveBack permit => inferInstanceAs (Decidable (permit < c.granted ∧ permit ∉ c.returned))
  | .other _ _ => .isTrue trivial

instance decidableProper (c : Custody) : DecidablePred c.Proper
  | [] => .isTrue trivial
  | deal :: deals =>
    have := decidableProper (c.step deal) deals
    inferInstanceAs (Decidable (c.Permits deal ∧ (c.step deal).Proper deals))

variable {c : Custody}

theorem run_append (c : Custody) (front back : List Deal) :
    c.run (front ++ back) = (c.run front).run back := List.foldl_append

/-- Deals give back only permits that are out if their first part does, and their second part after
it. -/
theorem proper_append {front back : List Deal} :
    c.Proper (front ++ back) ↔ c.Proper front ∧ (c.run front).Proper back := by
  induction front generalizing c with
  | nil => exact ⟨fun proper => ⟨trivial, proper⟩, And.right⟩
  | cons deal front ih => rw [List.cons_append, Proper, ih, Proper, and_assoc]; rfl

/-! ### The books -/

/-- The slots in use are the permits that were granted and have not come back. -/
structure Balanced (c : Custody) : Prop where
  distinct : c.returned.Nodup
  earlier : ∀ permit ∈ c.returned, permit < c.granted
  counted : c.crowd.gate.inUse + c.returned.length = c.granted

theorem balanced_empty : Balanced {} :=
  ⟨List.nodup_nil, fun _ member => absurd member List.not_mem_nil, rfl⟩

/-- Different numbers below a bound are no more than the bound, so no more permits come back than
were granted. -/
theorem length_le_of_lt {permits : List Nat} {n : Nat} (distinct : permits.Nodup)
    (below : ∀ permit ∈ permits, permit < n) : permits.length ≤ n := by
  have inside : permits ⊆ List.range n := fun permit member =>
    List.mem_range.2 (below permit member)
  have fewer := (List.subperm_of_subset distinct inside).length_le
  rwa [List.length_range] at fewer

/-- A deal that gives back only a permit that is out keeps the books balanced. -/
theorem Balanced.step (balanced : c.Balanced) {deal : Deal} (permitted : c.Permits deal) :
    (c.step deal).Balanced := by
  cases deal with
  | giveBack permit =>
      obtain ⟨known, out⟩ := permitted
      have distinct : (permit :: c.returned).Nodup := List.nodup_cons.2 ⟨out, balanced.distinct⟩
      have earlier : ∀ other ∈ permit :: c.returned, other < c.granted :=
        List.forall_mem_cons.2 ⟨known, balanced.earlier⟩
      refine ⟨distinct, earlier, ?_⟩
      have counted := balanced.counted
      -- A permit is out, so there is a slot in use to be freed.
      have fewer := length_le_of_lt distinct earlier
      rw [List.length_cons] at fewer
      change c.crowd.gate.inUse - 1 + (c.returned.length + 1) = c.granted
      omega
  | other move keeps =>
      have inUse := (c.crowd.alters_step move).inUse
      rw [if_neg keeps] at inUse
      refine ⟨balanced.distinct, fun permit member => ?_, ?_⟩
      · exact Nat.lt_add_right _ (balanced.earlier permit member)
      · have counted := balanced.counted
        change (c.crowd.step move).gate.inUse + c.returned.length =
          c.granted + if c.crowd.grants move then 1 else 0
        omega

/-- Deals that give back only permits that are out keep the books balanced. -/
theorem Balanced.run (balanced : c.Balanced) {deals : List Deal} (proper : c.Proper deals) :
    (c.run deals).Balanced := by
  induction deals generalizing c with
  | nil => exact balanced
  | cons deal deals ih => exact ih (balanced.step proper.1) proper.2

/-- As many permits are out as slots are in use. -/
theorem Balanced.length_outstanding (balanced : c.Balanced) :
    c.outstanding.length = c.crowd.gate.inUse := by
  have back : ((List.range c.granted).filter (· ∈ c.returned)).Perm c.returned := by
    refine (List.perm_ext_iff_of_nodup (List.nodup_range.filter _) balanced.distinct).2 ?_
    intro permit
    rw [List.mem_filter, List.mem_range, decide_eq_true_iff]
    exact ⟨And.right, fun member => ⟨balanced.earlier permit member, member⟩⟩
  have split := List.length_eq_length_filter_add (l := List.range c.granted) (· ∈ c.returned)
  rw [List.length_range, back.length_eq] at split
  have counted := balanced.counted
  simp only [outstanding, decide_not]
  omega

/-! ### The volume in force -/

/-- The volume is the last one that was set, and every other deal leaves it alone. -/
theorem volume_step (c : Custody) (deal : Deal) :
    (c.step deal).crowd.gate.volume =
      (deal.volume?.map Int.toNat).getD c.crowd.gate.volume := by
  cases deal with
  | giveBack permit => rfl
  | other move keeps => exact (c.crowd.alters_step move).volume

/-- Deals that set no volume leave it alone. -/
theorem volume_run (c : Custody) {deals : List Deal}
    (kept : ∀ deal ∈ deals, deal.volume? = none) :
    (c.run deals).crowd.gate.volume = c.crowd.gate.volume := by
  induction deals generalizing c with
  | nil => rfl
  | cons deal deals ih =>
      refine (ih (c.step deal) fun other member =>
        kept other (List.mem_cons_of_mem deal member)).trans ?_
      rw [volume_step, kept deal List.mem_cons_self]
      rfl

/-- A permit is granted only while those that are out are fewer than the volume, unless that is
zero, which sets no limit. -/
theorem Balanced.room (balanced : c.Balanced) {deal : Deal} (granted : c.grants deal = true) :
    c.crowd.gate.volume = 0 ∨ c.outstanding.length < c.crowd.gate.volume := by
  rw [balanced.length_outstanding]
  cases deal with
  | giveBack permit => exact absurd granted Bool.false_ne_true
  | other move keeps => exact Crowd.hasRoom_of_grants granted

/-! ### Bounds -/

/-- The gate has a limit, and no more slots are in use than a number that it does not exceed. -/
structure Within (limit : Nat) (c : Custody) : Prop where
  limited : c.crowd.gate.volume ≠ 0
  volume : c.crowd.gate.volume ≤ limit
  inUse : c.crowd.gate.inUse ≤ limit

/-- A deal that sets no volume beyond the limit keeps the gate within it, because no call enters at
a full gate. -/
theorem Within.step {limit : Nat} (within : c.Within limit) {deal : Deal}
    (set : ∀ volume ∈ deal.volume?, 0 < volume ∧ volume.toNat ≤ limit) :
    (c.step deal).Within limit := by
  have inUse : (c.step deal).crowd.gate.inUse ≤ limit := by
    cases deal with
    | giveBack permit => exact Nat.le_trans (Nat.sub_le _ 1) within.inUse
    | other move keeps =>
        have altered := (c.crowd.alters_step move).inUse
        rw [if_neg keeps] at altered
        change (c.crowd.step move).gate.inUse ≤ limit
        rw [altered]
        have before := within.inUse
        split
        · next granted =>
            have room := (Crowd.hasRoom_of_grants granted).resolve_left within.limited
            have most := within.volume
            omega
        · omega
  have volume := c.volume_step deal
  cases sets : deal.volume? with
  | none =>
      rw [sets] at volume
      change _ = c.crowd.gate.volume at volume
      exact ⟨volume ▸ within.limited, volume ▸ within.volume, inUse⟩
  | some v =>
      obtain ⟨positive, small⟩ := set v sets
      rw [sets] at volume
      change _ = v.toNat at volume
      exact ⟨by omega, by omega, inUse⟩

/-- Deals that set no volume beyond the limit keep the gate within it. -/
theorem Within.run {limit : Nat} (within : c.Within limit) {deals : List Deal}
    (set : ∀ deal ∈ deals, ∀ volume ∈ deal.volume?, 0 < volume ∧ volume.toNat ≤ limit) :
    (c.run deals).Within limit := by
  induction deals generalizing c with
  | nil => exact within
  | cons deal deals ih =>
      exact ih (within.step (set deal List.mem_cons_self))
        fun other member => set other (List.mem_cons_of_mem deal member)

/-- As long as no fewer permits are out than the volume and the volume is not changed, none is
granted. -/
theorem Balanced.granted_run (balanced : c.Balanced) {deals : List Deal} (proper : c.Proper deals)
    (limited : c.crowd.gate.volume ≠ 0) (kept : ∀ deal ∈ deals, deal.volume? = none)
    (full : ∀ front, front <+: deals → c.crowd.gate.volume ≤ (c.run front).outstanding.length) :
    (c.run deals).granted = c.granted := by
  induction deals using List.reverseRecOn with
  | nil => rfl
  | append_singleton deals deal ih =>
      rw [proper_append] at proper
      have before : ∀ other ∈ deals, other.volume? = none := fun other member =>
        kept other (List.mem_append_left _ member)
      have same := ih proper.1 before fun front start =>
        full front (start.trans (List.prefix_append _ _))
      have volume := c.volume_run before
      have many := full deals (List.prefix_append _ _)
      have barren : (c.run deals).grants deal = false := by
        by_contra granted
        rw [Bool.not_eq_false] at granted
        have room := (balanced.run proper.1).room granted
        omega
      rw [run_append]
      change ((c.run deals).step deal).granted = c.granted
      rw [← same]
      cases deal with
      | giveBack permit => rfl
      | other move keeps =>
          rw [Custody.step, barren]
          rfl

end Custody

/-- Permits are kept within the volume in every run of deals. -/
structure Custody.Capped (deals : List Deal) : Prop where
  /-- The slots in use are the permits granted less those that were given back. -/
  inUse : (run {} deals).crowd.gate.inUse + (run {} deals).returned.length = (run {} deals).granted
  outstanding : (run {} deals).outstanding.length = (run {} deals).crowd.gate.inUse
  /-- No permit is granted while there is a limit and no fewer slots are in use. -/
  refused : ∀ deal, (run {} deals).crowd.gate.volume ≠ 0 →
    (run {} deals).crowd.gate.volume ≤ (run {} deals).crowd.gate.inUse →
      (run {} deals).grants deal = false
  /-- A gate that has had a limit from the start, and never a greater one, has at most so many
  permits out. -/
  within : ∀ (limit : Int) first rest, deals = first :: rest → first.volume? = some limit →
    0 < limit → (∀ deal ∈ rest, ∀ volume ∈ deal.volume?, 0 < volume ∧ volume ≤ limit) →
      (run {} deals).outstanding.length ≤ limit.toNat
  /-- After a limit was set no permit is granted as long as no fewer are out. -/
  lowered : ∀ before change after (limit : Int), deals = before ++ change :: after →
    change.volume? = some limit → 0 < limit → (∀ deal ∈ after, deal.volume? = none) →
    (∀ front, front <+: after →
      limit.toNat ≤ (run {} (before ++ change :: front)).outstanding.length) →
      (run {} deals).granted = (run {} before).granted

namespace Custody

/-- However calls that take slots, calls that wait for them, changes of the volume and permits that
come back follow on one another, as long as only permits are given back that are out, the slots in
use are the permits that are out, and they are kept within the volume. -/
theorem permits_capped {deals : List Deal} (proper : Proper {} deals) : Capped deals := by
  have balanced := balanced_empty.run proper
  refine ⟨balanced.counted, balanced.length_outstanding, fun deal limited full => ?_, ?_, ?_⟩
  · by_contra granted
    rw [Bool.not_eq_false] at granted
    have room := balanced.room granted
    rw [balanced.length_outstanding] at room
    omega
  · rintro limit first rest rfl set positive most
    rw [balanced.length_outstanding]
    have volume := volume_step {} first
    rw [set] at volume
    change _ = limit.toNat at volume
    -- The first deal sets the volume, and no permit is out by then.
    have unused : (step {} first).crowd.gate.inUse = 0 := by
      cases first with
      | giveBack permit => rfl
      | other move keeps =>
          cases move with
          | change v => rfl
          | _ => exact absurd set (by simp [Deal.volume?, Move.volume?])
    have start : (step {} first).Within limit.toNat :=
      ⟨by omega, by omega, by rw [unused]; exact Nat.zero_le _⟩
    refine (start.run fun deal member v sets => ?_).inUse
    obtain ⟨above, below⟩ := most deal member v sets
    exact ⟨above, by omega⟩
  · rintro before change after limit rfl set positive kept full
    obtain ⟨first, permitted, rest⟩ := proper_append.1 proper
    have earlier := balanced_empty.run first
    have volume := volume_step (run {} before) change
    rw [set] at volume
    change _ = limit.toNat at volume
    -- As long as the permits that are out fill the new volume, no other one is granted.
    have same := (earlier.step permitted).granted_run rest (by omega) kept fun front start => by
      have many := full front start
      rw [run_append] at many
      rw [volume]
      exact many
    rw [run_append]
    refine same.trans ?_
    cases change with
    | giveBack permit => rfl
    | other move keeps =>
        cases move with
        | change v => rfl
        | _ => exact absurd set (by simp [Deal.volume?, Move.volume?])

/-- Three permits are granted without a limit and one of them comes back; with the volume at one
neither a call that waits nor one that does not gets another until all three have come back. -/
def loweredDeals : List Deal :=
  [.other .take nofun, .other .take nofun, .other .take nofun, .giveBack 1,
   .other (.change 1) nofun, .other .wakeAll nofun, .other (.arrive 7) nofun,
   .other (.enlist 7) nofun, .other (.look 7) nofun, .giveBack 0, .other .take nofun,
   .giveBack 2, .other .take nofun, .other .take nofun]

/-- The run that lowers the volume is kept within it: four permits were granted in all, and only the
last is out. -/
theorem permits_capped_loweredDeals :
    Proper {} loweredDeals ∧ Capped loweredDeals ∧
      (run {} loweredDeals).granted = 4 ∧ (run {} loweredDeals).outstanding = [3] := by
  have proper : Proper {} loweredDeals := by decide
  exact ⟨proper, permits_capped proper, by decide, by decide⟩

end Custody

end ClusterGateway
