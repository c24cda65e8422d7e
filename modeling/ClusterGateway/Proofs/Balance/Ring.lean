import ClusterGateway.Balance.Ring
import ClusterGateway.Proofs.Dictionary

/-! # What a hash ring remembers of its past

The points of a ring stand in ascending order and belong to hosts on the ring. Which host owns a
point that several hosts have in common depends on the order in which they came. A host that shares
no point with the hosts that came in its time owns all its points, so a ring on which every host is
such a host is determined by its hosts alone.
-/

namespace ClusterGateway

namespace Ring

/-! ### Placing points -/

/-- The points stand in ascending order, so each has one owner. -/
def Ascending (points : RingPoints) : Prop := points.Pairwise (fun a b => a.1 < b.1)

/-- A placed point belongs to its new owner, and every other point to the owner it had. -/
theorem mem_place {points : RingPoints} (ascending : Ascending points) (at_ : UInt64)
    (owner : String) (e : UInt64 × String) :
    e ∈ place at_ owner points ↔ e = (at_, owner) ∨ e.1 ≠ at_ ∧ e ∈ points := by
  induction points with
  | nil => simp [place]
  | cons head rest ih =>
      obtain ⟨p, o⟩ := head
      rw [Ascending, List.pairwise_cons] at ascending
      have later : ∀ e ∈ rest, p < e.1 := ascending.1
      simp only [place]
      split
      · next before =>
          -- `at_` lies before all points, so none of them is at `at_`.
          have other : ∀ e ∈ (p, o) :: rest, e.1 ≠ at_ := by
            intro e member
            rcases List.mem_cons.1 member with rfl | member
            · exact (UInt64.ne_of_lt before).symm
            · exact (UInt64.ne_of_lt (UInt64.lt_trans before (later e member))).symm
          rw [List.mem_cons]
          exact or_congr_right ⟨fun member => ⟨other e member, member⟩, And.right⟩
      · split
        · next same =>
            subst same
            have other : ∀ e ∈ rest, e.1 ≠ at_ := fun e member =>
              (UInt64.ne_of_lt (later e member)).symm
            grind
        · next different =>
            have here : ((p, o) : UInt64 × String).1 ≠ at_ := Ne.symm different
            rw [List.mem_cons, List.mem_cons, ih ascending.2]
            grind

/-- Placing a point keeps points in ascending order. -/
theorem ascending_place {points : RingPoints} (ascending : Ascending points) (at_ : UInt64)
    (owner : String) : Ascending (place at_ owner points) := by
  induction points with
  | nil => simp [place, Ascending]
  | cons head rest ih =>
      obtain ⟨p, o⟩ := head
      obtain ⟨later, others⟩ := List.pairwise_cons.1 ascending
      simp only [place]
      split
      · next before =>
          refine List.pairwise_cons.2 ⟨fun e member => ?_, ascending⟩
          rcases List.mem_cons.1 member with rfl | member
          · exact before
          · exact UInt64.lt_trans before (later e member)
      · next notBefore =>
          split
          · next same =>
              subst same
              exact List.pairwise_cons.2 ⟨later, others⟩
          · next different =>
              refine List.pairwise_cons.2 ⟨fun e member => ?_, ih others⟩
              rcases (mem_place others at_ owner e).1 member with rfl | ⟨-, member⟩
              · exact UInt64.lt_of_le_of_ne (UInt64.not_lt.1 notBefore) (Ne.symm different)
              · exact later e member

/-- Points in ascending order are determined by their owners. -/
theorem Ascending.ext {a b : RingPoints} (first : Ascending a) (second : Ascending b)
    (same : ∀ e, e ∈ a ↔ e ∈ b) : a = b := by
  have distinct {points : RingPoints} (ascending : Ascending points) : points.Nodup :=
    ascending.imp fun less equal => by subst equal; exact UInt64.lt_irrefl _ less
  refine List.Perm.eq_of_pairwise ?_ first second ?_
  · intro _ _ _ _ less greater
    exact absurd (UInt64.lt_trans less greater) (UInt64.lt_irrefl _)
  · exact (List.perm_ext_iff_of_nodup (distinct first) (distinct second)).2 same

/-- A host has a label text on a ring that falls on a point. -/
def Labels (replicas : Nat) (host : String) (p : UInt64) : Prop := ∃ i < replicas, point i host = p

/-- The host that comes gets all points of its label texts; the others stay with their owners. -/
theorem mem_foldl_place (host : String) (n : Nat) {points : RingPoints}
    (ascending : Ascending points) :
    Ascending ((List.range n).foldl (fun points i => place (point i host) host points) points) ∧
      ∀ e, e ∈ (List.range n).foldl (fun points i => place (point i host) host points) points ↔
        e.2 = host ∧ Labels n host e.1 ∨ ¬ Labels n host e.1 ∧ e ∈ points := by
  induction n with
  | zero => exact ⟨ascending, fun e => by simp [Labels]⟩
  | succ n ih =>
      obtain ⟨kept, known⟩ := ih
      rw [List.range_succ, List.foldl_append]
      refine ⟨ascending_place kept _ _, fun e => ?_⟩
      have more : Labels (n + 1) host e.1 ↔ Labels n host e.1 ∨ point n host = e.1 := by
        simp only [Labels, Nat.lt_succ_iff_lt_or_eq]
        grind
      rw [List.foldl_cons, List.foldl_nil, mem_place kept, known, more, Prod.ext_iff]
      grind

/-! ### Calls -/

/-- A call that changes the hosts of a ring. -/
inductive Call where
  | add (host : String)
  | remove (host : String)
deriving DecidableEq, Repr

/-- The host that a call adds, if it adds one. -/
def Call.added? : Call → Option String
  | add host => some host
  | remove _ => none

def perform (r : Ring) : Call → Ring
  | .add host => r.add host
  | .remove host => r.remove host

/-- Makes calls one after another. -/
def run (r : Ring) (calls : List Call) : Ring := calls.foldl perform r

/-- Two hosts have no point in common on a ring with so many label texts for each host. -/
def Apart (replicas : Nat) (a b : String) : Prop :=
  ∀ i < replicas, ∀ j < replicas, point i a ≠ point j b

instance (replicas : Nat) (a b : String) : Decidable (Apart replicas a b) :=
  inferInstanceAs (Decidable (∀ i < replicas, ∀ j < replicas, point i a ≠ point j b))

/-- What holds of every ring. -/
structure Sound (r : Ring) : Prop where
  ascending : Ascending r.points
  /-- The owner of a point is on the ring and has a label text that falls on the point. -/
  owned : ∀ e ∈ r.points, r.hosts.contains e.2 = true ∧ Labels r.replicas e.2 e.1

/-- A host owns all points of its label texts. -/
def Whole (r : Ring) (host : String) : Prop :=
  ∀ p, Labels r.replicas host p → (p, host) ∈ r.points

/-- Every host of a ring owns all points of its label texts. -/
structure Complete (r : Ring) : Prop extends Sound r where
  whole : ∀ host, r.hosts.contains host = true → r.Whole host

variable {r : Ring}

theorem sound_empty (n : Nat) : (empty n).Sound := ⟨List.Pairwise.nil, by simp [empty]⟩

@[simp] theorem replicas_add (r : Ring) (host : String) : (r.add host).replicas = r.replicas := by
  rw [add]
  split <;> rfl

@[simp] theorem replicas_remove (r : Ring) (host : String) :
    (r.remove host).replicas = r.replicas := by
  rw [remove]
  split <;> rfl

/-- A host that comes is on the ring, and the others are there if they were before. -/
@[simp] theorem contains_add (r : Ring) (host other : String) :
    (r.add host).hosts.contains other = (decide (host = other) || r.hosts.contains other) := by
  rw [add]
  split
  · next known =>
      by_cases same : host = other
      · subst same
        simp [known]
      · simp [same]
  · exact Dict.contains_insert _ _ _ _

/-- A host that goes is off the ring, and the others are there if they were before. -/
@[simp] theorem contains_remove (r : Ring) (host other : String) :
    (r.remove host).hosts.contains other = (!decide (host = other) && r.hosts.contains other) := by
  rw [remove]
  split
  · exact Dict.contains_erase _ _ _
  · next unknown =>
      by_cases same : host = other
      · subst same
        simpa using unknown
      · simp [same]

/-- After a new host came the points of its label texts are its own, and the others stay with their
owners. -/
theorem Sound.mem_add (sound : r.Sound) {host : String} (fresh : r.hosts.contains host = false)
    (e : UInt64 × String) :
    e ∈ (r.add host).points ↔
      e.2 = host ∧ Labels r.replicas host e.1 ∨ ¬ Labels r.replicas host e.1 ∧ e ∈ r.points := by
  rw [add, if_neg (by simp [fresh])]
  exact (mem_foldl_place host r.replicas sound.ascending).2 e

/-- A host that comes leaves the ring in order. -/
theorem Sound.add (sound : r.Sound) (host : String) : (r.add host).Sound := by
  by_cases known : r.hosts.contains host = true
  · rwa [Ring.add, if_pos known]
  · rw [Bool.not_eq_true] at known
    constructor
    · rw [Ring.add, if_neg (by simp [known])]
      exact (mem_foldl_place host r.replicas sound.ascending).1
    · intro e member
      rw [contains_add, replicas_add]
      rcases (sound.mem_add known e).1 member with ⟨rfl, labelled⟩ | ⟨-, member⟩
      · exact ⟨by simp, labelled⟩
      · obtain ⟨present, labelled⟩ := sound.owned e member
        exact ⟨by simp [present], labelled⟩

/-- After a host went just its points are gone. -/
theorem mem_remove {host : String} {e : UInt64 × String} (sound : r.Sound) :
    e ∈ (r.remove host).points ↔ e.2 ≠ host ∧ e ∈ r.points := by
  rw [remove]
  split
  · rw [List.mem_filter, and_comm, decide_eq_true_iff]
  · next unknown =>
      refine ⟨fun member => ⟨?_, member⟩, And.right⟩
      rintro rfl
      exact unknown (sound.owned e member).1

theorem Sound.remove (sound : r.Sound) (host : String) : (r.remove host).Sound := by
  constructor
  · rw [Ring.remove]
    split
    · exact List.Pairwise.filter _ sound.ascending
    · exact sound.ascending
  · intro e member
    obtain ⟨other, member⟩ := (mem_remove sound).1 member
    obtain ⟨present, labelled⟩ := sound.owned e member
    rw [contains_remove, replicas_remove]
    exact ⟨by simp [Ne.symm other, present], labelled⟩

/-- Every call leaves the ring in order. -/
theorem Sound.perform (sound : r.Sound) (call : Call) : (r.perform call).Sound := by
  cases call with
  | add host => exact sound.add host
  | remove host => exact sound.remove host

/-! ### Hosts that share no point -/

/-- A host that comes owns all its points. -/
theorem Sound.whole_add (sound : r.Sound) {host : String}
    (fresh : r.hosts.contains host = false) : (r.add host).Whole host := by
  intro p labelled
  rw [replicas_add] at labelled
  exact (sound.mem_add fresh _).2 (Or.inl ⟨rfl, labelled⟩)

/-- A host keeps its points when one comes with which it shares none. -/
theorem Whole.add (sound : r.Sound) {host other : String} (whole : r.Whole host)
    (apart : other = host ∨ Apart r.replicas host other) : (r.add other).Whole host := by
  by_cases known : r.hosts.contains other = true
  · rwa [Ring.add, if_pos known]
  · rw [Bool.not_eq_true] at known
    rcases apart with rfl | apart
    · exact sound.whole_add known
    · intro p labelled
      rw [replicas_add] at labelled
      refine (sound.mem_add known _).2 (Or.inr ⟨?_, whole p labelled⟩)
      rintro ⟨j, less, same⟩
      obtain ⟨i, fits, here⟩ := labelled
      exact apart i fits j less (here.trans same.symm)

/-- A host keeps its points when another one goes. -/
theorem Whole.remove (sound : r.Sound) {host other : String} (whole : r.Whole host)
    (different : host ≠ other) : (r.remove other).Whole host := by
  intro p labelled
  rw [replicas_remove] at labelled
  exact (mem_remove sound).2 ⟨different, whole p labelled⟩

/-- On a complete ring the points are those of the hosts. -/
theorem Complete.mem_points (complete : r.Complete) (e : UInt64 × String) :
    e ∈ r.points ↔ r.hosts.contains e.2 = true ∧ Labels r.replicas e.2 e.1 :=
  ⟨complete.owned e, fun ⟨present, labelled⟩ => complete.whole e.2 present e.1 labelled⟩

/-- Complete rings with the same hosts have the same points. -/
theorem Complete.points_eq {s : Ring} (first : r.Complete) (second : s.Complete)
    (replicas : r.replicas = s.replicas)
    (hosts : ∀ host, r.hosts.contains host = s.hosts.contains host) : r.points = s.points := by
  refine Ascending.ext first.ascending second.ascending fun e => ?_
  rw [first.mem_points, second.mem_points, replicas, hosts]

/-! ### Runs -/

/-- No call changes the number of label texts. -/
@[simp] theorem replicas_run (r : Ring) (calls : List Call) :
    (r.run calls).replicas = r.replicas := by
  induction calls generalizing r with
  | nil => rfl
  | cons call calls ih =>
      refine (ih (r.perform call)).trans ?_
      cases call <;> simp [perform]

/-- Any calls leave the ring in order. -/
theorem Sound.run (sound : r.Sound) (calls : List Call) : (r.run calls).Sound := by
  induction calls generalizing r with
  | nil => exact sound
  | cons call calls ih => exact ih (sound.perform call)

/-- A host that stands on a ring after some calls is whole if it was so before, or was not there,
and no call adds another host with which it shares a point. -/
theorem Sound.whole_run (sound : r.Sound) {host : String} {calls : List Call}
    (before : r.hosts.contains host = true → r.Whole host)
    (apart : ∀ other ∈ calls.filterMap Call.added?, other ≠ host → Apart r.replicas host other)
    (present : (r.run calls).hosts.contains host = true) : (r.run calls).Whole host := by
  induction calls generalizing r with
  | nil => exact before present
  | cons call calls ih =>
      refine ih (sound.perform call) ?_ ?_ present
      · intro here
        -- Only another host that comes and shares a point could take one away.
        cases call with
        | add other =>
            by_cases known : r.hosts.contains host = true
            · refine (before known).add sound ?_
              by_cases same : other = host
              · exact Or.inl same
              · exact Or.inr (apart other (by simp [Call.added?]) same)
            · rw [Bool.not_eq_true] at known
              have new : other = host := by simpa [Ring.perform, known] using here
              exact new ▸ sound.whole_add (new ▸ known)
        | remove other =>
            have both : other ≠ host ∧ r.hosts.contains host = true := by
              simpa [Ring.perform] using here
            exact (before both.2).remove sound both.1.symm
      · intro other member different
        have same : (r.perform call).replicas = r.replicas := replicas_run r [call]
        rw [same]
        refine apart other ?_ different
        rw [List.filterMap_cons]
        split
        · exact member
        · exact List.mem_cons_of_mem _ member

/-- A ring is complete if none of its hosts shares a point with another one that was ever added. -/
theorem complete_run (n : Nat) {calls : List Call}
    (apart : ∀ host, ((empty n).run calls).hosts.contains host = true →
      ∀ other ∈ calls.filterMap Call.added?, other ≠ host → Apart (max n 1) host other) :
    ((empty n).run calls).Complete :=
  ⟨(sound_empty n).run calls, fun host present => (sound_empty n).whole_run
    (fun known => absurd known (by simp [empty, Dict.contains])) (apart host present) present⟩

end Ring

end ClusterGateway
