import ClusterGateway.Proofs.Balance.Ring
import Mathlib.Data.List.AList

/-! # A ring in two tables

A ring may keep its points in a list of their own, and in a table who owns each. The list is sorted
anew when a host has come, and gone through point by point when one goes. Both then hold the same
points whatever the hash is, even if many label texts fall on one point; and with the hash of the
ring they hold the points and the owners of the ring.
-/

namespace ClusterGateway

/-- A ring with a list of its points and a table of their owners. -/
structure RingIndex where
  /-- How many label texts each host has. -/
  replicas : Nat
  points : List UInt64 := []
  owners : AList fun _ : UInt64 => String := ∅
  hosts : Dict Unit := ∅

namespace RingIndex

/-- The empty ring; every host has at least one label text. -/
def empty (replicas : Nat) : RingIndex := { replicas := max replicas 1 }

/-- Gives a point to a host, and lists the point if it had no owner. -/
def claim (host : String) (r : RingIndex) (point : UInt64) : RingIndex :=
  { r with
    owners := r.owners.insert point host
    points := if point ∈ r.owners then r.points else r.points ++ [point] }

/-- Gives a host its points; nothing happens if it has them already. -/
def add (hash : String → UInt64) (r : RingIndex) (host : String) : RingIndex :=
  if r.hosts.contains host then r
  else
    let entered : RingIndex := { r with hosts := r.hosts.insert host () }
    let claimed := ((List.range r.replicas).map fun i => hash (Ring.label i host)).foldl
      (claim host) entered
    { claimed with points := claimed.points.mergeSort }

/-- Lists a point again, or frees it if it belongs to a host. -/
def sift (host : String) (r : RingIndex) (point : UInt64) : RingIndex :=
  if r.owners.lookup point = some host then { r with owners := r.owners.erase point }
  else { r with points := r.points ++ [point] }

/-- Takes a host off the ring with all points it owns. -/
def remove (r : RingIndex) (host : String) : RingIndex :=
  if r.hosts.contains host then
    r.points.foldl (sift host) { r with hosts := r.hosts.erase host, points := [] }
  else r

/-- The owner of the first point at or after the hash of a key, past the last point of the first. -/
def balance (hash : String → UInt64) (r : RingIndex) (key : String) : Option String :=
  let place := r.points.findIdx (hash key ≤ ·)
  r.points[place % r.points.length]?.bind r.owners.lookup

def perform (hash : String → UInt64) (r : RingIndex) : Ring.Call → RingIndex
  | .add host => r.add hash host
  | .remove host => r.remove host

/-- Makes calls one after another. -/
def run (hash : String → UInt64) (r : RingIndex) (calls : List Ring.Call) : RingIndex :=
  calls.foldl (perform hash) r

/-! ### List and table -/

/-- What holds of every ring in two tables. -/
structure Sound (r : RingIndex) : Prop where
  ascending : r.points.Pairwise (· < ·)
  /-- The list has the points that have an owner. -/
  listed : ∀ p, p ∈ r.points ↔ p ∈ r.owners
  /-- Owners are on the ring. -/
  owned : ∀ p host, r.owners.lookup p = some host → r.hosts.contains host = true

variable {hash : String → UInt64} {r : RingIndex} {host : String}

theorem sound_empty (n : Nat) : (empty n).Sound :=
  ⟨List.Pairwise.nil, fun p => by simp [empty], fun p host found => absurd found (by simp [empty])⟩

/-- Points in ascending order are listed once each. -/
theorem nodup_of_ascending {points : List UInt64} (ascending : points.Pairwise (· < ·)) :
    points.Nodup := by
  refine ascending.imp fun {a b} less same => ?_
  rw [same] at less
  exact UInt64.lt_irrefl b less

/-- Lists in ascending order that have the same points are equal. -/
theorem ext_of_ascending {a b : List UInt64} (first : a.Pairwise (· < ·))
    (second : b.Pairwise (· < ·)) (same : ∀ p, p ∈ a ↔ p ∈ b) : a = b := by
  refine List.Perm.eq_of_pairwise ?_ first second ?_
  · intro p q _ _ less greater
    exact absurd (UInt64.lt_trans less greater) (UInt64.lt_irrefl p)
  · exact (List.perm_ext_iff_of_nodup (nodup_of_ascending first) (nodup_of_ascending second)).2 same

/-- Different points in any order are in ascending order when they are sorted. -/
theorem ascending_mergeSort {points : List UInt64} (distinct : points.Nodup) :
    points.mergeSort.Pairwise (· < ·) := by
  have transitive (a b c : UInt64) (first : decide (a ≤ b) = true)
      (second : decide (b ≤ c) = true) : decide (a ≤ c) = true :=
    decide_eq_true (UInt64.le_trans (of_decide_eq_true first) (of_decide_eq_true second))
  have total (a b : UInt64) : (decide (a ≤ b) || decide (b ≤ a)) = true := by
    rw [Bool.or_eq_true, decide_eq_true_eq, decide_eq_true_eq]
    exact UInt64.le_total a b
  have ordered := List.pairwise_mergeSort transitive total points
  have different := (List.mergeSort_perm points fun a b => decide (a ≤ b)).nodup_iff.2 distinct
  exact ordered.imp₂ (fun a b least other =>
    UInt64.lt_of_le_of_ne (of_decide_eq_true least) other) different

/-! ### A host comes -/

/-- The list has the points with an owner, each of them once. -/
structure Listed (r : RingIndex) : Prop where
  distinct : r.points.Nodup
  listed : ∀ p, p ∈ r.points ↔ p ∈ r.owners

/-- A point that gets an owner is listed once. -/
theorem Listed.claim (listed : r.Listed) (point : UInt64) : (r.claim host point).Listed := by
  unfold RingIndex.claim
  split
  · next present =>
      refine ⟨listed.distinct, fun p => ?_⟩
      rw [AList.mem_insert, listed.listed]
      exact ⟨Or.inr, fun either => either.elim (fun same => same ▸ present) id⟩
  · next absent =>
      refine ⟨List.nodup_append.2 ⟨listed.distinct, List.nodup_singleton point, ?_⟩, fun p => ?_⟩
      · intro p known q new same
        rw [List.mem_singleton.1 new] at same
        exact absent ((listed.listed point).1 (same ▸ known))
      · rw [List.mem_append, List.mem_singleton, AList.mem_insert, listed.listed, or_comm]

/-- Points that get an owner one after another are listed once each. -/
theorem Listed.claims (listed : r.Listed) (host : String) (spots : List UInt64) :
    (spots.foldl (RingIndex.claim host) r).Listed := by
  induction spots generalizing r with
  | nil => exact listed
  | cons spot spots ih => exact ih (listed.claim spot)

/-- A host that claims some points owns just these and takes them from their owners; other points
keep theirs. -/
theorem lookup_claims (host : String) (spots : List UInt64) (r : RingIndex) (p : UInt64) :
    (spots.foldl (claim host) r).owners.lookup p =
      if p ∈ spots then some host else r.owners.lookup p := by
  induction spots generalizing r with
  | nil => rw [if_neg List.not_mem_nil]; rfl
  | cons spot spots ih =>
      rw [List.foldl_cons, ih]
      by_cases here : p = spot
      · subst here
        simp [claim]
      · simp [here, claim, AList.lookup_insert_ne here]

/-- Claiming points does not change which hosts are on the ring. -/
@[simp] theorem hosts_claims (host : String) (spots : List UInt64) (r : RingIndex) :
    (spots.foldl (claim host) r).hosts = r.hosts := by
  induction spots generalizing r with
  | nil => rfl
  | cons spot spots ih => exact ih (r.claim host spot)

/-- Claiming points does not change the number of label texts. -/
@[simp] theorem replicas_claims (host : String) (spots : List UInt64) (r : RingIndex) :
    (spots.foldl (claim host) r).replicas = r.replicas := by
  induction spots generalizing r with
  | nil => rfl
  | cons spot spots ih => exact ih (r.claim host spot)

/-- A host has a label text that falls on a point. -/
def Labels (hash : String → UInt64) (replicas : Nat) (host : String) (p : UInt64) : Prop :=
  ∃ i < replicas, hash (Ring.label i host) = p

instance (replicas : Nat) (host : String) (p : UInt64) :
    Decidable (Labels hash replicas host p) :=
  inferInstanceAs (Decidable (∃ i < replicas, hash (Ring.label i host) = p))

/-- A host that comes does not change the number of label texts. -/
@[simp] theorem replicas_add (hash : String → UInt64) (r : RingIndex) (host : String) :
    (r.add hash host).replicas = r.replicas := by
  unfold add
  split
  · rfl
  · exact replicas_claims host _ _

/-- A host that comes is on the ring, with those that were there. -/
theorem hosts_add (hash : String → UInt64) (r : RingIndex) (host : String) :
    (r.add hash host).hosts =
      if r.hosts.contains host then r.hosts else r.hosts.insert host () := by
  unfold add
  split
  · rfl
  · exact hosts_claims host _ _

/-- The host that comes owns the points of its label texts; the others keep theirs. -/
theorem lookup_add (fresh : r.hosts.contains host = false) (p : UInt64) :
    (r.add hash host).owners.lookup p =
      if Labels hash r.replicas host p then some host else r.owners.lookup p := by
  have spots : p ∈ (List.range r.replicas).map (fun i => hash (Ring.label i host)) ↔
      Labels hash r.replicas host p := by
    simp [Labels]
  rw [add, if_neg (by simp [fresh])]
  refine (lookup_claims host _ _ p).trans ?_
  simp only [spots]

/-- A host that comes leaves the ring in order. -/
theorem Sound.add (sound : r.Sound) (hash : String → UInt64) (host : String) :
    (r.add hash host).Sound := by
  by_cases known : r.hosts.contains host = true
  · rwa [RingIndex.add, if_pos known]
  · rw [Bool.not_eq_true] at known
    have before : Listed { r with hosts := r.hosts.insert host () } :=
      ⟨nodup_of_ascending sound.ascending, sound.listed⟩
    have claimed := before.claims host
      ((List.range r.replicas).map fun i => hash (Ring.label i host))
    refine ⟨?_, fun p => ?_, fun p owner found => ?_⟩
    · rw [RingIndex.add, if_neg (by simp [known])]
      exact ascending_mergeSort claimed.distinct
    · rw [RingIndex.add, if_neg (by simp [known])]
      exact List.mem_mergeSort.trans (claimed.listed p)
    · rw [hosts_add, known, if_neg Bool.false_ne_true, Dict.contains_insert, Bool.or_eq_true]
      rw [lookup_add known] at found
      split at found
      · exact Or.inl (decide_eq_true (Option.some.inj found))
      · exact Or.inr (sound.owned p owner found)

/-! ### A host goes -/

/-- Going through different points keeps those in the list that do not belong to the host, and frees
the others. -/
theorem sifted_spec (host : String) {points : List UInt64} (distinct : points.Nodup)
    (r : RingIndex) :
    (points.foldl (sift host) r).points =
        r.points ++ points.filter (r.owners.lookup · ≠ some host) ∧
      ∀ p, (points.foldl (sift host) r).owners.lookup p =
        if p ∈ points ∧ r.owners.lookup p = some host then none else r.owners.lookup p := by
  induction points generalizing r with
  | nil => exact ⟨by simp, fun p => by simp⟩
  | cons point points ih =>
      obtain ⟨fresh, different⟩ := List.nodup_cons.1 distinct
      obtain ⟨listed, owners⟩ := ih different (r.sift host point)
      rw [List.foldl_cons]
      -- Points are different, so freeing one leaves the owners of those behind it.
      by_cases owned : r.owners.lookup point = some host
      · have freed : r.sift host point = { r with owners := r.owners.erase point } := if_pos owned
        rw [freed] at listed owners ⊢
        refine ⟨?_, fun p => ?_⟩
        · rw [listed, List.filter_cons_of_neg (by simp [owned])]
          refine congrArg (r.points ++ ·) (List.filter_congr fun p member => ?_)
          have other : p ≠ point := fun same => fresh (same ▸ member)
          rw [AList.lookup_erase_ne other]
        · rw [owners]
          by_cases same : p = point
          · subst same
            simp [owned]
          · simp [same, AList.lookup_erase_ne same]
      · have kept : r.sift host point = { r with points := r.points ++ [point] } := if_neg owned
        rw [kept] at listed owners ⊢
        refine ⟨?_, fun p => ?_⟩
        · rw [listed, List.filter_cons_of_pos (by simpa using owned), List.append_assoc]
          rfl
        · rw [owners]
          by_cases same : p = point
          · subst same
            simp [owned]
          · simp [same]

@[simp] theorem hosts_sifted (host : String) (points : List UInt64) (r : RingIndex) :
    (points.foldl (sift host) r).hosts = r.hosts := by
  induction points generalizing r with
  | nil => rfl
  | cons point points ih =>
      refine (ih (r.sift host point)).trans ?_
      unfold sift
      split <;> rfl

@[simp] theorem replicas_sifted (host : String) (points : List UInt64) (r : RingIndex) :
    (points.foldl (sift host) r).replicas = r.replicas := by
  induction points generalizing r with
  | nil => rfl
  | cons point points ih =>
      refine (ih (r.sift host point)).trans ?_
      unfold sift
      split <;> rfl

@[simp] theorem replicas_remove (r : RingIndex) (host : String) :
    (r.remove host).replicas = r.replicas := by
  unfold remove
  split
  · exact replicas_sifted host _ _
  · rfl

/-- A host that goes is off the ring, and the others stay. -/
theorem hosts_remove (r : RingIndex) (host : String) :
    (r.remove host).hosts =
      if r.hosts.contains host then r.hosts.erase host else r.hosts := by
  unfold remove
  split
  · exact hosts_sifted host _ _
  · rfl

/-- The points of the host that goes are free; the others keep their owners. -/
theorem Sound.lookup_remove (sound : r.Sound) (host : String) (p : UInt64) :
    (r.remove host).owners.lookup p =
      if r.owners.lookup p = some host then none else r.owners.lookup p := by
  unfold remove
  split
  · refine ((sifted_spec host (nodup_of_ascending sound.ascending) _).2 p).trans ?_
    by_cases owned : r.owners.lookup p = some host
    · have member : p ∈ r.points := by
        rw [sound.listed, ← AList.lookup_isSome, owned]
        rfl
      rw [if_pos ⟨member, owned⟩, if_pos owned]
    · rw [if_neg fun both => owned both.2, if_neg owned]
  · next unknown =>
      rw [if_neg]
      exact fun owned => unknown (sound.owned p host owned)

/-- The list keeps its other points in order. -/
theorem Sound.points_remove (sound : r.Sound) (host : String) :
    (r.remove host).points = r.points.filter (r.owners.lookup · ≠ some host) := by
  unfold remove
  split
  · exact (sifted_spec host (nodup_of_ascending sound.ascending) _).1
  · next unknown =>
      refine (List.filter_eq_self.2 fun p _ => ?_).symm
      exact decide_eq_true fun owned => unknown (sound.owned p host owned)

theorem Sound.remove (sound : r.Sound) (host : String) : (r.remove host).Sound := by
  refine ⟨?_, fun p => ?_, fun p owner found => ?_⟩
  · rw [sound.points_remove]
    exact sound.ascending.filter _
  · rw [sound.points_remove, List.mem_filter, sound.listed, ← AList.lookup_isSome,
      ← AList.lookup_isSome, sound.lookup_remove]
    by_cases owned : r.owners.lookup p = some host
    · simp [owned]
    · simp [owned]
  · rw [sound.lookup_remove] at found
    split at found
    · exact absurd found (by simp)
    · next other =>
        have known := sound.owned p owner found
        have different : host ≠ owner := by
          rintro rfl
          exact other found
        rw [hosts_remove]
        split
        · rw [Dict.contains_erase, known]
          simpa using different
        · exact known

/-! ### Runs -/

/-- Every call leaves the ring in order. -/
theorem Sound.perform (sound : r.Sound) (hash : String → UInt64) (call : Ring.Call) :
    (r.perform hash call).Sound := by
  cases call with
  | add host => exact sound.add hash host
  | remove host => exact sound.remove host

/-- After any calls the list and the table have the same points, and their owners are there. -/
theorem Sound.run (sound : r.Sound) (hash : String → UInt64) (calls : List Ring.Call) :
    (r.run hash calls).Sound := by
  induction calls generalizing r with
  | nil => exact sound
  | cons call calls ih => exact ih (sound.perform hash call)

end RingIndex

end ClusterGateway
