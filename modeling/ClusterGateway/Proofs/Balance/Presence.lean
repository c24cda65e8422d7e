import ClusterGateway.Balance.RoundRobin
import ClusterGateway.Proofs.Balance.Ring
import ClusterGateway.Proofs.Text.Decimal
import Mathlib.Data.List.Induction

/-! # Who can be chosen

A balancer that knows a host chooses one, and it chooses only hosts that it knows. On a ring this
hangs on the hash: a host that came later takes over the points that it shares with others. Label
texts of different hosts may coincide, but no other host has the first label text of a host, so as
long as different label texts are hashed to different points, each host keeps its first point.
-/

namespace ClusterGateway

namespace Ring

/-! ### Label texts -/

/-- The first label text of a host belongs to no other host. -/
theorem label_eq_label_zero {i : Nat} {host other : String} (same : label i other = label 0 host) :
    other = host := by
  have chars := congrArg String.toList same
  rw [label, label, String.toList_append, String.toList_append, toList_toString_nat,
    toList_toString_nat] at chars
  have front : decimalDigits 0 = ['0'] := rfl
  rw [front, List.singleton_append] at chars
  have zero : i = 0 := by
    apply eq_zero_of_head?_decimalDigits
    cases digits : decimalDigits i with
    | nil => exact absurd digits (decimalDigits_ne_nil i)
    | cons c rest =>
        rw [digits, List.cons_append, List.cons.injEq] at chars
        rw [List.head?_cons, chars.1]
  subst zero
  exact String.toList_inj.1 (List.cons.inj chars).2

/-- Different label texts of some hosts fall on different points. -/
def Legible (replicas : Nat) (hosts : List String) : Prop :=
  ∀ a ∈ hosts, ∀ b ∈ hosts, ∀ i < replicas, ∀ j < replicas,
    point i a = point j b → label i a = label j b

instance (replicas : Nat) (hosts : List String) : Decidable (Legible replicas hosts) :=
  inferInstanceAs (Decidable (∀ a ∈ hosts, ∀ b ∈ hosts, ∀ i < replicas, ∀ j < replicas,
    point i a = point j b → label i a = label j b))

/-! ### Rings on which every host has a point -/

/-- Every host of a ring owns its first point. -/
structure Rooted (r : Ring) : Prop extends Sound r where
  positive : 0 < r.replicas
  first : ∀ host, r.hosts.contains host = true → (point 0 host, host) ∈ r.points

variable {r : Ring}

theorem rooted_empty (n : Nat) : (empty n).Rooted :=
  ⟨sound_empty n, Nat.lt_of_lt_of_le Nat.zero_lt_one (Nat.le_max_right n 1),
    fun host known => absurd known (by simp [empty, Dict.contains])⟩

/-- A host that comes owns its first point, and the others keep theirs, because no other text falls
on it. -/
theorem Rooted.add (rooted : r.Rooted) {given : List String} (legible : Legible r.replicas given)
    (known : ∀ host, r.hosts.contains host = true → host ∈ given) {host : String}
    (member : host ∈ given) : (r.add host).Rooted := by
  by_cases present : r.hosts.contains host = true
  · rwa [Ring.add, if_pos present]
  · rw [Bool.not_eq_true] at present
    refine ⟨rooted.toSound.add host, by rw [replicas_add]; exact rooted.positive, ?_⟩
    intro other there
    rw [rooted.toSound.mem_add present]
    by_cases same : other = host
    · subst same
      exact Or.inl ⟨rfl, 0, rooted.positive, rfl⟩
    · have before : r.hosts.contains other = true := by
        simpa [Ne.symm same] using there
      refine Or.inr ⟨?_, rooted.first other before⟩
      rintro ⟨j, less, shared⟩
      exact same (label_eq_label_zero (legible host member other (known other before) j less 0
        rooted.positive shared)).symm

/-- A host that goes leaves the others their first points. -/
theorem Rooted.remove (rooted : r.Rooted) (host : String) : (r.remove host).Rooted := by
  refine ⟨rooted.toSound.remove host, by rw [replicas_remove]; exact rooted.positive, ?_⟩
  intro other there
  rw [contains_remove, Bool.and_eq_true, Bool.not_eq_true', decide_eq_false_iff_not] at there
  exact (mem_remove rooted.toSound).2 ⟨Ne.symm there.1, rooted.first other there.2⟩

/-- The owner of a point is chosen, so it is on the ring. -/
theorem Sound.contains_of_balance (sound : r.Sound) {key host : String}
    (chosen : r.balance key = some host) : r.hosts.contains host = true := by
  rw [balance, ownerAt] at chosen
  split at chosen
  next e found =>
    obtain rfl := Option.some.inj chosen
    exact (sound.owned e (List.mem_of_find?_eq_some found)).1
  next =>
    obtain ⟨e, first, rfl⟩ := Option.map_eq_some_iff.1 chosen
    exact (sound.owned e (List.mem_of_head? first)).1

/-- A ring with a host has a host for every key. -/
theorem Rooted.exists_balance (rooted : r.Rooted) {host : String}
    (present : r.hosts.contains host = true) (key : String) :
    ∃ chosen, r.balance key = some chosen := by
  rw [balance, ownerAt]
  split
  next e _ => exact ⟨e.2, rfl⟩
  next =>
    obtain ⟨e, rest, points⟩ := List.exists_cons_of_ne_nil
      (List.ne_nil_of_mem (rooted.first host present))
    exact ⟨e.2, by rw [points]; rfl⟩

/-! ### Runs -/

/-- The host that a call is about. -/
def Call.host : Call → String
  | add host => host
  | remove host => host

/-- After a call its own host is there just if it was added, and every other host if it was there
before. -/
theorem contains_perform (r : Ring) (call : Call) (host : String) :
    (r.perform call).hosts.contains host =
      if call.host = host then decide (call = .add host) else r.hosts.contains host := by
  cases call with
  | add other => by_cases same : other = host <;> simp [perform, Call.host, same]
  | remove other => by_cases same : other = host <;> simp [perform, Call.host, same]

/-- A host was added and not removed since. -/
def Stays (calls : List Call) (host : String) : Prop :=
  (calls.filter (·.host = host)).getLast? = some (.add host)

instance (calls : List Call) (host : String) : Decidable (Stays calls host) :=
  inferInstanceAs (Decidable (_ = _))

/-- The hosts of a ring are those that were added and not removed since. -/
theorem contains_run (n : Nat) (calls : List Call) (host : String) :
    ((empty n).run calls).hosts.contains host = true ↔ Stays calls host := by
  induction calls using List.reverseRecOn with
  | nil => simp [empty, run, Dict.contains, Stays]
  | append_singleton calls call ih =>
      have last : (empty n).run (calls ++ [call]) = ((empty n).run calls).perform call :=
        List.foldl_concat _ _ _ _
      rw [last, contains_perform, Stays, List.filter_append]
      by_cases same : call.host = host
      · simp [same]
      · simp [same, ih, Stays]

/-- Any calls leave every host its first point, if the hash keeps the texts of the given hosts
apart. -/
theorem Rooted.run (rooted : r.Rooted) {given : List String} (legible : Legible r.replicas given)
    (known : ∀ host, r.hosts.contains host = true → host ∈ given) {calls : List Call}
    (members : ∀ host ∈ calls.filterMap Call.added?, host ∈ given) : (r.run calls).Rooted := by
  induction calls generalizing r with
  | nil => exact rooted
  | cons call calls ih =>
      cases call with
      | add host =>
          obtain ⟨member, others⟩ := List.forall_mem_cons.1 members
          have after : (r.add host).Rooted := rooted.add legible known member
          have still : Legible (r.add host).replicas given := by rwa [replicas_add]
          have held (other : String) (present : (r.add host).hosts.contains other = true) :
              other ∈ given := by
            rw [contains_add, Bool.or_eq_true, decide_eq_true_eq] at present
            exact present.elim (fun same => same ▸ member) (known other)
          exact ih after still held others
      | remove host =>
          have after : (r.remove host).Rooted := rooted.remove host
          have still : Legible (r.remove host).replicas given := by rwa [replicas_remove]
          have held (other : String) (present : (r.remove host).hosts.contains other = true) :
              other ∈ given := by
            rw [contains_remove, Bool.and_eq_true] at present
            exact known other present.2
          exact ih after still held members

/-- A key has no host exactly if there is none on the ring. -/
theorem Rooted.balance_eq_none_iff (rooted : r.Rooted) {key : String} :
    r.balance key = none ↔ r.hosts = ∅ := by
  constructor
  · intro unserved
    apply Dict.ext_get?
    intro host
    rw [Dict.get?_emptyCollection, ← Option.not_isSome_iff_eq_none]
    intro present
    obtain ⟨chosen, served⟩ := rooted.exists_balance present key
    rw [unserved] at served
    exact absurd served (by simp)
  · intro bare
    rw [Option.eq_none_iff_forall_ne_some]
    intro chosen served
    have present := rooted.toSound.contains_of_balance served
    rw [bare] at present
    exact absurd present (by simp [Dict.contains])

/-- As long as different label texts of the hosts that come are hashed to different points, every
host on a ring owns a point, whoever comes and goes and whatever label texts they have in common. So
a key has no host exactly if there is none on the ring. -/
theorem no_host_vanishes {n : Nat} {calls : List Call}
    (legible : Legible (max n 1) (calls.filterMap Call.added?)) :
    let r := (empty n).run calls
    (∀ host, r.hosts.contains host = true ↔ Stays calls host) ∧
      (∀ host, r.hosts.contains host = true → ∃ p, (p, host) ∈ r.points) ∧
      ∀ key, r.balance key = none ↔ r.hosts = ∅ := by
  intro r
  have rooted : r.Rooted := (rooted_empty n).run legible
    (fun host known => absurd known (by simp [empty, Dict.contains])) fun _ member => member
  exact ⟨contains_run n calls, fun host present => ⟨point 0 host, rooted.first host present⟩,
    fun key => rooted.balance_eq_none_iff⟩

/-- A host that comes takes over a point of another, and takes it away with it. -/
def sharingCalls : List Call := [.add "0x:1", .add "x:1", .remove "x:1"]

/-- The host that has lost the point still owns others. -/
theorem no_host_vanishes_sharingCalls :
    label 10 "x:1" = label 1 "0x:1" ∧
      Legible (max 11 1) (sharingCalls.filterMap Call.added?) ∧
      point 1 "0x:1" ∉ ((empty 11).run sharingCalls).points.map (·.1) ∧
      ∃ p, (p, "0x:1") ∈ ((empty 11).run sharingCalls).points := by
  have legible : Legible (max 11 1) (sharingCalls.filterMap Call.added?) := by decide +kernel
  have lost : point 1 "0x:1" ∉ ((empty 11).run sharingCalls).points.map (·.1) := by
    decide +kernel
  have stays : Stays sharingCalls "0x:1" := by decide
  obtain ⟨hosts, points, -⟩ := no_host_vanishes legible
  exact ⟨by decide +kernel, legible, lost, points _ ((hosts _).2 stays)⟩

end Ring

namespace RoundRobin

/-- A host that comes is not listed twice. -/
theorem nodup_add {r : RoundRobin} (nodup : r.hosts.Nodup) (host : String) :
    (r.add host).hosts.Nodup := by
  rw [add]
  split
  next => exact nodup
  next unknown => exact List.nodup_append.2 ⟨nodup, List.nodup_singleton host, by
      rintro one member other only rfl
      exact unknown (List.mem_singleton.1 only ▸ member)⟩

/-- As long as there are hosts, it is the turn of one of them. -/
theorem exists_balance {r : RoundRobin} (filled : r.hosts ≠ []) :
    ∃ host after, r.balance = some (host, after) ∧ host ∈ r.hosts := by
  have inside : r.turns.toNat % r.hosts.length < r.hosts.length :=
    Nat.mod_lt _ (List.length_pos_of_ne_nil filled)
  rw [balance, List.getElem?_eq_getElem inside]
  exact ⟨_, _, rfl, List.getElem_mem inside⟩

theorem balance_of_nil {r : RoundRobin} (bare : r.hosts = []) : r.balance = none := by
  rw [balance, bare]
  rfl

end RoundRobin

end ClusterGateway
