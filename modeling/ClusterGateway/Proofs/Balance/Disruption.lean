import ClusterGateway.Proofs.Balance.Index

/-! # Few keys move

When a host comes to a ring, a key stays where it was or goes to that host; when one goes, the keys
of the other hosts stay where they are. The owner of a key owns the point that is nearest to the
hash of the key, going up round the ring. Distances round the ring are differences of words, so
there is no first and no last point to tell apart, and what comes or goes matters to the nearest
point alone.
-/

namespace ClusterGateway

namespace RingIndex

/-! ### The nearest point -/

/-- No point of a list comes before `p` on the way up from `start` and round the ring. -/
def Nearest (points : List UInt64) (start p : UInt64) : Prop :=
  p ∈ points ∧ ∀ q ∈ points, p - start ≤ q - start

/-- There is one nearest point at most. -/
theorem Nearest.unique {points : List UInt64} {start p q : UInt64}
    (first : Nearest points start p) (second : Nearest points start q) : p = q :=
  (UInt64.sub_left_inj start).1
    (UInt64.le_antisymm (first.2 q second.1) (second.2 p first.1))

/-- Up from `start` a point is nearer than those that lie higher. -/
theorem sub_le_sub_of_le {start p q : UInt64} (up : start ≤ p) (less : p ≤ q) :
    p - start ≤ q - start := by
  have higher := UInt64.le_trans up less
  rw [UInt64.le_iff_toNat_le] at *
  rw [UInt64.toNat_sub_of_le _ _ (UInt64.le_iff_toNat_le.2 up),
    UInt64.toNat_sub_of_le _ _ (UInt64.le_iff_toNat_le.2 higher)]
  exact Nat.sub_le_sub_right less _

/-- Below `start` a point is farther than all above. -/
theorem sub_le_sub_of_lt {start p q : UInt64} (up : start ≤ p) (below : q < start) :
    p - start ≤ q - start := by
  have bound := p.toNat_lt
  have limit := start.toNat_lt
  rw [UInt64.lt_iff_toNat_lt] at below
  rw [UInt64.le_iff_toNat_le, UInt64.toNat_sub_of_le _ _ up, UInt64.toNat_sub]
  omega

/-- Of two points below `start` the lower one is nearer. -/
theorem sub_le_sub_of_below {start p q : UInt64} (below : q < start) (less : p ≤ q) :
    p - start ≤ q - start := by
  have limit := start.toNat_lt
  rw [UInt64.lt_iff_toNat_lt] at below
  rw [UInt64.le_iff_toNat_le] at *
  rw [UInt64.toNat_sub, UInt64.toNat_sub]
  omega

/-- The first point at or after `start`, or else the first of all. -/
def firstFrom (points : List UInt64) (start : UInt64) : Option UInt64 :=
  (points.find? (start ≤ ·)).or points.head?

/-- A search around the ring fails only where there are no points. -/
theorem firstFrom_eq_none_iff {points : List UInt64} {start : UInt64} :
    firstFrom points start = none ↔ points = [] := by
  rw [firstFrom, Option.or_eq_none_iff, List.head?_eq_none_iff]
  refine ⟨And.right, fun bare => ⟨?_, bare⟩⟩
  rw [bare]
  rfl

/-- In an ascending list the first point from `start` on is the nearest. -/
theorem nearest_firstFrom {points : List UInt64} (ascending : points.Pairwise (· < ·))
    {start p : UInt64} (first : firstFrom points start = some p) : Nearest points start p := by
  rw [firstFrom, Option.or_eq_some_iff] at first
  rcases first with found | ⟨none, least⟩
  · obtain ⟨up, before, after, split, lower⟩ := List.find?_eq_some_iff_append.1 found
    have up : start ≤ p := of_decide_eq_true up
    subst split
    refine ⟨List.mem_append_right _ List.mem_cons_self, fun q member => ?_⟩
    rcases List.mem_append.1 member with passed | behind
    · have below := lower q passed
      rw [Bool.not_eq_true', decide_eq_false_iff_not, UInt64.not_le] at below
      exact sub_le_sub_of_lt up below
    · rcases List.mem_cons.1 behind with rfl | later
      · exact UInt64.le_refl _
      · have more := (List.pairwise_cons.1 (List.pairwise_append.1 ascending).2.1).1 q later
        exact sub_le_sub_of_le up (UInt64.le_of_lt more)
  · -- All points lie below `start`, so the way goes past the last point to the first.
    obtain ⟨rest, rfl⟩ := List.head?_eq_some_iff.1 least
    refine ⟨List.mem_cons_self, fun q member => ?_⟩
    have below := List.find?_eq_none.1 none q member
    rw [decide_eq_true_eq, UInt64.not_le] at below
    refine sub_le_sub_of_below below ?_
    rcases List.mem_cons.1 member with rfl | later
    · exact UInt64.le_refl _
    · exact UInt64.le_of_lt ((List.pairwise_cons.1 ascending).1 q later)

/-- A search around the ring finds the nearest point that follows. -/
theorem firstFrom_eq_some_iff {points : List UInt64} (ascending : points.Pairwise (· < ·))
    {start p : UInt64} : firstFrom points start = some p ↔ Nearest points start p := by
  refine ⟨nearest_firstFrom ascending, fun nearest => ?_⟩
  cases first : firstFrom points start with
  | none =>
      rw [firstFrom_eq_none_iff.1 first] at nearest
      exact absurd nearest.1 List.not_mem_nil
  | some q => rw [(nearest_firstFrom ascending first).unique nearest]

/-! ### The owner of a key -/

variable {hash : String → UInt64} {r : RingIndex} {host : String} {key : String}

/-- A key goes to the owner of the first point from its hash on. -/
theorem balance_eq (hash : String → UInt64) (r : RingIndex) (key : String) :
    r.balance hash key = (firstFrom r.points (hash key)).bind r.owners.lookup := by
  unfold balance firstFrom
  dsimp only
  congr 1
  rw [List.find?_eq_getElem?_findIdx]
  rcases Nat.lt_or_ge (r.points.findIdx (hash key ≤ ·)) r.points.length with inside | beyond
  · rw [Nat.mod_eq_of_lt inside, List.getElem?_eq_getElem inside, Option.some_or]
  · have last := Nat.le_antisymm List.findIdx_le_length beyond
    rw [last, Nat.mod_self, List.getElem?_eq_none (Nat.le_refl _), Option.none_or,
      List.head?_eq_getElem?]

/-- A key has a host exactly if there is a point; it is the owner of the nearest. -/
theorem Sound.balance_eq_some_iff (sound : r.Sound) {owner : String} :
    r.balance hash key = some owner ↔
      ∃ p, Nearest r.points (hash key) p ∧ r.owners.lookup p = some owner := by
  rw [balance_eq, Option.bind_eq_some_iff]
  simp only [firstFrom_eq_some_iff sound.ascending]

/-- No host is found only where there are no points. -/
theorem Sound.balance_eq_none_iff (sound : r.Sound) :
    r.balance hash key = none ↔ r.points = [] := by
  have bare_iff : firstFrom r.points (hash key) = none ↔ r.points = [] := firstFrom_eq_none_iff
  rw [balance_eq, Option.bind_eq_none_iff, ← bare_iff]
  constructor
  · intro unowned
    rw [Option.eq_none_iff_forall_ne_some]
    intro p first
    have present := (sound.listed p).1 ((firstFrom_eq_some_iff sound.ascending).1 first).1
    rw [← AList.lookup_isSome, unowned p first] at present
    exact absurd present (by simp)
  · intro bare p first
    rw [bare] at first
    exact absurd first (by simp)

/-! ### Coming and going -/

/-- On a ring few keys move: to a host that comes, or from a host that goes. -/
structure MovesLittle {σ : Type} (add remove : σ → String → σ)
    (balance : σ → String → Option String) (r : σ) : Prop where
  add : ∀ host key, balance (add r host) key = balance r key ∨
    balance (add r host) key = some host
  remove : ∀ host key, balance r key ≠ some host → balance (remove r host) key = balance r key

/-- When a host comes, a key stays where it was or goes to that host. -/
theorem Sound.balance_add (sound : r.Sound) (hash : String → UInt64) (host key : String) :
    (r.add hash host).balance hash key = r.balance hash key ∨
      (r.add hash host).balance hash key = some host := by
  by_cases known : r.hosts.contains host = true
  · rw [RingIndex.add, if_pos known]
    exact Or.inl rfl
  · rw [Bool.not_eq_true] at known
    have after := sound.add hash host
    have lookup (q : UInt64) : (r.add hash host).owners.lookup q =
        if Labels hash r.replicas host q then some host else r.owners.lookup q :=
      lookup_add known q
    have listed (q : UInt64) (member : q ∈ r.points) : q ∈ (r.add hash host).points := by
      rw [after.listed, ← AList.lookup_isSome, lookup]
      split
      · rfl
      · rw [AList.lookup_isSome, ← sound.listed]
        exact member
    cases chosen : (r.add hash host).balance hash key with
    | none =>
        have bare := after.balance_eq_none_iff.1 chosen
        refine Or.inl (sound.balance_eq_none_iff.2 (List.eq_nil_iff_forall_not_mem.2 ?_)).symm
        intro q member
        rw [List.eq_nil_iff_forall_not_mem] at bare
        exact bare q (listed q member)
    | some owner =>
        obtain ⟨p, nearest, owned⟩ := after.balance_eq_some_iff.1 chosen
        rw [lookup] at owned
        split at owned
        · exact Or.inr owned.symm
        · -- The nearest point was there before, and no point that was there then is nearer now.
          have member : p ∈ r.points := by
            rw [sound.listed, ← AList.lookup_isSome, owned]
            rfl
          refine Or.inl (sound.balance_eq_some_iff.2 ⟨p, ⟨member, ?_⟩, owned⟩).symm
          exact fun q there => nearest.2 q (listed q there)

/-- When a host goes, the keys of the other hosts stay where they were. -/
theorem Sound.balance_remove (sound : r.Sound) {hash : String → UInt64} {host key : String}
    (other : r.balance hash key ≠ some host) :
    (r.remove host).balance hash key = r.balance hash key := by
  have after := sound.remove host
  have points (q : UInt64) (member : q ∈ (r.remove host).points) : q ∈ r.points := by
    rw [sound.points_remove] at member
    exact List.mem_of_mem_filter member
  cases chosen : r.balance hash key with
  | none =>
      rw [after.balance_eq_none_iff, List.eq_nil_iff_forall_not_mem]
      rw [sound.balance_eq_none_iff, List.eq_nil_iff_forall_not_mem] at chosen
      exact fun q member => chosen q (points q member)
  | some owner =>
      -- The nearest point belongs to another host, so it stays, and none comes nearer.
      obtain ⟨p, nearest, owned⟩ := sound.balance_eq_some_iff.1 chosen
      have different : owner ≠ host := by
        rintro rfl
        exact other chosen
      have kept : (r.remove host).owners.lookup p = some owner := by
        rw [sound.lookup_remove, owned, if_neg (by simpa using different)]
      have member : p ∈ (r.remove host).points := by
        rw [after.listed, ← AList.lookup_isSome, kept]
        rfl
      exact after.balance_eq_some_iff.2
        ⟨p, ⟨member, fun q there => nearest.2 q (points q there)⟩, kept⟩

/-- On a ring kept in two tables few keys move. -/
theorem Sound.movesLittle (sound : r.Sound) (hash : String → UInt64) :
    MovesLittle (RingIndex.add hash) RingIndex.remove (balance hash) r :=
  ⟨sound.balance_add hash, fun _ _ => sound.balance_remove⟩

/-! ### The ring in one table -/

/-- Two tables hold what a ring holds. -/
structure Represents (r : RingIndex) (ring : Ring) : Prop where
  replicas : r.replicas = ring.replicas
  hosts : r.hosts = ring.hosts
  points : r.points = ring.points.map (·.1)
  owners : ∀ p owner, r.owners.lookup p = some owner ↔ (p, owner) ∈ ring.points

theorem represents_empty (n : Nat) : (empty n).Represents (Ring.empty n) :=
  ⟨rfl, rfl, rfl, fun p owner => by simp [empty, Ring.empty]⟩

/-- The lists of points are the same if the owners are. -/
theorem Sound.points_of_owners (sound : r.Sound) {ring : Ring} (ringSound : ring.Sound)
    (owners : ∀ p owner, r.owners.lookup p = some owner ↔ (p, owner) ∈ ring.points) :
    r.points = ring.points.map (·.1) := by
  refine ext_of_ascending sound.ascending (List.pairwise_map.2 ringSound.ascending) fun p => ?_
  rw [sound.listed, ← AList.lookup_isSome, Option.isSome_iff_exists, List.mem_map]
  constructor
  · rintro ⟨owner, found⟩
    exact ⟨(p, owner), (owners p owner).1 found, rfl⟩
  · rintro ⟨⟨q, owner⟩, member, rfl⟩
    exact ⟨owner, (owners q owner).2 member⟩

/-- Tables that hold a ring hold it with one more host once that comes. -/
theorem Represents.add {ring : Ring} (same : r.Represents ring) (sound : r.Sound)
    (ringSound : ring.Sound) (host : String) :
    (r.add Xxh3.hash host).Represents (ring.add host) := by
  by_cases known : ring.hosts.contains host = true
  · rwa [RingIndex.add, if_pos (same.hosts ▸ known), Ring.add, if_pos known]
  · rw [Bool.not_eq_true] at known
    have owners (p : UInt64) (owner : String) :
        (r.add Xxh3.hash host).owners.lookup p = some owner ↔
          (p, owner) ∈ (ring.add host).points := by
      rw [lookup_add (same.hosts ▸ known), ringSound.mem_add known, same.replicas, ← same.owners]
      change _ ↔ _ ∧ Labels Xxh3.hash ring.replicas host p ∨
        ¬ Labels Xxh3.hash ring.replicas host p ∧ _
      split
      · next labelled => simp [labelled, eq_comm]
      · next other => simp [other]
    refine ⟨?_, ?_, (sound.add Xxh3.hash host).points_of_owners (ringSound.add host) owners, owners⟩
    · rw [replicas_add, Ring.replicas_add, same.replicas]
    · rw [hosts_add, same.hosts, known, if_neg Bool.false_ne_true, Ring.add,
        if_neg (by simp [known])]

/-- Tables that hold a ring hold it without a host once that goes. -/
theorem Represents.remove {ring : Ring} (same : r.Represents ring) (sound : r.Sound)
    (ringSound : ring.Sound) (host : String) : (r.remove host).Represents (ring.remove host) := by
  have owners (p : UInt64) (owner : String) :
      (r.remove host).owners.lookup p = some owner ↔ (p, owner) ∈ (ring.remove host).points := by
    rw [sound.lookup_remove, Ring.mem_remove ringSound, ← same.owners]
    split
    · next owned => simp [owned, eq_comm]
    · next other =>
        refine ⟨fun found => ⟨?_, found⟩, And.right⟩
        rintro rfl
        exact other found
  refine ⟨?_, ?_, (sound.remove host).points_of_owners (ringSound.remove host) owners, owners⟩
  · rw [replicas_remove, Ring.replicas_remove, same.replicas]
  · rw [hosts_remove, same.hosts, Ring.remove]
    split <;> rfl

/-- With the hash of the ring, two tables hold what the ring holds after the same calls. -/
theorem Represents.run {ring : Ring} (same : r.Represents ring) (sound : r.Sound)
    (ringSound : ring.Sound) (calls : List Ring.Call) :
    (r.run Xxh3.hash calls).Represents (ring.run calls) := by
  induction calls generalizing r ring with
  | nil => exact same
  | cons call calls ih =>
      refine ih ?_ (sound.perform Xxh3.hash call) (ringSound.perform call)
      cases call with
      | add host => exact same.add sound ringSound host
      | remove host => exact same.remove sound ringSound host

/-- Both forms of a ring choose the same host. -/
theorem Represents.balance {ring : Ring} (same : r.Represents ring) (key : String) :
    r.balance Xxh3.hash key = ring.balance key := by
  have nearest : firstFrom r.points (Xxh3.hash key) =
      ((ring.points.find? (Xxh3.hash key ≤ ·.1)).or ring.points.head?).map (·.1) := by
    rw [firstFrom, same.points, List.find?_map, List.head?_map, Option.map_or]
    rfl
  have whole : ring.balance key =
      ((ring.points.find? (Xxh3.hash key ≤ ·.1)).or ring.points.head?).map (·.2) := by
    unfold Ring.balance Ring.ownerAt
    cases ring.points.find? (Xxh3.hash key ≤ ·.1) <;> rfl
  rw [balance_eq, nearest, whole]
  cases first : (ring.points.find? (Xxh3.hash key ≤ ·.1)).or ring.points.head? with
  | none => rfl
  | some e =>
      have member : e ∈ ring.points := by
        rcases Option.or_eq_some_iff.1 first with found | ⟨-, least⟩
        · exact List.mem_of_find?_eq_some found
        · exact List.mem_of_head? least
      exact (same.owners e.1 e.2).2 member

/-- On a ring that is kept in one table few keys move either, because two tables hold the same. -/
theorem Represents.movesLittle {ring : Ring} (same : r.Represents ring) (sound : r.Sound)
    (ringSound : ring.Sound) : MovesLittle Ring.add Ring.remove Ring.balance ring := by
  constructor
  · intro host key
    rw [← (same.add sound ringSound host).balance, ← same.balance]
    exact sound.balance_add Xxh3.hash host key
  · intro host key other
    rw [← same.balance] at other
    rw [← (same.remove sound ringSound host).balance, ← same.balance]
    exact sound.balance_remove other

/-- On a ring few keys move, whatever was done to it. So it is in two tables with any hash, even if
label texts fall on the same points: then the list of points is in ascending order and has just the
points of the table of owners, and every owner is on the ring. With the hash of the ring the two
tables hold just what the ring holds. -/
theorem few_keys_move (n : Nat) (calls : List Ring.Call) :
    MovesLittle Ring.add Ring.remove Ring.balance ((Ring.empty n).run calls) ∧
    (∀ hash : String → UInt64,
      let r := (empty n).run hash calls
      MovesLittle (add hash) remove (balance hash) r ∧
        r.points.Pairwise (· < ·) ∧
        (∀ p, p ∈ r.points ↔ p ∈ r.owners) ∧
        ∀ p owner, r.owners.lookup p = some owner → r.hosts.contains owner = true) ∧
    ((empty n).run Xxh3.hash calls).Represents ((Ring.empty n).run calls) := by
  have ringSound := (Ring.sound_empty n).run calls
  have same := (represents_empty n).run (sound_empty n) (Ring.sound_empty n) calls
  refine ⟨same.movesLittle ((sound_empty n).run Xxh3.hash calls) ringSound, ?_, same⟩
  intro hash r
  have sound : r.Sound := (sound_empty n).run hash calls
  exact ⟨sound.movesLittle hash, sound.ascending, sound.listed, sound.owned⟩

end RingIndex

end ClusterGateway
