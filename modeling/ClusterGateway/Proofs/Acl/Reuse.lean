import ClusterGateway.Proofs.Acl.Compact
import ClusterGateway.Proofs.Acl.Match
import Mathlib.Order.Bounds.Basic

/-! # Slots of a trie are handed out again

Whatever is kept and taken out again, a slot of the arena is the node of one bit string or waits on
the free list to become one. The nodes are the root and the starts of what is kept. The arena grows
only when no slot is free, so it is never larger than the nodes once needed.
-/

namespace ClusterGateway

namespace BitTrie

variable {α : Type} {t u v : BitTrie α} {kept : AList fun _ : List Bool => α}

/-! ### The slots of an arena -/

/-- Each slot of the arena has its place, in the tree of nodes or on the free list. -/
structure Tidy (t : BitTrie α) : Prop where
  /-- Every node has a slot of the arena. -/
  inside : ∀ {path i}, t.slot? path = some i → i < t.nodes.size
  /-- No slot is the node of two bit strings, so the nodes are a tree. -/
  apart : ∀ {path other i}, t.slot? path = some i → t.slot? other = some i → path = other
  /-- The other slots are free, and each stands once on the free list. -/
  free : ∃ slots, t.FreeList slots
  /-- A child knows the node above it. -/
  upward : ∀ {path i bit j}, t.slot? path = some i → (t.node i).child bit = some j →
    (t.node j).parent = some i
  top : (t.node 0).parent = none
  /-- A node without children has a value, unless it is the root. -/
  valued : ∀ {path i}, t.slot? path = some i → path ≠ [] → (t.node i).isLeaf = true →
    (t.node i).value.isSome = true

/-- A node without children bears nothing but its own value. -/
theorem isSome_value_of_leaf {path : List Bool} {i : Nat} (bears : t.Bears path)
    (here : t.slot? path = some i) (leaf : (t.node i).isLeaf = true) :
    (t.node i).value.isSome = true := by
  obtain ⟨more, valued⟩ := bears
  cases more with
  | nil => rwa [List.append_nil, valueAt, here, Option.bind_some] at valued
  | cons bit more =>
      rw [valueAt_of_missing here (TrieNode.isLeaf_iff.1 leaf bit)] at valued
      exact absurd valued (by simp)

/-- In a compact arena each slot has its place. -/
theorem Compact.tidy (compact : t.Compact) : t.Tidy where
  inside := compact.inside
  apart := compact.apart
  free := compact.exists_freeList compact.accounted
  upward here child := compact.upward here (by rw [slot?_snoc, here, Option.bind_some, child])
  top := compact.top
  valued here nonempty :=
    isSome_value_of_leaf (compact.fruitful (Option.isSome_of_mem here) nonempty) here

/-! ### The number of nodes -/

/-- The starts of some bit strings, without the empty one. -/
def starts (paths : List (List Bool)) : Finset (List Bool) :=
  (paths.flatMap List.inits).toFinset.erase []

/-- The starts of some bit strings are the bit strings, but for the empty one, that begin one of
them. -/
theorem mem_starts {paths : List (List Bool)} {path : List Bool} :
    path ∈ starts paths ↔ path ≠ [] ∧ ∃ longer ∈ paths, path <+: longer := by
  simp [starts]

/-- Just the starts of the keys of a map bear values in a trie that holds it. -/
theorem Holds.bears_iff (holds : t.Holds kept) {path : List Bool} :
    t.Bears path ↔ ∃ longer ∈ kept.keys, path <+: longer := by
  simp only [Bears, holds.values, AList.lookup_isSome, AList.mem_keys]
  constructor
  · rintro ⟨more, member⟩
    exact ⟨_, member, List.prefix_append path more⟩
  · rintro ⟨_, member, more, rfl⟩
    exact ⟨more, member⟩

/-- The nodes are the root and the starts of what is kept. -/
theorem Compact.nodeCount_eq_starts (compact : t.Compact) (holds : t.Holds kept) :
    t.nodeCount = 1 + (starts kept.keys).card := by
  have root : [] ∉ starts kept.keys := fun member => (mem_starts.1 member).1 rfl
  have nodes : {path | path = [] ∨ t.Bears path} = ↑(Finset.cons [] (starts kept.keys) root) := by
    ext path
    rw [Finset.mem_coe, Finset.mem_cons, mem_starts, ← holds.bears_iff]
    by_cases empty : path = [] <;> simp [empty]
  rw [compact.nodeCount_eq, nodes, Set.ncard_coe_finset, Finset.card_cons, Nat.add_comm]

/-! ### The size of the arena -/

/-- An arena that has only handed out slots since has grown only after the free ones were used. -/
structure Grown (t u : BitTrie α) : Prop where
  larger : t.nodes.size ≤ u.nodes.size
  fewer : u.freeCount ≤ t.freeCount
  full : u.nodes.size = t.nodes.size ∨ u.freeCount = 0

theorem Grown.refl (t : BitTrie α) : t.Grown t :=
  ⟨Nat.le_refl _, Nat.le_refl _, Or.inl rfl⟩

/-- What has grown from something grown has grown from the first. -/
theorem Grown.trans (first : t.Grown u) (second : u.Grown v) : t.Grown v := by
  refine ⟨Nat.le_trans first.larger second.larger, Nat.le_trans second.fewer first.fewer, ?_⟩
  rcases second.full with same | full
  · rcases first.full with before | full
    · exact Or.inl (same.trans before)
    · exact Or.inr (Nat.le_zero.1 (full ▸ second.fewer))
  · exact Or.inr full

/-- If no slot is first on the free list, none is on it. -/
theorem Accounted.freeCount_eq_zero (accounted : t.Accounted) (none : t.free = none) :
    t.freeCount = 0 := by
  obtain ⟨slots, chain, counted, -⟩ := accounted
  rw [none] at chain
  cases slots with
  | nil => exact counted.symm
  | cons i slots => exact chain.elim

/-- Handing out a slot makes the arena larger only if none was free. -/
theorem Accounted.grown_alloc (accounted : t.Accounted) (parent : Nat) :
    t.Grown (t.alloc parent).2 := by
  rw [alloc]
  split
  · exact ⟨Nat.le_of_eq (size_update t _ _).symm, Nat.sub_le _ _, Or.inl (size_update t _ _)⟩
  · next none =>
      refine ⟨?_, Nat.le_refl _, Or.inr (accounted.freeCount_eq_zero none)⟩
      rw [Array.size_push]
      exact Nat.le_succ _

/-- Linking a child makes the arena larger only if no slot was free. -/
theorem Accounted.grown_link (accounted : t.Accounted) (parent : Nat) (bit : Bool) :
    t.Grown (t.link parent bit).2 := by
  obtain ⟨larger, fewer, full⟩ := accounted.grown_alloc parent
  rw [← size_link t parent bit] at larger full
  exact ⟨larger, fewer, full⟩

/-- Growing along a bit string uses the free slots before it makes the arena larger. -/
theorem Sound.grown_grow (sound : t.Sound) (accounted : t.Accounted) {path : List Bool} {i : Nat}
    (here : t.slot? path = some i) (bits : List Bool)
    (vacant : ∀ bit ∈ bits.head?, (t.node i).child bit = none) : t.Grown (t.grow i bits).2 := by
  induction bits generalizing t path i with
  | nil => exact Grown.refl t
  | cons bit bits ih =>
      have open_ := vacant bit rfl
      have found : (t.link i bit).2.slot? (path ++ [bit]) = some (t.link i bit).1 := by
        rw [sound.slot?_link here open_, if_pos rfl]
      rw [grow_cons]
      refine (accounted.grown_link i bit).trans
        (ih (sound.link here open_) (sound.accounted_link accounted here open_) found ?_)
      intro c _
      rw [sound.node_link here bit, if_pos rfl]
      cases c <;> rfl

/-- Inserting a value uses the free slots before it makes the arena larger. -/
theorem Compact.grown_insert (compact : t.Compact) (path : List Bool) (value : α) :
    t.Grown (t.insert path value) := by
  obtain ⟨taken, rest, i, descent, rfl, found, stuck⟩ := descend_spec (slot?_nil t) path
  obtain ⟨larger, fewer, full⟩ := compact.toSound.grown_grow compact.accounted found rest stuck
  simp only [BitTrie.insert, descent]
  constructor <;> simpa only [size_update]

/-- Pruning gives slots back without making the arena smaller. -/
theorem size_prune_nodes (t : BitTrie α) (i depth : Nat) :
    (t.prune i depth).nodes.size = t.nodes.size := by
  have unlinked (t : BitTrie α) (parent i : Nat) (bit : Bool) :
      (t.unlink parent bit i).nodes.size = t.nodes.size := by
    simp [unlink, release, size_update]
  induction depth generalizing t i with
  | zero => rfl
  | succ depth ih =>
      cases up : (t.node i).parent with
      | none => rw [prune, up]
      | some parent =>
          rw [prune_succ up]
          dsimp only
          split
          · rw [ih, unlinked]
          · rw [unlinked]

theorem size_erase_nodes (t : BitTrie α) (path : List Bool) :
    (t.erase path).2.nodes.size = t.nodes.size := by
  rw [erase]
  split
  · split
    · rfl
    · dsimp only
      split
      · exact size_update t _ _
      · exact (size_prune_nodes _ _ _).trans (size_update t _ _)
  · rfl

end BitTrie

namespace TrieCall

open BitTrie

variable {α : Type} {t : BitTrie α}

/-- Every call keeps a trie compact. -/
theorem compact_perform (compact : t.Compact) (call : TrieCall α) : (call.perform t).Compact := by
  cases call with
  | insert key mask value => exact compact.insert _ value
  | remove key mask => exact compact.erase _

/-- Any calls keep a trie compact. -/
theorem compact_run (compact : t.Compact) (calls : List (TrieCall α)) :
    (calls.foldl perform t).Compact := by
  induction calls generalizing t with
  | nil => exact compact
  | cons call calls ih => exact ih (compact_perform compact call)

/-- A call enlarges the arena as far as the nodes need it, and no further. -/
theorem size_perform (compact : t.Compact) (call : TrieCall α) :
    (call.perform t).nodes.size = max t.nodes.size (call.perform t).nodeCount := by
  rw [nodeCount]
  cases call with
  | insert key mask value =>
      obtain ⟨larger, -, full⟩ := compact.grown_insert (leadingBits key mask) value
      rw [perform]
      omega
  | remove key mask =>
      have same := size_erase_nodes t (leadingBits key mask)
      rw [perform]
      omega

/-- The arena has as many slots as there have been nodes at most. -/
theorem isGreatest_size (calls : List (TrieCall α)) :
    IsGreatest {count | ∃ earlier, earlier <+: calls ∧
      (earlier.foldl perform ({} : BitTrie α)).nodeCount = count}
      (calls.foldl perform ({} : BitTrie α)).nodes.size := by
  induction calls using List.reverseRecOn with
  | nil =>
      refine ⟨⟨[], List.nil_prefix, rfl⟩, ?_⟩
      rintro _ ⟨earlier, start, rfl⟩
      rw [List.prefix_nil.1 start]
      exact Nat.le_refl _
  | append_singleton calls call ih =>
      obtain ⟨⟨most, start, reached⟩, bound⟩ := ih
      have size := size_perform (compact_run (α := α) compact_empty calls) call
      have last : (calls ++ [call]).foldl perform ({} : BitTrie α) =
          call.perform (calls.foldl perform {}) := List.foldl_concat _ _ _ _
      rw [← last] at size
      rw [size]
      constructor
      · rcases Nat.le_total (calls.foldl perform ({} : BitTrie α)).nodes.size
          ((calls ++ [call]).foldl perform ({} : BitTrie α)).nodeCount with more | enough
        · exact ⟨_, List.prefix_rfl, (Nat.max_eq_right more).symm⟩
        · exact ⟨most, start.trans (List.prefix_append _ _),
            reached.trans (Nat.max_eq_left enough).symm⟩
      · rintro _ ⟨earlier, before, rfl⟩
        rcases List.prefix_concat_iff.1 before with rfl | older
        · exact Nat.le_max_right _ _
        · exact Nat.le_trans (bound ⟨earlier, older, rfl⟩) (Nat.le_max_left _ _)

/-- After any calls each slot of the arena is a node of one bit string or free, the links up and
down agree, and no node stands without a purpose. There is a node for the root and for every start
of what is kept, so only one if nothing is, and the arena has as many slots as there have been nodes
at most. -/
theorem arena_in_order (calls : List (TrieCall α)) :
    let t : BitTrie α := calls.foldl perform {}
    let kept : AList fun _ : List Bool => α := calls.foldl record ∅
    t.Tidy ∧ t.nodeCount = 1 + (starts kept.keys).card ∧ (kept = ∅ → t.nodeCount = 1) ∧
      IsGreatest {count | ∃ earlier, earlier <+: calls ∧
        (earlier.foldl perform ({} : BitTrie α)).nodeCount = count} t.nodes.size := by
  intro t kept
  have compact : t.Compact := compact_run compact_empty calls
  have count : t.nodeCount = 1 + (starts kept.keys).card :=
    compact.nodeCount_eq_starts (holds_run holds_empty calls)
  refine ⟨compact.tidy, count, fun nothing => ?_, isGreatest_size calls⟩
  rw [count, nothing]
  rfl

/-- An address comes and goes, and so does one whose bits part from the first ones at once. -/
def replacedAddress : List (TrieCall String) :=
  [.insert 0x01010101 0xffffffff "a", .remove 0x01010101 0xffffffff,
   .insert 0x81010101 0xffffffff "b", .remove 0x81010101 0xffffffff]

/-- Both addresses have used the same slots. -/
theorem arena_in_order_replacedAddress :
    (replacedAddress.foldl record ∅ : AList fun _ : List Bool => String) = ∅ ∧
      (replacedAddress.foldl perform ({} : BitTrie String)).nodeCount = 1 ∧
      (replacedAddress.foldl perform ({} : BitTrie String)).nodes.size = 33 := by
  have nothing : (replacedAddress.foldl record ∅ : AList fun _ : List Bool => String) = ∅ :=
    AList.ext (by decide +kernel)
  exact ⟨nothing, (arena_in_order replacedAddress).2.2.1 nothing, by decide +kernel⟩

end TrieCall

end ClusterGateway
