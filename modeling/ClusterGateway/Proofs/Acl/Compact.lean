import ClusterGateway.Proofs.Acl.Arena
import Mathlib.Data.Set.Card

/-! # No slot of a trie is wasted

A node stands only where a value is kept at or behind its bit string, and a slot that is no node is
free. So the nodes of a trie are the starts of the bit strings at which it keeps values, and tries
that keep values at the same bit strings have equally many nodes, however their slots came about.
-/

namespace ClusterGateway

namespace BitTrie

variable {α : Type} {t : BitTrie α}

/-! ### Reached bit strings -/

/-- A bit string leads where its second part leads from the end of the first. -/
theorem slot?_append (t : BitTrie α) (path more : List Bool) :
    t.slot? (path ++ more) =
      (t.slot? path).bind fun i => more.foldlM (fun i bit => (t.node i).child bit) i := by
  rw [slot?, List.foldlM_append]
  rfl

/-- Where a bit string leads to a node, its starts do too. -/
theorem isSome_slot?_of_append {path more : List Bool}
    (reached : (t.slot? (path ++ more)).isSome = true) : (t.slot? path).isSome = true := by
  rw [slot?_append] at reached
  cases found : t.slot? path with
  | none =>
      rw [found] at reached
      exact absurd reached (by simp)
  | some i => rfl

/-- A value is kept at a bit string or behind it. -/
def Bears (t : BitTrie α) (path : List Bool) : Prop :=
  ∃ more, (t.valueAt (path ++ more)).isSome = true

/-- A bit string on which a value lies leads to a slot. -/
theorem isSome_slot?_of_bears {path : List Bool} (bears : t.Bears path) :
    (t.slot? path).isSome = true := by
  obtain ⟨more, kept⟩ := bears
  suffices reached : (t.slot? (path ++ more)).isSome = true from isSome_slot?_of_append reached
  rw [valueAt] at kept
  cases found : t.slot? (path ++ more) with
  | none =>
      rw [found] at kept
      exact absurd kept (by simp)
  | some i => rfl

/-- What bears a value bears it for every bit string at its start. -/
theorem Bears.start {path other : List Bool} (bears : t.Bears path) (start : other <+: path) :
    t.Bears other := by
  obtain ⟨more, kept⟩ := bears
  obtain ⟨rest, rfl⟩ := start
  exact ⟨rest ++ more, by rwa [← List.append_assoc]⟩

/-- A bit string with a value bears it itself. -/
theorem bears_of_valueAt {path : List Bool} (kept : (t.valueAt path).isSome = true) :
    t.Bears path := ⟨[], by rwa [List.append_nil]⟩

/-- Which bit strings bear values depends on the values alone. -/
theorem Bears.of_same {u : BitTrie α} {path : List Bool} (bears : t.Bears path)
    (same : ∀ other, u.valueAt other = t.valueAt other) : u.Bears path := by
  obtain ⟨more, kept⟩ := bears
  exact ⟨more, by rwa [same]⟩

/-! ### Free slots -/

/-- A link is followed by one chain only. -/
theorem Chain.unique {link : Option Nat} {a b : List Nat} (first : t.Chain link a)
    (second : t.Chain link b) : a = b := by
  induction a generalizing link b with
  | nil =>
      cases link with
      | none =>
          cases b with
          | nil => rfl
          | cons j rest => exact second.elim
      | some i => exact first.elim
  | cons j rest ih =>
      cases link with
      | none => exact first.elim
      | some i =>
          cases b with
          | nil => exact second.elim
          | cons k others =>
              obtain ⟨rfl, more⟩ := first
              obtain ⟨rfl, again⟩ := second
              rw [ih more again]

/-- Every slot is a node or free, and the free ones are counted. -/
def Accounted (t : BitTrie α) : Prop :=
  ∃ slots, t.Chain t.free slots ∧ slots.length = t.freeCount ∧
    ∀ i < t.nodes.size, i ∈ slots ∨ ∃ path, t.slot? path = some i

theorem accounted_empty : Accounted ({} : BitTrie α) := by
  refine ⟨[], trivial, rfl, fun i inside => Or.inr ⟨[], ?_⟩⟩
  rw [slot?_nil, Nat.lt_one_iff.1 inside]

/-- The free slots of a trie in the order in which they are handed out. -/
structure FreeList (t : BitTrie α) (slots : List Nat) : Prop where
  chain : t.Chain t.free slots
  distinct : slots.Nodup
  counted : slots.length = t.freeCount
  /-- They are the slots that no bit string reaches. -/
  mem_iff : ∀ i, i ∈ slots ↔ i < t.nodes.size ∧ ∀ path, t.slot? path ≠ some i

/-- An accounted arena has a free list, which its head leads through. -/
theorem Sound.exists_freeList (sound : t.Sound) (accounted : t.Accounted) :
    ∃ slots, t.FreeList slots := by
  obtain ⟨slots, chain, distinct, unreached⟩ := sound.chained
  obtain ⟨others, again, counted, covered⟩ := accounted
  obtain rfl := chain.unique again
  refine ⟨slots, chain, distinct, counted, fun i => ⟨unreached i, ?_⟩⟩
  rintro ⟨inside, missed⟩
  rcases covered i inside with member | ⟨path, found⟩
  · exact member
  · exact absurd found (missed path)

/-- A slot that is not free lies on a bit string. -/
theorem FreeList.exists_path {slots : List Nat} (free : t.FreeList slots) {i : Nat}
    (inside : i < t.nodes.size) (taken : i ∉ slots) : ∃ path, t.slot? path = some i := by
  rw [free.mem_iff, not_and, not_forall] at taken
  obtain ⟨path, found⟩ := taken inside
  exact ⟨path, not_not.1 found⟩

/-- No bit string leads to a free slot. -/
theorem FreeList.ne_of_slot? {slots : List Nat} (free : t.FreeList slots) {path : List Bool}
    {i j : Nat} (found : t.slot? path = some i) (member : j ∈ slots) : j ≠ i := by
  rintro rfl
  exact ((free.mem_iff j).1 member).2 path found

/-- Giving a slot another value keeps all slots accounted for. -/
theorem Sound.accounted_setValue (sound : t.Sound) (accounted : t.Accounted) {path : List Bool}
    {i : Nat} (here : t.slot? path = some i) (value : Option α) :
    (t.update i fun node => { node with value }).Accounted := by
  obtain ⟨slots, free⟩ := sound.exists_freeList accounted
  have inside := sound.inside here
  refine ⟨slots, free.chain.congr fun j member => ?_, free.counted, fun j within => ?_⟩
  · rw [node_update t inside, if_neg (free.ne_of_slot? here member)]
  · rw [size_update] at within
    by_cases member : j ∈ slots
    · exact Or.inl member
    · obtain ⟨other, found⟩ := free.exists_path within member
      exact Or.inr ⟨other, by rwa [slot?_setValue inside]⟩

/-- The recorded number of values has no bearing on which slots are accounted for. -/
theorem Accounted.withSize (accounted : t.Accounted) (size : Nat) :
    ({ t with size } : BitTrie α).Accounted := by
  obtain ⟨slots, chain, counted, covered⟩ := accounted
  exact ⟨slots, chain.congr fun _ _ => rfl, counted, covered⟩

section Link

variable {path : List Bool} {parent i : Nat} {bit : Bool}

/-- A new node takes no other one's place. -/
theorem Sound.slot?_link_of_slot? (sound : t.Sound) (here : t.slot? path = some parent)
    (vacant : (t.node parent).child bit = none) {p : List Bool} (found : t.slot? p = some i) :
    (t.link parent bit).2.slot? p = some i := by
  rw [sound.slot?_link here vacant, if_neg]
  · exact found
  · rintro rfl
    rw [slot?_snoc, here, Option.bind_some, vacant] at found
    exact absurd found (by simp)

/-- If no slot is free, a new node takes one behind all others. -/
theorem Sound.accounted_link_of_full (sound : t.Sound) (free : t.FreeList [])
    (here : t.slot? path = some parent) (vacant : (t.node parent).child bit = none) :
    (t.link parent bit).2.Accounted := by
  have full : t.free = none := by
    cases head : t.free with
    | none => rfl
    | some i =>
        have chain := free.chain
        rw [head] at chain
        exact chain.elim
  have fresh : (t.link parent bit).1 = t.nodes.size := by
    simp only [BitTrie.link, BitTrie.alloc, full]
  have last : (t.link parent bit).2.free = none := by
    simp only [BitTrie.link, BitTrie.alloc, full, update]
  have size : (t.link parent bit).2.nodes.size = t.nodes.size + 1 := by
    rw [size_link]
    simp only [BitTrie.alloc, full, Array.size_push]
  have count : (t.link parent bit).2.freeCount = t.freeCount := by
    simp only [BitTrie.link, BitTrie.alloc, full, update]
  refine ⟨[], ?_, free.counted.trans count.symm, fun i inside => Or.inr ?_⟩
  · rw [last]
    trivial
  · rw [size, Nat.lt_succ_iff_lt_or_eq] at inside
    rcases inside with old | rfl
    · obtain ⟨p, found⟩ := free.exists_path old List.not_mem_nil
      exact ⟨p, sound.slot?_link_of_slot? here vacant found⟩
    · refine ⟨path ++ [bit], ?_⟩
      rw [sound.slot?_link here vacant, if_pos rfl, fresh]

/-- Otherwise it takes the first free slot. -/
theorem Sound.accounted_link_of_free (sound : t.Sound) {slots : List Nat}
    (free : t.FreeList (i :: slots)) (here : t.slot? path = some parent)
    (vacant : (t.node parent).child bit = none) : (t.link parent bit).2.Accounted := by
  have head : t.free = some i ∧ t.Chain (t.node i).right slots := by
    have chain := free.chain
    cases first : t.free with
    | none =>
        rw [first] at chain
        exact chain.elim
    | some j =>
        rw [first] at chain
        obtain ⟨rfl, more⟩ := chain
        exact ⟨rfl, more⟩
  have fresh : (t.link parent bit).1 = i := by
    simp only [BitTrie.link, BitTrie.alloc, head.1]
  have next : (t.link parent bit).2.free = (t.node i).right := by
    simp only [BitTrie.link, BitTrie.alloc, head.1, update]
  have size : (t.link parent bit).2.nodes.size = t.nodes.size := by
    rw [size_link]
    simp only [BitTrie.alloc, head.1]
    exact size_update t i _
  have count : (t.link parent bit).2.freeCount = t.freeCount - 1 := by
    simp only [BitTrie.link, BitTrie.alloc, head.1, update]
  refine ⟨slots, ?_, ?_, fun k inside => ?_⟩
  · rw [next]
    refine head.2.congr fun k member => ?_
    rw [sound.node_link here bit, fresh, if_neg,
      if_neg (free.ne_of_slot? here (List.mem_cons_of_mem i member))]
    rintro rfl
    exact (List.nodup_cons.1 free.distinct).1 member
  · rw [count, ← free.counted]
    rfl
  · rw [size] at inside
    -- Only the first free slot becomes a node, and it is the one that is linked.
    by_cases member : k ∈ i :: slots
    · rcases List.mem_cons.1 member with rfl | behind
      · refine Or.inr ⟨path ++ [bit], ?_⟩
        rw [sound.slot?_link here vacant, if_pos rfl, fresh]
      · exact Or.inl behind
    · obtain ⟨p, found⟩ := free.exists_path inside member
      exact Or.inr ⟨p, sound.slot?_link_of_slot? here vacant found⟩

/-- After a child has been linked every slot still lies on a bit string or is free. -/
theorem Sound.accounted_link (sound : t.Sound) (accounted : t.Accounted)
    (here : t.slot? path = some parent) (vacant : (t.node parent).child bit = none) :
    (t.link parent bit).2.Accounted := by
  obtain ⟨slots, free⟩ := sound.exists_freeList accounted
  cases slots with
  | nil => exact sound.accounted_link_of_full free here vacant
  | cons i slots => exact sound.accounted_link_of_free free here vacant

/-- A node that is cut off becomes the first free slot. -/
theorem Sound.accounted_unlink (sound : t.Sound) (accounted : t.Accounted)
    (here : t.slot? (path ++ [bit]) = some i) (above : t.slot? path = some parent)
    (leaf : (t.node i).isLeaf = true) : (t.unlink parent bit i).Accounted := by
  obtain ⟨slots, free⟩ := sound.exists_freeList accounted
  have nodes := node_unlink (sound.inside above) (sound.inside here) bit
  have size : (t.unlink parent bit i).nodes.size = t.nodes.size := by
    simp [BitTrie.unlink, release, size_update]
  refine ⟨i :: slots, ⟨rfl, ?_⟩, congrArg (· + 1) free.counted, fun j inside => ?_⟩
  · rw [nodes, if_pos rfl]
    refine free.chain.congr fun j member => ?_
    rw [nodes, if_neg (free.ne_of_slot? here member), if_neg (free.ne_of_slot? above member)]
  · rw [size] at inside
    by_cases member : j ∈ i :: slots
    · exact Or.inl member
    · rw [List.mem_cons, not_or] at member
      obtain ⟨p, found⟩ := free.exists_path inside member.2
      refine Or.inr ⟨p, ?_⟩
      rw [sound.slot?_unlink here above leaf, if_neg]
      · exact found
      · rintro rfl
        exact member.1 (Option.some.inj (found.symm.trans here))

end Link

/-! ### Nodes with a purpose -/

/-- Every slot is a node or free, and each node but the root bears a value. -/
structure Compact (t : BitTrie α) : Prop extends Sound t where
  accounted : t.Accounted
  fruitful : ∀ {path}, (t.slot? path).isSome = true → path ≠ [] → t.Bears path

/-- The empty trie is compact. -/
theorem compact_empty : Compact ({} : BitTrie α) := by
  refine ⟨sound_empty, accounted_empty, fun {path} reached nonempty => ?_⟩
  cases path using List.reverseRecOn with
  | nil => exact absurd rfl nonempty
  | append_singleton path bit =>
      rw [slot?_snoc, Option.isSome_iff_exists] at reached
      obtain ⟨i, found⟩ := reached
      obtain ⟨j, -, link⟩ := Option.bind_eq_some_iff.1 found
      cases j <;> cases bit <;> exact absurd link (by simp [node, TrieNode.child])

/-- Growing reaches the starts of the new bit string besides what was reached. -/
theorem Sound.accounted_grow (sound : t.Sound) (accounted : t.Accounted) {path : List Bool}
    {i : Nat} (here : t.slot? path = some i) (bits : List Bool)
    (vacant : ∀ bit ∈ bits.head?, (t.node i).child bit = none) :
    (t.grow i bits).2.Accounted ∧ ∀ other, ((t.grow i bits).2.slot? other).isSome = true →
      (t.slot? other).isSome = true ∨ other <+: path ++ bits := by
  induction bits generalizing t path i with
  | nil => exact ⟨accounted, fun other reached => Or.inl reached⟩
  | cons bit bits ih =>
      have open_ := vacant bit rfl
      have reached := sound.slot?_link here open_
      have found : (t.link i bit).2.slot? (path ++ [bit]) = some (t.link i bit).1 := by
        rw [reached, if_pos rfl]
      obtain ⟨kept, starts⟩ := ih (sound.link here open_)
        (sound.accounted_link accounted here open_) found (by
          intro c _
          rw [sound.node_link here bit, if_pos rfl]
          cases c <;> rfl)
      rw [grow_cons]
      refine ⟨kept, fun other there => ?_⟩
      rw [List.append_assoc, List.singleton_append] at starts
      rcases starts other there with before | start
      · rw [reached] at before
        split at before
        · next same => exact Or.inr ⟨bits, by rw [same, List.append_assoc]; rfl⟩
        · exact Or.inl before
      · exact Or.inr start

/-- Inserting a value keeps a trie compact: the slots that are linked for it bear it. -/
theorem Compact.insert (compact : t.Compact) (path : List Bool) (value : α) :
    (t.insert path value).Compact := by
  obtain ⟨sound, values⟩ := compact.toSound.insert path value
  obtain ⟨taken, rest, i, descent, rfl, found, stuck⟩ := descend_spec (slot?_nil t) path
  rw [List.nil_append] at found
  obtain ⟨grown, reached, -⟩ := compact.toSound.grow found rest stuck
  obtain ⟨accounted, starts⟩ := compact.toSound.accounted_grow compact.accounted found rest stuck
  refine ⟨sound, ?_, fun {other} there nonempty => ?_⟩
  · simp only [BitTrie.insert, descent]
    exact (grown.accounted_setValue accounted reached (some value)).withSize _
  · have before : ((t.grow i rest).2.slot? other).isSome = true := by
      simp only [BitTrie.insert, descent] at there
      rw [← slot?_setValue (grown.inside reached) (some value)]
      exact there
    rcases starts other before with old | start
    · obtain ⟨more, kept⟩ := compact.fruitful old nonempty
      refine ⟨more, ?_⟩
      rw [values]
      split
      · rfl
      · exact kept
    · refine (bears_of_valueAt ?_).start start
      rw [values, if_pos rfl]
      rfl

/-! ### Pruning -/

/-- Each node but the root bears a value or lies on the way to a bit string. -/
def BearsBeside (t : BitTrie α) (path : List Bool) : Prop :=
  ∀ other, (t.slot? other).isSome = true → other ≠ [] → t.Bears other ∨ other <+: path

/-- If the last node of the way bears a value, so does every node but the root. -/
theorem BearsBeside.fruitful {path : List Bool} (beside : t.BearsBeside path)
    (last : path ≠ [] → t.Bears path) {other : List Bool}
    (reached : (t.slot? other).isSome = true) (nonempty : other ≠ []) : t.Bears other := by
  rcases beside other reached nonempty with bears | start
  · exact bears
  · refine (last ?_).start start
    rintro rfl
    exact nonempty (List.prefix_nil.1 start)

/-- Cutting off the last node without a value leaves the nodes above it on the way. -/
theorem BearsBeside.unlink (sound : t.Sound) {path : List Bool} {parent i : Nat} {bit : Bool}
    (beside : t.BearsBeside (path ++ [bit])) (here : t.slot? (path ++ [bit]) = some i)
    (above : t.slot? path = some parent) (leaf : (t.node i).isLeaf = true)
    (empty : (t.node i).value = none) : (t.unlink parent bit i).BearsBeside path := by
  intro other reached nonempty
  rw [sound.slot?_unlink here above leaf] at reached
  split at reached
  · exact absurd reached (by simp)
  · next different =>
      rcases beside other reached nonempty with bears | start
      · exact Or.inl (bears.of_same (sound.valueAt_unlink here above leaf empty))
      · exact Or.inr ((List.prefix_concat_iff.1 start).resolve_left different)

/-- A node with a child bears what the child bears. -/
theorem BearsBeside.bears_of_branch {path : List Bool} {i : Nat} (beside : t.BearsBeside path)
    (here : t.slot? path = some i) (branch : ¬ (t.node i).isLeaf = true) : t.Bears path := by
  rw [TrieNode.isLeaf_iff, not_forall] at branch
  obtain ⟨bit, child⟩ := branch
  have reached : (t.slot? (path ++ [bit])).isSome = true := by
    rw [slot?_snoc, here, Option.bind_some, Option.isSome_iff_ne_none]
    exact child
  rcases beside _ reached (by simp) with bears | start
  · exact bears.start (List.prefix_append _ _)
  · have longer := start.length_le
    rw [List.length_append] at longer
    exact absurd longer (Nat.not_succ_le_self _)

/-- Every node but the root knows one above it. -/
theorem Sound.isSome_parent (sound : t.Sound) {path : List Bool} {i : Nat}
    (here : t.slot? path = some i) (nonempty : path ≠ []) : (t.node i).parent.isSome = true := by
  cases path using List.reverseRecOn with
  | nil => exact absurd rfl nonempty
  | append_singleton path bit =>
      obtain ⟨j, above, -⟩ := Option.bind_eq_some_iff.1 (slot?_snoc t path bit ▸ here)
      rw [sound.upward above here]
      rfl

/-- Pruning takes away the nodes without purpose. -/
theorem Compact.prune (sound : t.Sound) (accounted : t.Accounted) {path : List Bool} {i : Nat}
    (beside : t.BearsBeside path) (here : t.slot? path = some i)
    (leaf : (t.node i).isLeaf = true) (empty : (t.node i).value = none) {depth : Nat}
    (deep : path.length ≤ depth) : (t.prune i depth).Compact := by
  -- The induction goes up the path. What was on the way to a node is, once that is cut off, on the
  -- way to the one above it, until one of these has a value, a child or nothing above.
  induction path using List.reverseRecOn generalizing t i depth with
  | nil =>
      have stays : t.prune i depth = t := by
        obtain rfl := Option.some.inj here
        cases depth with
        | zero => rfl
        | succ depth => rw [BitTrie.prune, sound.top]
      rw [stays]
      exact ⟨sound, accounted, beside.fruitful fun nonempty => absurd rfl nonempty⟩
  | append_singleton path bit ih =>
      obtain ⟨parent, above, -⟩ := Option.bind_eq_some_iff.1 (slot?_snoc t path bit ▸ here)
      cases depth with
      | zero => exact absurd deep (by simp)
      | succ depth =>
          have cut := sound.unlink here above leaf
          have counted := sound.accounted_unlink accounted here above leaf
          have rest := beside.unlink sound here above leaf empty
          have found : (t.unlink parent bit i).slot? path = some parent := by
            rw [sound.slot?_unlink here above leaf, if_neg (by simp), above]
          rw [prune_succ (sound.upward above here), sound.right_eq_iff here above]
          dsimp only
          split
          · next bare =>
              simp only [Bool.and_eq_true, Option.isNone_iff_eq_none] at bare
              rw [List.length_append, List.length_singleton] at deep
              exact ih cut counted rest found bare.1.1 bare.1.2 (Nat.le_of_succ_le_succ deep)
          · next stop =>
              refine ⟨cut, counted, rest.fruitful fun nonempty => ?_⟩
              by_cases branch : ((t.unlink parent bit i).node parent).isLeaf = true
              · -- It is no root, so it must have a value.
                have up := cut.isSome_parent found nonempty
                apply bears_of_valueAt
                rw [valueAt, found, Option.bind_some]
                simpa [branch, up, ← Option.isSome_iff_ne_none] using stop
              · exact rest.bears_of_branch found branch

/-- Clearing a value leaves the nodes on the way to it without purpose at most. -/
theorem Compact.bearsBeside_setValue (compact : t.Compact) {path : List Bool} {i : Nat}
    (here : t.slot? path = some i) :
    (t.update i fun node => { node with value := none }).BearsBeside path := by
  intro other reached nonempty
  rw [slot?_setValue (compact.toSound.inside here)] at reached
  obtain ⟨more, kept⟩ := compact.fruitful reached nonempty
  by_cases same : other ++ more = path
  · exact Or.inr ⟨more, same⟩
  · refine Or.inl ⟨more, ?_⟩
    rwa [compact.toSound.valueAt_setValue here, if_neg same]

/-- Erasing a value keeps a trie compact: what bears nothing else is cut off. -/
theorem Compact.erase (compact : t.Compact) (path : List Bool) : (t.erase path).2.Compact := by
  obtain ⟨taken, rest, i, descent, rfl, found, -⟩ := descend_spec (slot?_nil t) path
  rw [List.nil_append] at found
  cases rest with
  | cons bit rest =>
      simp only [BitTrie.erase, descent]
      exact compact
  | nil =>
      rw [List.append_nil] at descent ⊢
      simp only [BitTrie.erase, descent]
      split
      · exact compact
      · have sound := compact.toSound
        have inside := sound.inside found
        have cleared := (sound.setValue found none).withSize (t.size - 1)
        have unvalued := sound.accounted_setValue compact.accounted found none
        have counted := unvalued.withSize (t.size - 1)
        have beside : ({ t.update i fun node => { node with value := none } with
            size := t.size - 1 } : BitTrie α).BearsBeside taken :=
          compact.bearsBeside_setValue found
        have here : ({ t.update i fun node => { node with value := none } with
            size := t.size - 1 } : BitTrie α).slot? taken = some i :=
          (slot?_setValue inside none taken).trans found
        -- The root stays, and so does a node that has a child; any other one is cut off.
        split
        · next stay =>
            refine ⟨cleared, counted, beside.fruitful fun nonempty => ?_⟩
            rcases stay with rfl | branch
            · exact absurd (sound.apart found (slot?_nil t)) nonempty
            · exact beside.bears_of_branch here (by simpa using branch)
        · next gone =>
            rw [not_or, Bool.not_eq_true, Bool.not_eq_false'] at gone
            refine Compact.prune cleared counted beside here gone.2 ?_ (Nat.le_refl _)
            exact congrArg TrieNode.value ((node_update t inside _ i).trans (if_pos rfl))

/-! ### Counting nodes -/

/-- A bit string leads to a node exactly if it is empty or bears a value. -/
theorem Compact.isSome_slot?_iff (compact : t.Compact) {path : List Bool} :
    (t.slot? path).isSome = true ↔ path = [] ∨ t.Bears path := by
  constructor
  · intro reached
    by_cases empty : path = []
    · exact Or.inl empty
    · exact Or.inr (compact.fruitful reached empty)
  · rintro (rfl | bears)
    · rfl
    · exact isSome_slot?_of_bears bears

/-- The nodes are the bit strings that are empty or bear a value. -/
theorem Compact.nodeCount_eq (compact : t.Compact) :
    t.nodeCount = {path | path = [] ∨ t.Bears path}.ncard := by
  obtain ⟨slots, free⟩ := compact.toSound.exists_freeList compact.accounted
  have nodes : {path | path = [] ∨ t.Bears path} = {path | (t.slot? path).isSome = true} :=
    Set.ext fun path => compact.isSome_slot?_iff.symm
  -- Nodes and bit strings that lead to them are counted alike, one for one.
  have single : Set.InjOn (fun path => (t.slot? path).getD 0)
      {path | (t.slot? path).isSome = true} := by
    intro path reached other again same
    obtain ⟨i, found⟩ := Option.isSome_iff_exists.1 reached
    obtain ⟨j, also⟩ := Option.isSome_iff_exists.1 again
    simp only [found, also, Option.getD_some] at same
    exact compact.toSound.apart found (same ▸ also)
  have image : (fun path => (t.slot? path).getD 0) '' {path | (t.slot? path).isSome = true} =
      ↑(Finset.range t.nodes.size \ slots.toFinset) := by
    ext i
    rw [Finset.mem_coe, Finset.mem_sdiff, Finset.mem_range, List.mem_toFinset]
    constructor
    · rintro ⟨path, reached, rfl⟩
      obtain ⟨i, found⟩ := Option.isSome_iff_exists.1 reached
      dsimp only
      rw [found, Option.getD_some]
      exact ⟨compact.toSound.inside found, fun member => free.ne_of_slot? found member rfl⟩
    · rintro ⟨inside, taken⟩
      obtain ⟨path, found⟩ := free.exists_path inside taken
      exact ⟨path, Option.isSome_iff_exists.2 ⟨i, found⟩, by dsimp only; rw [found]; rfl⟩
  have within : slots.toFinset ⊆ Finset.range t.nodes.size := fun i member =>
    Finset.mem_range.2 ((free.mem_iff i).1 (List.mem_toFinset.1 member)).1
  rw [nodes, ← single.ncard_image, image, Set.ncard_coe_finset,
    Finset.card_sdiff_of_subset within, Finset.card_range,
    List.toFinset_card_of_nodup free.distinct, free.counted, nodeCount]

/-- Tries that keep values at the same bit strings have equally many nodes. -/
theorem Compact.nodeCount_congr {u : BitTrie α} (first : t.Compact) (second : u.Compact)
    (same : ∀ path, (t.valueAt path).isSome = (u.valueAt path).isSome) :
    t.nodeCount = u.nodeCount := by
  rw [first.nodeCount_eq, second.nodeCount_eq]
  simp only [Bears, same]

end BitTrie

end ClusterGateway
