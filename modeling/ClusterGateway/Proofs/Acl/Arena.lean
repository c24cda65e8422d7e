import ClusterGateway.Acl.Trie
import Mathlib.Data.List.Induction

/-! # The trie behaves as a map

Whatever is done to a trie, it keeps a value at those bit strings alone at which one was put and not
taken out since. The argument rests on three facts about the arena: no slot is reached by two bit
strings, each node knows the one above it, and the chain of free slots runs through slots that no
bit string reaches.
-/

namespace ClusterGateway

namespace TrieNode

variable {α : Type}

/-- A node whose child was exchanged on one side has the new child there and the old one on the
other. -/
theorem child_withChild (node : TrieNode α) (bit other : Bool) (link : Option Nat) :
    (node.withChild bit link).child other = if other = bit then link else node.child other := by
  cases bit <;> cases other <;> rfl

theorem parent_withChild (node : TrieNode α) (bit : Bool) (link : Option Nat) :
    (node.withChild bit link).parent = node.parent := by cases bit <;> rfl

theorem value_withChild (node : TrieNode α) (bit : Bool) (link : Option Nat) :
    (node.withChild bit link).value = node.value := by cases bit <;> rfl

theorem isLeaf_iff {node : TrieNode α} : node.isLeaf = true ↔ ∀ bit, node.child bit = none := by
  simp [isLeaf, child]

end TrieNode

namespace BitTrie

variable {α : Type} {t : BitTrie α}

/-! ### Slots -/

/-- The slot of the node of a bit string. -/
def slot? (t : BitTrie α) (path : List Bool) : Option Nat :=
  path.foldlM (fun i bit => (t.node i).child bit) 0

/-- The value kept at a bit string. -/
def valueAt (t : BitTrie α) (path : List Bool) : Option α :=
  (t.slot? path).bind fun i => (t.node i).value

theorem slot?_nil (t : BitTrie α) : t.slot? [] = some 0 := rfl

/-- A bit string leads where its last bit leads from the slot before it. -/
theorem slot?_snoc (t : BitTrie α) (path : List Bool) (bit : Bool) :
    t.slot? (path ++ [bit]) = (t.slot? path).bind fun i => (t.node i).child bit := by
  simp [slot?, List.foldlM_append]

/-- The empty trie has no values. -/
theorem valueAt_empty (path : List Bool) : ({} : BitTrie α).valueAt path = none := by
  rw [valueAt, Option.bind_eq_none_iff]
  intro i _
  cases i <;> rfl

/-- Changing one slot changes what is in that slot and nothing else. -/
theorem node_update (t : BitTrie α) {i : Nat} (inside : i < t.nodes.size)
    (f : TrieNode α → TrieNode α) (j : Nat) :
    (t.update i f).node j = if j = i then f (t.node i) else t.node j := by
  simp only [node, update, Array.getD_eq_getD_getElem?, Array.getElem?_modify]
  by_cases same : j = i
  · subst same
    simp [inside]
  · simp [same, Ne.symm same]

theorem size_update (t : BitTrie α) (i : Nat) (f : TrieNode α → TrieNode α) :
    (t.update i f).nodes.size = t.nodes.size := by simp [update]

/-! ### The chain of free slots -/

/-- The free slots in the order in which they are handed out, from a link on. -/
def Chain (t : BitTrie α) : Option Nat → List Nat → Prop
  | none, [] => True
  | some i, j :: rest => i = j ∧ t.Chain (t.node i).right rest
  | _, _ => False

/-- A chain of free slots stays a chain while its slots keep what is in them. -/
theorem Chain.congr {t u : BitTrie α} {link : Option Nat} {slots : List Nat}
    (chain : t.Chain link slots) (same : ∀ i ∈ slots, u.node i = t.node i) :
    u.Chain link slots := by
  induction slots generalizing link with
  | nil =>
      cases link with
      | none => trivial
      | some i => exact chain.elim
  | cons j rest ih =>
      cases link with
      | none => exact chain.elim
      | some i =>
          obtain ⟨rfl, more⟩ := chain
          refine ⟨rfl, ?_⟩
          rw [same i List.mem_cons_self]
          exact ih more fun k member => same k (List.mem_cons_of_mem i member)

/-- The arena of a trie is in order. -/
structure Sound (t : BitTrie α) : Prop where
  inside : ∀ {path i}, t.slot? path = some i → i < t.nodes.size
  /-- A slot is reached by one bit string only. -/
  apart : ∀ {path other i}, t.slot? path = some i → t.slot? other = some i → path = other
  /-- A node knows the one above it. -/
  upward : ∀ {path bit i j}, t.slot? path = some i → t.slot? (path ++ [bit]) = some j →
    (t.node j).parent = some i
  top : (t.node 0).parent = none
  /-- The free slots form a chain, lie inside the arena and are not reached. -/
  chained : ∃ slots, t.Chain t.free slots ∧ slots.Nodup ∧
    ∀ i ∈ slots, i < t.nodes.size ∧ ∀ path, t.slot? path ≠ some i

/-- The empty trie is in order. -/
theorem sound_empty : Sound ({} : BitTrie α) := by
  have below (path : List Bool) (i : Nat) (found : ({} : BitTrie α).slot? path = some i) :
      path = [] ∧ i = 0 := by
    cases path using List.reverseRecOn with
    | nil => exact ⟨rfl, (Option.some.inj found).symm⟩
    | append_singleton path bit =>
        rw [slot?_snoc, Option.bind_eq_some_iff] at found
        obtain ⟨j, _, link⟩ := found
        have none : (({} : BitTrie α).node j).child bit = .none := by
          cases j <;> cases bit <;> rfl
        rw [none] at link
        exact absurd link (by simp)
  refine ⟨?_, ?_, ?_, rfl, [], trivial, List.nodup_nil, by simp⟩
  · intro path i found
    rw [(below path i found).2]
    exact Nat.zero_lt_one
  · intro path other i found again
    rw [(below path i found).1, (below other i again).1]
  · intro path bit i j _ found
    exact absurd (below _ j found).1 (by simp)

/-! ### Values -/

/-- A value does not matter to the order of the arena. -/
theorem slot?_setValue {i : Nat} (inside : i < t.nodes.size) (value : Option α)
    (path : List Bool) :
    (t.update i fun node => { node with value }).slot? path = t.slot? path := by
  induction path using List.reverseRecOn with
  | nil => rfl
  | append_singleton path bit ih =>
      rw [slot?_snoc, slot?_snoc, ih]
      congr 1
      funext j
      rw [node_update t inside]
      split
      · next same =>
          subst same
          rfl
      · rfl

/-- Giving a slot that a bit string leads to another value keeps the arena in order. -/
theorem Sound.setValue (sound : t.Sound) {path : List Bool} {i : Nat}
    (here : t.slot? path = some i) (value : Option α) :
    (t.update i fun node => { node with value }).Sound := by
  have inside := sound.inside here
  have slots := slot?_setValue inside value
  have parents (j : Nat) :
      ((t.update i fun node => { node with value }).node j).parent = (t.node j).parent := by
    rw [node_update t inside]
    split
    · next same =>
        subst same
        rfl
    · rfl
  obtain ⟨free, chain, distinct, unreached⟩ := sound.chained
  refine ⟨?_, ?_, ?_, (parents 0).trans sound.top, free, ?_, distinct, ?_⟩
  · intro other j found
    rw [size_update]
    exact sound.inside ((slots other).symm.trans found)
  · intro p q j found again
    exact sound.apart ((slots p).symm.trans found) ((slots q).symm.trans again)
  · intro p bit j k found below
    rw [parents]
    exact sound.upward ((slots p).symm.trans found) ((slots _).symm.trans below)
  · refine chain.congr fun j member => ?_
    rw [node_update t inside, if_neg]
    rintro rfl
    exact (unreached j member).2 path here
  · intro j member
    rw [size_update]
    exact ⟨(unreached j member).1, fun other => slots other ▸ (unreached j member).2 other⟩

/-- Giving a slot that a bit string leads to another value changes the value at this bit string
only. -/
theorem Sound.valueAt_setValue (sound : t.Sound) {path : List Bool} {i : Nat}
    (here : t.slot? path = some i) (value : Option α) (other : List Bool) :
    (t.update i fun node => { node with value }).valueAt other =
      if other = path then value else t.valueAt other := by
  have inside := sound.inside here
  rw [valueAt, slot?_setValue inside]
  split
  · next same =>
      subst same
      rw [here, Option.bind_some, node_update t inside, if_pos rfl]
  · next different =>
      rw [valueAt]
      cases found : t.slot? other with
      | none => rfl
      | some j =>
          rw [Option.bind_some, Option.bind_some, node_update t inside, if_neg]
          rintro rfl
          exact different (sound.apart found here)

/-- The recorded number of values has no bearing on the order of the arena. -/
theorem Sound.withSize (sound : t.Sound) (size : Nat) : ({ t with size } : BitTrie α).Sound := by
  obtain ⟨free, chain, distinct, unreached⟩ := sound.chained
  exact ⟨sound.inside, sound.apart, sound.upward, sound.top, free, chain.congr fun _ _ => rfl,
    distinct, unreached⟩

/-! ### Descending -/

/-- A descent follows the bits as long as there are children, and says where it stops and which bits
are left. -/
theorem descend_spec {path : List Bool} {i : Nat} (here : t.slot? path = some i)
    (bits : List Bool) :
    ∃ taken rest j, t.descend i bits = (j, rest) ∧ bits = taken ++ rest ∧
      t.slot? (path ++ taken) = some j ∧ ∀ bit ∈ rest.head?, (t.node j).child bit = none := by
  induction bits generalizing path i with
  | nil => exact ⟨[], [], i, rfl, rfl, by simpa using here, by simp⟩
  | cons bit bits ih =>
      rw [descend]
      cases link : (t.node i).child bit with
      | none => exact ⟨[], bit :: bits, i, rfl, rfl, by simpa using here, by simpa using link⟩
      | some next =>
          have below : t.slot? (path ++ [bit]) = some next := by
            rw [slot?_snoc, here, Option.bind_some, link]
          obtain ⟨taken, rest, j, descent, split, found, stuck⟩ := ih below
          refine ⟨bit :: taken, rest, j, descent, by rw [split, List.cons_append], ?_, stuck⟩
          rwa [List.append_assoc, List.singleton_append] at found

/-! ### Changing one child -/

/-- A link that is set to a leaf, or cut above one, changes where one bit string leads. -/
theorem Sound.slot?_withChild (sound : t.Sound) {u : BitTrie α} {path : List Bool} {parent : Nat}
    {bit : Bool} {child : Option Nat} (above : t.slot? path = some parent)
    (last : ∀ c, t.slot? (path ++ [bit] ++ [c]) = none)
    (leaf : ∀ i ∈ child, (u.node i).isLeaf = true)
    (nodes : ∀ {p j}, t.slot? p = some j → p ≠ path ++ [bit] →
      u.node j = if j = parent then (t.node parent).withChild bit child else t.node j)
    (other : List Bool) :
    u.slot? other = if other = path ++ [bit] then child else t.slot? other := by
  -- A bit string is followed from its end, so that the changed link is met once at most.
  induction other using List.reverseRecOn with
  | nil => rw [if_neg (by simp)]; rfl
  | append_singleton other c ih =>
      rw [slot?_snoc, ih]
      by_cases top : other = path ++ [bit]
      · subst top
        rw [if_pos rfl, if_neg (by simp), last]
        cases child with
        | none => rfl
        | some i => exact TrieNode.isLeaf_iff.1 (leaf i rfl) c
      · rw [if_neg top, slot?_snoc]
        cases found : t.slot? other with
        | none =>
            rw [if_neg]
            · rfl
            · intro same
              rw [(List.append_inj' same rfl).1, above] at found
              exact absurd found (by simp)
        | some j =>
            rw [Option.bind_some, Option.bind_some, nodes found top]
            by_cases at_ : j = parent
            · subst at_
              obtain rfl := sound.apart found above
              rw [if_pos rfl, TrieNode.child_withChild]
              simp
            · rw [if_neg at_, if_neg]
              intro same
              rw [(List.append_inj' same rfl).1, above] at found
              exact at_ (Option.some.inj found).symm

/-! ### Growing -/

/-- What handing out a slot does: the slot becomes a node below `parent`, no bit string reaches it,
and the rest of the arena stays. -/
structure Allocated (t : BitTrie α) (parent fresh : Nat) (u : BitTrie α) : Prop where
  node_fresh : u.node fresh = { parent := some parent }
  node_other : ∀ {i}, i ≠ fresh → u.node i = t.node i
  inside : fresh < u.nodes.size
  grows : t.nodes.size ≤ u.nodes.size
  unreached : ∀ path, t.slot? path ≠ some fresh
  /-- The other free slots are still chained. -/
  chained : ∃ slots, u.Chain u.free slots ∧ slots.Nodup ∧
    ∀ i ∈ slots, i ≠ fresh ∧ i < u.nodes.size ∧ ∀ path, t.slot? path ≠ some i

/-- Taking a slot from the free list, or a new one at the end, gives a blank slot under a parent and
leaves the others alone. -/
theorem Sound.alloc (sound : t.Sound) (parent : Nat) :
    t.Allocated parent (t.alloc parent).1 (t.alloc parent).2 := by
  obtain ⟨slots, chain, distinct, unreached⟩ := sound.chained
  -- With no slot free the arena grows; else the first free slot is taken.
  cases free : t.free with
  | none =>
      have nodes (i : Nat) : (t.alloc parent).2.node i =
          if i = t.nodes.size then { parent := some parent } else t.node i := by
        simp only [BitTrie.alloc, free, node, Array.getD_eq_getD_getElem?, Array.getElem?_push]
        split <;> rfl
      have slot : (t.alloc parent).1 = t.nodes.size := by simp only [BitTrie.alloc, free]
      have size : (t.alloc parent).2.nodes.size = t.nodes.size + 1 := by
        simp only [BitTrie.alloc, free, Array.size_push]
      have last : (t.alloc parent).2.free = none := by simp only [BitTrie.alloc, free]
      refine ⟨?_, ?_, by omega, by omega, ?_, [], ?_, List.nodup_nil, by simp⟩
      · rw [nodes, if_pos slot]
      · intro i other
        rw [nodes, if_neg (slot ▸ other)]
      · intro path found
        exact Nat.lt_irrefl _ (slot ▸ sound.inside found)
      · rw [last]
        trivial
  | some i =>
      cases slots with
      | nil =>
          rw [free] at chain
          exact chain.elim
      | cons j rest =>
          rw [free] at chain
          obtain ⟨rfl, more⟩ := chain
          rw [List.nodup_cons] at distinct
          have inside := (unreached i List.mem_cons_self).1
          have nodes (j : Nat) := node_update t inside (fun _ => { parent := some parent }) j
          simp only [BitTrie.alloc, free]
          refine ⟨?_, ?_, ?_, ?_, (unreached i List.mem_cons_self).2, rest, ?_, distinct.2, ?_⟩
          · exact (nodes i).trans (if_pos rfl)
          · intro j other
            exact (nodes j).trans (if_neg other)
          · exact (size_update t i _).symm ▸ inside
          · exact Nat.le_of_eq (size_update t i _).symm
          · refine more.congr fun k member => (nodes k).trans (if_neg ?_)
            rintro rfl
            exact distinct.1 member
          · intro k member
            refine ⟨?_, (size_update t i _).symm ▸ (unreached k (List.mem_cons_of_mem i member)).1,
              (unreached k (List.mem_cons_of_mem i member)).2⟩
            rintro rfl
            exact distinct.1 member

/-- A trie with one more node, below the node of a bit string. -/
def link (t : BitTrie α) (parent : Nat) (bit : Bool) : Nat × BitTrie α :=
  let (fresh, t) := t.alloc parent
  (fresh, t.update parent (·.withChild bit (some fresh)))

section Link

variable {path : List Bool} {parent : Nat} {bit : Bool}

/-- What is in the slots after a child has been linked: the parent has it, the child is blank, and
all else is as before. -/
theorem Sound.node_link (sound : t.Sound) (here : t.slot? path = some parent) (bit : Bool)
    (i : Nat) :
    (t.link parent bit).2.node i =
      if i = (t.link parent bit).1 then { parent := some parent }
      else if i = parent then (t.node parent).withChild bit (some (t.link parent bit).1)
      else t.node i := by
  have fresh := sound.alloc parent
  have inside := Nat.lt_of_lt_of_le (sound.inside here) fresh.grows
  have apart : parent ≠ (t.alloc parent).1 := fun same =>
    fresh.unreached path (same ▸ here)
  simp only [link, node_update _ inside]
  split
  · next same =>
      subst same
      rw [if_neg apart, fresh.node_other apart]
  · split
    · next same =>
        subst same
        exact fresh.node_fresh
    · next other => exact fresh.node_other other

/-- The new node is reached by the bit string that leads to it and by no longer one. -/
theorem Sound.slot?_link (sound : t.Sound) (here : t.slot? path = some parent)
    (vacant : (t.node parent).child bit = none) (other : List Bool) :
    (t.link parent bit).2.slot? other =
      if other = path ++ [bit] then some (t.link parent bit).1 else t.slot? other := by
  have nodes := sound.node_link here bit
  have unreached : ∀ p, t.slot? p ≠ some (t.link parent bit).1 := (sound.alloc parent).unreached
  refine sound.slot?_withChild here (fun c => ?_) (fun i fresh => ?_)
    (fun {p j} found _ => ?_) other
  · rw [slot?_snoc, slot?_snoc, here, Option.bind_some, vacant, Option.bind_none]
  · rw [← Option.mem_some_iff.1 fresh, nodes, if_pos rfl]
    rfl
  · rw [nodes, if_neg]
    rintro rfl
    exact unreached p found

theorem size_link (t : BitTrie α) (parent : Nat) (bit : Bool) :
    (t.link parent bit).2.nodes.size = (t.alloc parent).2.nodes.size := by
  rw [link, size_update]

/-- Linking a child where there is none keeps the arena in order. -/
theorem Sound.link (sound : t.Sound) (here : t.slot? path = some parent)
    (vacant : (t.node parent).child bit = none) : (t.link parent bit).2.Sound := by
  have fresh := sound.alloc parent
  have nodes := sound.node_link here bit
  have slots := sound.slot?_link here vacant
  have unreached : ∀ p, t.slot? p ≠ some (t.link parent bit).1 := fresh.unreached
  -- The new slot was free, so the only way to it is through the link.
  have below {p : List Bool} {i : Nat} (found : t.slot? p = some i) :
      i ≠ (t.link parent bit).1 := fun same => unreached p (same ▸ found)
  have parents {i : Nat} (other : i ≠ (t.link parent bit).1) :
      ((t.link parent bit).2.node i).parent = (t.node i).parent := by
    rw [nodes, if_neg other]
    split
    · next same =>
        subst same
        exact TrieNode.parent_withChild _ _ _
    · rfl
  obtain ⟨free, chain, distinct, apart⟩ := fresh.chained
  refine ⟨?_, ?_, ?_, ?_, free, ?_, distinct, ?_⟩
  · intro p i found
    rw [size_link]
    rw [slots] at found
    split at found
    · exact Option.some.inj found ▸ fresh.inside
    · exact Nat.lt_of_lt_of_le (sound.inside found) fresh.grows
  · intro p q i found again
    rw [slots] at found again
    split at found <;> split at again
    · next first second => rw [first, second]
    · exact absurd (Option.some.inj found).symm (below again)
    · exact absurd (Option.some.inj again).symm (below found)
    · exact sound.apart found again
  · intro p c i j found next
    rw [slots] at found next
    split at next
    · next same =>
        obtain ⟨rfl, -⟩ := List.append_inj' same rfl
        rw [if_neg (by simp), here] at found
        rw [← Option.some.inj next, nodes, if_pos rfl, found]
    · rw [parents (below next)]
      split at found
      · next same =>
          subst same
          rw [slot?_snoc, slot?_snoc, here, Option.bind_some, vacant] at next
          exact absurd next (by simp)
      · exact sound.upward found next
  · rw [parents (below (slot?_nil t))]
    exact sound.top
  · refine chain.congr fun i member => ?_
    rw [BitTrie.link, node_update _ (Nat.lt_of_lt_of_le (sound.inside here) fresh.grows), if_neg]
    rintro rfl
    exact (apart i member).2.2 path here
  · intro i member
    rw [size_link]
    refine ⟨(apart i member).2.1, fun p found => ?_⟩
    rw [slots] at found
    split at found
    · exact (apart i member).1 (Option.some.inj found).symm
    · exact (apart i member).2.2 p found

/-- A child that is linked has no value, so the values at all bit strings stay the same. -/
theorem Sound.valueAt_link (sound : t.Sound) (here : t.slot? path = some parent)
    (vacant : (t.node parent).child bit = none) (other : List Bool) :
    (t.link parent bit).2.valueAt other = t.valueAt other := by
  have nodes := sound.node_link here bit
  rw [valueAt, valueAt, sound.slot?_link here vacant]
  split
  · next same =>
      subst same
      rw [Option.bind_some, nodes, if_pos rfl, slot?_snoc, here, Option.bind_some, vacant]
      rfl
  · cases found : t.slot? other with
    | none => rfl
    | some i =>
        rw [Option.bind_some, Option.bind_some, nodes, if_neg]
        · split
          · next same =>
              subst same
              exact TrieNode.value_withChild _ _ _
          · rfl
        · intro same
          exact (sound.alloc parent).unreached other (same ▸ found)

end Link

/-- Growing along a bit string links a child for its first bit and goes on from there. -/
theorem grow_cons (t : BitTrie α) (i : Nat) (bit : Bool) (bits : List Bool) :
    t.grow i (bit :: bits) = (t.link i bit).2.grow (t.link i bit).1 bits := rfl

/-- Growing adds the nodes that lead to a bit string and keeps all values. -/
theorem Sound.grow (sound : t.Sound) {path : List Bool} {i : Nat} (here : t.slot? path = some i)
    (bits : List Bool) (vacant : ∀ bit ∈ bits.head?, (t.node i).child bit = none) :
    (t.grow i bits).2.Sound ∧ (t.grow i bits).2.slot? (path ++ bits) = some (t.grow i bits).1 ∧
      ∀ other, (t.grow i bits).2.valueAt other = t.valueAt other := by
  induction bits generalizing t path i with
  | nil => exact ⟨sound, by simpa [BitTrie.grow] using here, fun _ => rfl⟩
  | cons bit bits ih =>
      have open_ := vacant bit rfl
      have found : (t.link i bit).2.slot? (path ++ [bit]) = some (t.link i bit).1 := by
        rw [sound.slot?_link here open_, if_pos rfl]
      obtain ⟨kept, reached, values⟩ := ih (sound.link here open_) found (by
        intro c _
        rw [sound.node_link here bit, if_pos rfl]
        cases c <;> rfl)
      rw [grow_cons]
      refine ⟨kept, ?_, fun other => ?_⟩
      · rwa [List.append_assoc, List.singleton_append] at reached
      · rw [values, sound.valueAt_link here open_]

/-- Keeping a value at a bit string changes what is kept there and nothing else. -/
theorem Sound.insert (sound : t.Sound) (path : List Bool) (value : α) :
    (t.insert path value).Sound ∧ ∀ other, (t.insert path value).valueAt other =
      if other = path then some value else t.valueAt other := by
  obtain ⟨taken, rest, i, descent, rfl, found, stuck⟩ := descend_spec (slot?_nil t) path
  obtain ⟨grown, reached, values⟩ := sound.grow found rest stuck
  simp only [BitTrie.insert, descent]
  refine ⟨(grown.setValue reached (some value)).withSize _, fun other => ?_⟩
  have kept := grown.valueAt_setValue reached (some value) other
  rw [values] at kept
  exact kept

/-! ### Pruning -/

/-- A trie without a node that has no children. -/
def unlink (t : BitTrie α) (parent : Nat) (bit : Bool) (i : Nat) : BitTrie α :=
  (t.update parent (·.withChild bit none)).release i

section Unlink

variable {path : List Bool} {parent i : Nat} {bit : Bool}

/-- What is in the slots after a child has been cut off: its slot heads the free list, its parent
has lost it, and all else is as before. -/
theorem node_unlink (inside : parent < t.nodes.size) (within : i < t.nodes.size) (bit : Bool)
    (j : Nat) :
    (t.unlink parent bit i).node j =
      if j = i then { right := t.free }
      else if j = parent then (t.node parent).withChild bit none
      else t.node j := by
  have size := size_update t parent (·.withChild bit none)
  have released := node_update (t.update parent (·.withChild bit none)) (size ▸ within)
    (fun _ => { right := t.free }) j
  rw [node_update t inside] at released
  exact released

variable (sound : t.Sound) (here : t.slot? (path ++ [bit]) = some i)
  (above : t.slot? path = some parent) (leaf : (t.node i).isLeaf = true)

include sound here above leaf

/-- The node alone is no longer reached. -/
theorem Sound.slot?_unlink (other : List Bool) :
    (t.unlink parent bit i).slot? other =
      if other = path ++ [bit] then none else t.slot? other := by
  have nodes := node_unlink (sound.inside above) (sound.inside here) bit
  refine sound.slot?_withChild above (fun c => ?_) (by simp) (fun {p j} found apart => ?_) other
  · rw [slot?_snoc, here, Option.bind_some, TrieNode.isLeaf_iff.1 leaf]
  · rw [nodes, if_neg]
    rintro rfl
    exact apart (sound.apart found here)

/-- Cutting off a leaf keeps the arena in order. -/
theorem Sound.unlink : (t.unlink parent bit i).Sound := by
  have nodes := node_unlink (sound.inside above) (sound.inside here) bit
  have slots := sound.slot?_unlink here above leaf
  have size : (t.unlink parent bit i).nodes.size = t.nodes.size := by
    simp [BitTrie.unlink, release, size_update]
  have known {p : List Bool} {j : Nat}
      (found : (t.unlink parent bit i).slot? p = some j) : t.slot? p = some j ∧ j ≠ i := by
    rw [slots] at found
    split at found
    · exact absurd found (by simp)
    · next other => exact ⟨found, fun same => other (sound.apart found (same ▸ here))⟩
  have parents {j : Nat} (other : j ≠ i) :
      ((t.unlink parent bit i).node j).parent = (t.node j).parent := by
    rw [nodes, if_neg other]
    split
    · next same =>
        subst same
        exact TrieNode.parent_withChild _ _ _
    · rfl
  obtain ⟨free, chain, distinct, apart⟩ := sound.chained
  -- The slot was reached until now, so it was not free.
  have taken : i ∉ free := fun member => (apart i member).2 _ here
  refine ⟨?_, ?_, ?_, ?_, i :: free, ⟨rfl, ?_⟩, List.nodup_cons.2 ⟨taken, distinct⟩, ?_⟩
  · intro p j found
    rw [size]
    exact sound.inside (known found).1
  · intro p q j found again
    exact sound.apart (known found).1 (known again).1
  · intro p c j k found below
    rw [parents (known below).2]
    exact sound.upward (known found).1 (known below).1
  · rw [parents, sound.top]
    intro same
    have root := sound.apart here (same ▸ slot?_nil t)
    exact absurd root (by simp)
  · rw [nodes, if_pos rfl]
    refine chain.congr fun j member => ?_
    rw [nodes, if_neg, if_neg]
    · rintro rfl
      exact (apart j member).2 path above
    · rintro rfl
      exact taken member
  · intro j member
    rw [size]
    rcases List.mem_cons.1 member with rfl | member
    · exact ⟨sound.inside here, fun p found => (known found).2 rfl⟩
    · exact ⟨(apart j member).1, fun p found => (apart j member).2 p (known found).1⟩

/-- Cutting off a leaf without a value changes no value. -/
theorem Sound.valueAt_unlink (empty : (t.node i).value = none) (other : List Bool) :
    (t.unlink parent bit i).valueAt other = t.valueAt other := by
  have nodes := node_unlink (sound.inside above) (sound.inside here) bit
  rw [valueAt, valueAt, sound.slot?_unlink here above leaf]
  split
  · next same =>
      subst same
      rw [here, Option.bind_some, empty]
      rfl
  · next different =>
      cases found : t.slot? other with
      | none => rfl
      | some j =>
          rw [Option.bind_some, Option.bind_some, nodes, if_neg]
          · split
            · next same =>
                subst same
                exact TrieNode.value_withChild _ _ _
            · rfl
          · rintro rfl
            exact different (sound.apart found here)

end Unlink

/-- The link that pruning cuts is the one that leads to the node. -/
theorem Sound.right_eq_iff (sound : t.Sound) {path : List Bool} {bit : Bool} {parent i : Nat}
    (here : t.slot? (path ++ [bit]) = some i) (above : t.slot? path = some parent) :
    decide ((t.node parent).right = some i) = bit := by
  have link := here
  rw [slot?_snoc, above, Option.bind_some] at link
  cases bit with
  | true => exact decide_eq_true link
  | false =>
      refine decide_eq_false fun same => ?_
      have other : t.slot? (path ++ [true]) = some i := by
        rw [slot?_snoc, above, Option.bind_some]
        exact same
      have equal := sound.apart here other
      simp at equal

/-- Pruning cuts off a bare leaf and goes on with its parent. -/
theorem prune_succ {i parent : Nat} (up : (t.node i).parent = some parent) (depth : Nat) :
    t.prune i (depth + 1) =
      let cut := t.unlink parent (decide ((t.node parent).right = some i)) i
      let above := cut.node parent
      if above.isLeaf && above.value.isNone && above.parent.isSome then cut.prune parent depth
      else cut := by
  rw [prune, up]
  rfl

/-- Pruning takes away nodes without values. -/
theorem Sound.prune (sound : t.Sound) {path : List Bool} {i : Nat} (here : t.slot? path = some i)
    (leaf : (t.node i).isLeaf = true) (empty : (t.node i).value = none) (depth : Nat) :
    (t.prune i depth).Sound ∧ ∀ other, (t.prune i depth).valueAt other = t.valueAt other := by
  -- The depth only bounds the way up. A node that is cut off leaves the one above it a leaf, which
  -- is then the node to start from, in a trie that is sound again.
  induction depth generalizing t path i with
  | zero => exact ⟨sound, fun _ => rfl⟩
  | succ depth ih =>
      cases up : (t.node i).parent with
      | none =>
          rw [BitTrie.prune, up]
          exact ⟨sound, fun _ => rfl⟩
      | some parent =>
          cases path using List.reverseRecOn with
          | nil =>
              have root := Option.some.inj here
              subst root
              rw [sound.top] at up
              exact absurd up (by simp)
          | append_singleton path bit =>
              obtain ⟨j, above, _⟩ := Option.bind_eq_some_iff.1 (slot?_snoc t path bit ▸ here)
              have same := sound.upward above here
              rw [up, Option.some.injEq] at same
              subst same
              have cut := sound.unlink here above leaf
              have values := sound.valueAt_unlink here above leaf empty
              rw [prune_succ up, sound.right_eq_iff here above]
              dsimp only
              split
              · next bare =>
                  simp only [Bool.and_eq_true, Option.isNone_iff_eq_none] at bare
                  have found : (t.unlink parent bit i).slot? path = some parent := by
                    rw [sound.slot?_unlink here above leaf, if_neg (by simp), above]
                  obtain ⟨kept, more⟩ := ih cut found bare.1.1 bare.1.2
                  exact ⟨kept, fun other => (more other).trans (values other)⟩
              · exact ⟨cut, values⟩

/-- Taking a value out succeeds if there is one, and changes what is kept there and nothing else. -/
theorem Sound.erase (sound : t.Sound) (path : List Bool) :
    (t.erase path).1 = (t.valueAt path).isSome ∧ (t.erase path).2.Sound ∧
      ∀ other, (t.erase path).2.valueAt other =
        if other = path then none else t.valueAt other := by
  obtain ⟨taken, rest, i, descent, rfl, found, stuck⟩ := descend_spec (slot?_nil t) path
  rw [List.nil_append] at found
  -- Where the descent does not come to its end there is no value to be taken out.
  cases rest with
  | cons bit rest =>
      have absent : t.valueAt (taken ++ bit :: rest) = none := by
        rw [valueAt, slot?, List.foldlM_append]
        change ((t.slot? taken).bind _).bind _ = none
        rw [found, Option.bind_some, List.foldlM_cons, stuck bit rfl]
        rfl
      simp only [BitTrie.erase, descent]
      refine ⟨by rw [absent]; rfl, sound, fun other => ?_⟩
      split
      · next same => rw [same, absent]
      · rfl
  | nil =>
      rw [List.append_nil] at descent ⊢
      have kept : t.valueAt taken = (t.node i).value := by rw [valueAt, found, Option.bind_some]
      simp only [BitTrie.erase, descent]
      split
      · next bare =>
          rw [Option.isNone_iff_eq_none] at bare
          refine ⟨by rw [kept, bare]; rfl, sound, fun other => ?_⟩
          split
          · next same => rw [same, kept, bare]
          · rfl
      · next full =>
          have present : true = (t.valueAt taken).isSome := by
            rw [kept, eq_comm, Option.isSome_iff_ne_none]
            simpa using full
          have cleared := (sound.setValue found none).withSize (t.size - 1)
          have values := sound.valueAt_setValue found none
          have here : ({ t.update i fun node => { node with value := none } with
              size := t.size - 1 } : BitTrie α).slot? taken = some i :=
            (slot?_setValue (sound.inside found) none taken).trans found
          split
          · exact ⟨present, cleared, values⟩
          · next gone =>
              rw [not_or, Bool.not_eq_true, Bool.not_eq_false'] at gone
              have bare := sound.valueAt_setValue found none taken
              rw [if_pos rfl, valueAt, slot?_setValue (sound.inside found), found,
                Option.bind_some] at bare
              obtain ⟨pruned, more⟩ := cleared.prune here gone.2 bare taken.length
              exact ⟨present, pruned, fun other => (more other).trans (values other)⟩

end BitTrie

end ClusterGateway
