import ClusterGateway.Proofs.Acl.Arena
import Mathlib.Data.List.AList
import Mathlib.Data.List.Infix

/-! # What a trie finds

A search answers with the value at the longest start of a bit string at which a value is kept. With
that and a count of its values a trie is a map from bit strings: whatever was put in and taken out,
it answers as the map does. A word and a mask stand for the bits of the word that the leading ones
of the mask cover.
-/

namespace ClusterGateway

/-! ### Words and masks -/

/-- How many ones stand at the front of a mask. -/
def leadingOnes (mask : UInt32) : Nat := ((bitsOf mask).takeWhile id).length

/-- The bits of a key under a mask, up to the first zero of the mask, are the first bits of the
key. -/
theorem map_takeWhile_zip (bits mask : List Bool) :
    ((bits.zip mask).takeWhile (·.2)).map (·.1) = bits.take (mask.takeWhile id).length := by
  induction bits generalizing mask with
  | nil => rw [List.zip_nil_left, List.take_nil]; rfl
  | cons bit bits ih =>
      cases mask with
      | nil => rfl
      | cons covered mask =>
          cases covered with
          | false => rfl
          | true => simp [ih]

/-- The leading bits of a key under a mask are as many bits of the key as the mask has leading
ones. -/
theorem leadingBits_eq_take (key mask : UInt32) :
    leadingBits key mask = (bitsOf key).take (leadingOnes mask) := map_takeWhile_zip _ _

/-! ### The longest start -/

/-- What is kept at the longest start of a bit string at which something is kept. -/
def longest {α : Type} (kept : List Bool → Option α) : List Bool → Option α
  | [] => kept []
  | bit :: bits => (longest (fun more => kept (bit :: more)) bits).or (kept [])

section Longest

variable {α : Type} {kept : List Bool → Option α} {bits : List Bool}

/-- There is no longest match just if nothing is kept at any start of the bits. -/
theorem longest_eq_none_iff : longest kept bits = none ↔ ∀ path, path <+: bits → kept path = none := by
  induction bits generalizing kept with
  | nil => simp [longest]
  | cons bit bits ih =>
      rw [longest, Option.or_eq_none_iff, ih]
      constructor
      · rintro ⟨longer, here⟩ path start
        rcases List.prefix_cons_iff.1 start with rfl | ⟨more, rfl, shorter⟩
        · exact here
        · exact longer more shorter
      · intro all
        exact ⟨fun more start => all _ (List.prefix_cons_iff.2 (Or.inr ⟨more, rfl, start⟩)),
          all [] List.nil_prefix⟩

/-- The longest match is what is kept at a start of the bits such that nothing is kept at a longer
one. -/
theorem longest_eq_some_iff {value : α} :
    longest kept bits = some value ↔
      ∃ path, path <+: bits ∧ kept path = some value ∧
        ∀ other, other <+: bits → (kept other).isSome = true → other.length ≤ path.length := by
  induction bits generalizing kept with
  | nil => simp [longest]
  | cons bit bits ih =>
      rw [longest, Option.or_eq_some_iff, ih, longest_eq_none_iff]
      constructor
      · rintro (⟨path, start, here, most⟩ | ⟨none, here⟩)
        · refine ⟨bit :: path, List.prefix_cons_iff.2 (Or.inr ⟨path, rfl, start⟩), here, ?_⟩
          intro other below there
          rcases List.prefix_cons_iff.1 below with rfl | ⟨more, rfl, shorter⟩
          · exact Nat.zero_le _
          · exact Nat.succ_le_succ (most more shorter there)
        · refine ⟨[], List.nil_prefix, here, fun other below there => ?_⟩
          rcases List.prefix_cons_iff.1 below with rfl | ⟨more, rfl, shorter⟩
          · exact Nat.le_refl _
          · rw [none more shorter] at there
            exact absurd there (by simp)
      · rintro ⟨path, start, here, most⟩
        rcases List.prefix_cons_iff.1 start with rfl | ⟨path, rfl, shorter⟩
        · refine Or.inr ⟨fun more below => ?_, here⟩
          have longer := most (bit :: more) (List.prefix_cons_iff.2 (Or.inr ⟨more, rfl, below⟩))
          rw [← Option.not_isSome_iff_eq_none]
          exact fun there => absurd (longer there) (by simp)
        · refine Or.inl ⟨path, shorter, here, fun other below there => ?_⟩
          exact Nat.le_of_succ_le_succ
            (most _ (List.prefix_cons_iff.2 (Or.inr ⟨other, rfl, below⟩)) there)

end Longest

namespace BitTrie

variable {α : Type} {t : BitTrie α}

/-! ### Searching -/

/-- Where a child is missing, no bit string that goes on there has a value. -/
theorem valueAt_of_missing {path : List Bool} {i : Nat} {bit : Bool} (here : t.slot? path = some i)
    (vacant : (t.node i).child bit = none) (more : List Bool) :
    t.valueAt (path ++ bit :: more) = none := by
  rw [valueAt, slot?, List.foldlM_append]
  change ((t.slot? path).bind _).bind _ = none
  rw [here, Option.bind_some, List.foldlM_cons, vacant]
  rfl

/-- A search from a node finds the value at the longest continuation of the node's bit string that
has one, or else what was found before. -/
theorem searchFrom_eq {path : List Bool} {i : Nat} (here : t.slot? path = some i)
    (found : Option α) (bits : List Bool) :
    t.searchFrom i found bits = (longest (fun more => t.valueAt (path ++ more)) bits).or found := by
  have kept {path : List Bool} {i : Nat} (here : t.slot? path = some i) :
      t.valueAt (path ++ []) = (t.node i).value := by
    rw [List.append_nil, valueAt, here, Option.bind_some]
  induction bits generalizing path i found with
  | nil => rw [searchFrom, longest, kept here]
  | cons bit bits ih =>
      rw [searchFrom, longest, kept here, Option.or_assoc]
      cases link : (t.node i).child bit with
      | none =>
          have bare : longest (fun more => t.valueAt (path ++ bit :: more)) bits = none :=
            longest_eq_none_iff.2 fun more _ => valueAt_of_missing here link more
          rw [bare, Option.none_or]
      | some next =>
          have below : t.slot? (path ++ [bit]) = some next := by
            rw [slot?_snoc, here, Option.bind_some, link]
          have rest := ih below ((t.node i).value.or found)
          simp only [List.append_assoc, List.singleton_append] at rest
          exact rest

/-- A search of the trie finds the longest match among the values at its bit strings. -/
theorem search_eq_longest (t : BitTrie α) (bits : List Bool) :
    t.search bits = longest t.valueAt bits := by
  rw [search, searchFrom_eq (slot?_nil t), Option.or_none]
  rfl

/-! ### Counting -/

theorem size_alloc (t : BitTrie α) (parent : Nat) : (t.alloc parent).2.size = t.size := by
  rw [alloc]
  split <;> rfl

/-- Growing along a bit string does not change the recorded number of values. -/
theorem size_grow (t : BitTrie α) (i : Nat) (bits : List Bool) : (t.grow i bits).2.size = t.size := by
  induction bits generalizing t i with
  | nil => rfl
  | cons bit bits ih =>
      rw [grow_cons, ih]
      exact size_alloc t i

theorem size_prune (t : BitTrie α) (i depth : Nat) : (t.prune i depth).size = t.size := by
  induction depth generalizing t i with
  | zero => rfl
  | succ depth ih =>
      cases up : (t.node i).parent with
      | none => rw [prune, up]
      | some parent =>
          rw [prune_succ up]
          dsimp only
          split
          · rw [ih]
            rfl
          · rfl

/-- A value is counted once, however often it is put at a bit string. -/
theorem Sound.size_insert (sound : t.Sound) (path : List Bool) (value : α) :
    (t.insert path value).size = if (t.valueAt path).isNone then t.size + 1 else t.size := by
  obtain ⟨taken, rest, i, descent, rfl, found, stuck⟩ := descend_spec (slot?_nil t) path
  obtain ⟨-, reached, values⟩ := sound.grow found rest stuck
  have here := values (taken ++ rest)
  rw [valueAt, ← List.nil_append taken, reached, Option.bind_some] at here
  simp only [BitTrie.insert, descent, size_grow]
  rw [here]
  rfl

/-- Erasing takes one off the recorded number of values if there was a value at the bit string. -/
theorem Sound.size_erase (sound : t.Sound) (path : List Bool) :
    (t.erase path).2.size = if (t.valueAt path).isSome then t.size - 1 else t.size := by
  rw [← (sound.erase path).1, BitTrie.erase]
  generalize t.descend 0 path = last
  obtain ⟨i, rest⟩ := last
  cases rest with
  | cons bit rest => rfl
  | nil =>
      dsimp only
      split
      · rfl
      · split
        · rfl
        · exact size_prune _ _ _

end BitTrie

/-! ### A trie as a map -/

section Keys

variable {κ α : Type} [DecidableEq κ]

/-- A map loses one key when a key that it has is erased. -/
theorem length_keys_erase (kept : AList fun _ : κ => α) (key : κ) :
    (kept.erase key).keys.length = if key ∈ kept then kept.keys.length - 1 else kept.keys.length := by
  rw [AList.keys_erase, List.length_erase]
  simp [AList.mem_keys]

theorem length_keys_insert (kept : AList fun _ : κ => α) (key : κ) (value : α) :
    (kept.insert key value).keys.length =
      if key ∈ kept then kept.keys.length else kept.keys.length + 1 := by
  have erased := length_keys_erase kept key
  rw [AList.keys_erase] at erased
  rw [AList.keys_insert, List.length_cons, erased]
  split
  next present => exact Nat.sub_add_cancel (List.length_pos_of_mem (AList.mem_keys.1 present))
  next => rfl

end Keys

namespace BitTrie

section Map

variable {α : Type} {t : BitTrie α} {kept : AList fun _ : List Bool => α}

/-- A trie keeps the entries of a map, and counts them. -/
structure Holds (t : BitTrie α) (kept : AList fun _ : List Bool => α) : Prop where
  sound : t.Sound
  values : ∀ path, t.valueAt path = kept.lookup path
  size : t.size = kept.keys.length

theorem holds_empty : Holds ({} : BitTrie α) ∅ := by
  refine ⟨sound_empty, fun path => ?_, rfl⟩
  rw [valueAt_empty, AList.lookup_empty]

/-- A trie that holds a map holds the one with a further value once that is inserted. -/
theorem Holds.insert (holds : t.Holds kept) (path : List Bool) (value : α) :
    (t.insert path value).Holds (kept.insert path value) := by
  obtain ⟨sound, values⟩ := holds.sound.insert path value
  refine ⟨sound, fun other => ?_, ?_⟩
  · rw [values]
    by_cases same : other = path
    · rw [if_pos same, same, AList.lookup_insert]
    · rw [if_neg same, AList.lookup_insert_ne same, holds.values]
  · rw [holds.sound.size_insert, holds.values, holds.size, length_keys_insert]
    simp only [Option.isNone_iff_eq_none, AList.lookup_eq_none, ite_not]

/-- Erasing answers whether the map has the bit string, and leaves a trie that holds the map without
it. -/
theorem Holds.erase (holds : t.Holds kept) (path : List Bool) :
    (t.erase path).1 = decide (path ∈ kept) ∧ (t.erase path).2.Holds (kept.erase path) := by
  obtain ⟨known, sound, values⟩ := holds.sound.erase path
  have present : (t.valueAt path).isSome = decide (path ∈ kept) := by
    rw [holds.values, Bool.eq_iff_iff, AList.lookup_isSome, decide_eq_true_iff]
  refine ⟨known.trans present, sound, fun other => ?_, ?_⟩
  · rw [values]
    by_cases same : other = path
    · rw [if_pos same, same, AList.lookup_erase]
    · rw [if_neg same, AList.lookup_erase_ne same, holds.values]
  · rw [holds.sound.size_erase, present, holds.size, length_keys_erase]
    simp only [decide_eq_true_eq]

/-- A search of a trie that holds a map finds the value at the longest bit string of the map that
starts the bits. -/
theorem Holds.search_eq_some_iff (holds : t.Holds kept) {bits : List Bool} {value : α} :
    t.search bits = some value ↔
      ∃ path, path <+: bits ∧ kept.lookup path = some value ∧
        ∀ other ∈ kept, other <+: bits → other.length ≤ path.length := by
  rw [search_eq_longest, longest_eq_some_iff]
  simp only [holds.values, AList.lookup_isSome]
  exact exists_congr fun path => and_congr_right fun _ => and_congr_right fun _ =>
    forall_congr' fun other => forall_comm

/-- A search of a trie that holds a map finds nothing just if no bit string of the map starts the
bits. -/
theorem Holds.search_eq_none_iff (holds : t.Holds kept) {bits : List Bool} :
    t.search bits = none ↔ ∀ path ∈ kept, ¬ path <+: bits := by
  rw [search_eq_longest, longest_eq_none_iff]
  simp only [holds.values, AList.lookup_eq_none]
  exact forall_congr' fun path => imp_not_comm

end Map

end BitTrie

/-- A call to a trie that gives its bit string as a word and a mask. -/
inductive TrieCall (α : Type) where
  | insert (key mask : UInt32) (value : α)
  | remove (key mask : UInt32)

namespace TrieCall

variable {α : Type}

/-- What a call makes of a trie. -/
def perform (t : BitTrie α) : TrieCall α → BitTrie α
  | insert key mask value => t.insert (leadingBits key mask) value
  | remove key mask => (t.erase (leadingBits key mask)).2

/-- What a call makes of a map. -/
def record (kept : AList fun _ : List Bool => α) : TrieCall α → AList fun _ : List Bool => α
  | insert key mask value => kept.insert ((bitsOf key).take (leadingOnes mask)) value
  | remove key mask => kept.erase ((bitsOf key).take (leadingOnes mask))

/-- Every call does to the trie what its record does to the map. -/
theorem holds_perform {t : BitTrie α} {kept : AList fun _ : List Bool => α} (holds : t.Holds kept)
    (call : TrieCall α) : (call.perform t).Holds (call.record kept) := by
  cases call with
  | insert key mask value =>
      rw [perform, record, leadingBits_eq_take]
      exact holds.insert _ value
  | remove key mask =>
      rw [perform, record, leadingBits_eq_take]
      exact (holds.erase _).2

/-- Any calls do to the trie what their records do to the map. -/
theorem holds_run {t : BitTrie α} {kept : AList fun _ : List Bool => α} (holds : t.Holds kept)
    (calls : List (TrieCall α)) : (calls.foldl perform t).Holds (calls.foldl record kept) := by
  induction calls generalizing t kept with
  | nil => exact holds
  | cons call calls ih => exact ih (holds_perform holds call)

/-- After any calls a trie is the map that the calls describe: searching a word answers with what
is kept at the longest start of its bits, taking out tells whether something was kept at just these
bits and keeps everything else, and the size counts what is kept. -/
theorem trie_refines_map (calls : List (TrieCall α)) :
    let t : BitTrie α := calls.foldl perform {}
    let kept : AList fun _ : List Bool => α := calls.foldl record ∅
    (∀ key value, t.search (bitsOf key) = some value ↔
      ∃ path, path <+: bitsOf key ∧ kept.lookup path = some value ∧
        ∀ other ∈ kept, other <+: bitsOf key → other.length ≤ path.length) ∧
    (∀ key, t.search (bitsOf key) = none ↔ ∀ path ∈ kept, ¬ path <+: bitsOf key) ∧
    (∀ key mask, (t.erase (leadingBits key mask)).1 =
      decide ((bitsOf key).take (leadingOnes mask) ∈ kept)) ∧
    (∀ key mask, (t.erase (leadingBits key mask)).2.Holds
      (kept.erase ((bitsOf key).take (leadingOnes mask)))) ∧
    t.size = kept.keys.length := by
  intro t kept
  have holds : t.Holds kept := holds_run BitTrie.holds_empty calls
  refine ⟨fun key value => holds.search_eq_some_iff, fun key => holds.search_eq_none_iff,
    fun key mask => ?_, fun key mask => ?_, holds.size⟩
  · rw [leadingBits_eq_take]
    exact (holds.erase _).1
  · rw [leadingBits_eq_take]
    exact (holds.erase _).2

end TrieCall

end ClusterGateway
