import ClusterGateway.Dict
import Mathlib.Data.List.Nodup

/-! # Laws of dictionaries

A dictionary is determined by its look-ups. So a law about a dictionary is stated as what the
operation does to a look-up, and two dictionaries are shown equal by looking up an arbitrary key.
-/

namespace ClusterGateway.Dict

universe u v

variable {α : Type u} {β : Type v}

/-! ### Entries and look-ups -/

/-- In an ascending list the value found under a key is the one that stands with it. -/
theorem lookup_eq_some_iff {key : String} {a : α} {l : List (String × α)}
    (ascending : l.Pairwise (fun a b => a.1 < b.1)) : lookup key l = some a ↔ (key, a) ∈ l := by
  induction l with
  | nil => simp [lookup]
  | cons head rest ih =>
      obtain ⟨k, b⟩ := head
      rw [List.pairwise_cons] at ascending
      simp only [lookup, List.mem_cons, Prod.mk.injEq]
      by_cases same : k = key
      · subst same
        simp only [↓reduceIte, Option.some.injEq, true_and]
        constructor
        · intro equal
          exact Or.inl equal.symm
        · rintro (equal | member)
          · exact equal.symm
          · exact absurd (ascending.1 _ member) (String.lt_irrefl k)
      · simp only [same, ↓reduceIte, ih ascending.2, Ne.symm same, false_and, false_or]

/-- The entries are the keys with the values found at them. -/
theorem get?_eq_some_iff {d : Dict α} {key : String} {a : α} :
    d.get? key = some a ↔ (key, a) ∈ d.entries :=
  lookup_eq_some_iff d.ascending

/-- Dictionaries in which every key is found alike are equal. -/
theorem ext_get? {d e : Dict α} (same : ∀ key, d.get? key = e.get? key) : d = e := by
  apply ext
  have distinct (c : Dict α) : c.entries.Nodup :=
    c.ascending.imp fun less equal => by subst equal; exact String.lt_irrefl _ less
  refine List.Perm.eq_of_pairwise ?_ d.ascending e.ascending ?_
  · intro a b _ _ less greater
    exact absurd (String.lt_trans less greater) (String.lt_irrefl _)
  · refine (List.perm_ext_iff_of_nodup (distinct d) (distinct e)).2 ?_
    rintro ⟨key, a⟩
    rw [← get?_eq_some_iff, ← get?_eq_some_iff, same]

/-! ### What the remaining operations do to a look-up -/

@[simp, grind =] theorem get?_emptyCollection (key : String) : (∅ : Dict α).get? key = none := rfl

/-- A function on entries acts on what is found under a key. -/
theorem lookup_map (f : String → α → β) (key : String) (l : List (String × α)) :
    lookup key (l.map fun e => (e.1, f e.1 e.2)) = (lookup key l).map (f key) := by
  induction l with
  | nil => rfl
  | cons head rest ih =>
      obtain ⟨k, b⟩ := head
      simp only [List.map_cons, lookup, ih]
      by_cases same : k = key
      · subst same
        simp
      · simp [same]

@[simp, grind =] theorem get?_map (f : String → α → β) (d : Dict α) (key : String) :
    (d.map f).get? key = (d.get? key).map (f key) :=
  lookup_map f key d.entries

/-- Changing the value at a key changes what is found there, and nothing under other keys. -/
@[simp, grind =] theorem get?_modify (d : Dict α) (key k : String) (f : α → α) :
    (d.modify key f).get? k = if k = key then (d.get? k).map f else d.get? k := by
  rw [modify, get?_map]
  by_cases same : k = key
  · subst same
    simp
  · simp [same]

/-- Of what is kept by a test a key has its value if that passes. -/
@[simp, grind =] theorem get?_filter (keep : String → α → Bool) (d : Dict α) (key : String) :
    (d.filter keep).get? key = (d.get? key).filter (keep key) := by
  ext a
  rw [get?_eq_some_iff, Option.filter_eq_some_iff, get?_eq_some_iff]
  exact List.mem_filter

/-- A key whose value is kept is found as before. -/
theorem get?_filter_of_keep {keep : String → α → Bool} {d : Dict α} {key : String}
    (kept : ∀ a, d.get? key = some a → keep key a = true) :
    (d.filter keep).get? key = d.get? key := by
  rw [get?_filter]
  cases found : d.get? key with
  | none => rfl
  | some a => exact Option.filter_some_pos (kept a found)

/-! ### Keys -/

theorem contains_iff {d : Dict α} {key : String} :
    d.contains key = true ↔ ∃ a, d.get? key = some a := by
  rw [contains, Option.isSome_iff_exists]

/-- A key that gets a value is there, and the others are there if they were before. -/
@[simp, grind =] theorem contains_insert (d : Dict α) (key k : String) (a : α) :
    (d.insert key a).contains k = (decide (key = k) || d.contains k) := by
  rw [contains, get?_insert, contains]
  by_cases same : key = k <;> simp [same]

/-- A key that is taken out is gone, and the others are there if they were before. -/
@[simp, grind =] theorem contains_erase (d : Dict α) (key k : String) :
    (d.erase key).contains k = (!decide (key = k) && d.contains k) := by
  rw [contains, get?_erase, contains]
  by_cases same : key = k <;> simp [same]

@[simp, grind =] theorem contains_map (f : String → α → β) (d : Dict α) (key : String) :
    (d.map f).contains key = d.contains key := by
  simp [contains]

@[simp, grind =] theorem contains_modify (d : Dict α) (key k : String) (f : α → α) :
    (d.modify key f).contains k = d.contains k :=
  contains_map _ d k

/-- The listed keys are those that the dictionary has. -/
@[simp] theorem mem_keys {d : Dict α} {key : String} : key ∈ d.keys ↔ d.contains key = true := by
  rw [contains_iff, keys, List.mem_map]
  constructor
  · rintro ⟨⟨k, a⟩, member, rfl⟩
    exact ⟨a, get?_eq_some_iff.2 member⟩
  · rintro ⟨a, found⟩
    exact ⟨(key, a), get?_eq_some_iff.1 found, rfl⟩

/-- The listed values are those that are found under some key. -/
theorem mem_values {d : Dict α} {a : α} : a ∈ d.values ↔ ∃ key, d.get? key = some a := by
  rw [values, List.mem_map]
  constructor
  · rintro ⟨⟨k, b⟩, member, rfl⟩
    exact ⟨k, get?_eq_some_iff.2 member⟩
  · rintro ⟨key, found⟩
    exact ⟨(key, a), get?_eq_some_iff.1 found, rfl⟩

/-- The values after a new key came are the new one and those that were there. -/
theorem mem_values_insert {d : Dict α} {key : String} {a b : α} (absent : d.contains key = false) :
    b ∈ (d.insert key a).values ↔ b = a ∨ b ∈ d.values := by
  rw [mem_values, mem_values]
  constructor
  · rintro ⟨k, found⟩
    rw [get?_insert] at found
    split at found
    · exact Or.inl (Option.some.inj found).symm
    · exact Or.inr ⟨k, found⟩
  · rintro (rfl | ⟨k, found⟩)
    · exact ⟨key, by rw [get?_insert, if_pos rfl]⟩
    · refine ⟨k, ?_⟩
      rw [get?_insert, if_neg, found]
      rintro rfl
      exact Bool.eq_false_iff.1 absent (contains_iff.2 ⟨b, found⟩)

/-- The values before a key was taken out are its own and those that are left. -/
theorem mem_values_erase {d : Dict α} {key : String} {a b : α} (present : d.get? key = some a) :
    b ∈ d.values ↔ b = a ∨ b ∈ (d.erase key).values := by
  rw [mem_values, mem_values]
  constructor
  · rintro ⟨k, found⟩
    by_cases same : key = k
    · subst same
      exact Or.inl (Option.some.inj (found.symm.trans present))
    · exact Or.inr ⟨k, by rw [get?_erase, if_neg same, found]⟩
  · rintro (rfl | ⟨k, found⟩)
    · exact ⟨key, present⟩
    · rw [get?_erase] at found
      split at found
      · exact absurd found (by simp)
      · exact ⟨k, found⟩

/-- The keys stand in ascending order. -/
theorem keys_ascending (d : Dict α) : d.keys.Pairwise (· < ·) := by
  rw [keys, List.pairwise_map]
  exact d.ascending

theorem keys_nodup (d : Dict α) : d.keys.Nodup :=
  d.keys_ascending.imp fun less equal => by subst equal; exact String.lt_irrefl _ less

/-- Two dictionaries have the same list of keys if they have the same keys. -/
theorem keys_eq_of_contains {d : Dict α} {e : Dict β}
    (same : ∀ key, d.contains key = e.contains key) : d.keys = e.keys := by
  refine List.Perm.eq_of_pairwise ?_ d.keys_ascending e.keys_ascending ?_
  · intro a b _ _ less greater
    exact absurd (String.lt_trans less greater) (String.lt_irrefl _)
  · refine (List.perm_ext_iff_of_nodup d.keys_nodup e.keys_nodup).2 ?_
    intro key
    rw [mem_keys, mem_keys, same]

@[simp] theorem keys_map (f : String → α → β) (d : Dict α) : (d.map f).keys = d.keys :=
  keys_eq_of_contains (contains_map f d)

/-! ### Counting keys -/

/-- Taking out a key that is not there changes nothing. -/
theorem erase_of_absent {d : Dict α} {key : String} (absent : d.get? key = none) :
    d.erase key = d := by
  apply ext_get?
  intro other
  rw [get?_erase]
  split
  · next same => rw [← same, absent]
  · rfl

theorem length_keys (d : Dict α) : d.keys.length = d.size := List.length_map _

/-- A new key makes a dictionary larger by one. -/
theorem size_insert (d : Dict α) (key : String) (a : α) :
    (d.insert key a).size = if d.contains key then d.size else d.size + 1 := by
  by_cases present : d.contains key = true
  · rw [if_pos present, ← length_keys, ← length_keys]
    refine congrArg List.length (keys_eq_of_contains fun k => ?_)
    rw [contains_insert]
    by_cases same : key = k
    · rw [← same, present, Bool.or_true]
    · simp [same]
  · rw [if_neg present, ← length_keys, ← length_keys, ← List.length_cons]
    have fresh : (key :: d.keys).Nodup :=
      List.nodup_cons.2 ⟨fun member => present (mem_keys.1 member), d.keys_nodup⟩
    refine ((List.perm_ext_iff_of_nodup (keys_nodup _) fresh).2 fun k => ?_).length_eq
    rw [mem_keys, contains_insert, List.mem_cons, mem_keys, Bool.or_eq_true, decide_eq_true_iff,
      eq_comm]

/-- A key that is taken out makes a dictionary smaller by one. -/
theorem size_erase (d : Dict α) (key : String) :
    (d.erase key).size = if d.contains key then d.size - 1 else d.size := by
  have absent : (d.erase key).contains key = false := by simp
  have whole := size_insert (d.erase key)
  by_cases present : d.contains key = true
  · obtain ⟨a, found⟩ := contains_iff.1 present
    have back : (d.erase key).insert key a = d := by
      apply ext_get?
      intro k
      rw [get?_insert, get?_erase]
      split
      next same => rw [← same, found]
      next => rfl
    have counted := whole key a
    rw [back, absent] at counted
    rw [if_pos present, counted]
    rfl
  · rw [if_neg present, erase_of_absent (Option.not_isSome_iff_eq_none.1 present)]

/-! ### Building a dictionary entry by entry -/

/-- What is found after further insertions: the last entry with the key, if there is one. -/
theorem get?_foldl_insert (l : List (String × α)) (d : Dict α) (key : String) :
    (l.foldl (fun d e => d.insert e.1 e.2) d).get? key =
      ((l.reverse.find? (·.1 = key)).map Prod.snd).or (d.get? key) := by
  induction l generalizing d with
  | nil => simp
  | cons head rest ih =>
      rw [List.foldl_cons, ih, get?_insert, List.reverse_cons, List.find?_append]
      by_cases same : head.1 = key
      · cases rest.reverse.find? (·.1 = key) <;> simp [same]
      · cases rest.reverse.find? (·.1 = key) <;> simp [same]

/-- What is found in a dictionary that was built from a list stands in the list. -/
theorem mem_of_get?_ofList {l : List (String × α)} {key : String} {a : α}
    (found : (ofList l).get? key = some a) : (key, a) ∈ l := by
  rw [ofList, get?_foldl_insert, get?_empty, Option.or_none, Option.map_eq_some_iff] at found
  obtain ⟨⟨k, b⟩, first, rfl⟩ := found
  have named : k = key := by simpa using List.find?_some first
  subst named
  exact List.mem_reverse.1 (List.mem_of_find?_eq_some first)

/-- Inserting the entries of a dictionary one after another gives it back. -/
@[simp] theorem ofList_entries (d : Dict α) : ofList d.entries = d := by
  apply ext_get?
  intro key
  cases found : d.get? key with
  | none =>
      cases other : (ofList d.entries).get? key with
      | none => rfl
      | some a =>
          have known := get?_eq_some_iff.2 (mem_of_get?_ofList other)
          rw [found] at known
          exact absurd known (by simp)
  | some a =>
      have member := get?_eq_some_iff.1 found
      rw [ofList, get?_foldl_insert, get?_empty, Option.or_none]
      cases first : d.entries.reverse.find? (·.1 = key) with
      | none =>
          rw [List.find?_eq_none] at first
          exact absurd (decide_eq_true rfl) (first (key, a) (List.mem_reverse.2 member))
      | some e =>
          obtain ⟨k, b⟩ := e
          have named : k = key := by simpa using List.find?_some first
          subst named
          have known := get?_eq_some_iff.2 (List.mem_reverse.1 (List.mem_of_find?_eq_some first))
          simpa [found] using known.symm

end ClusterGateway.Dict
