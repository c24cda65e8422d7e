/-! # Dictionaries in key order

A dictionary maps text keys to values and lists them in ascending order of the keys. The order is
part of the type, so two dictionaries with the same entries are equal, whatever was done to reach
them, and printing one needs no sorting. Text is ordered by code point, which is also the order of
its UTF-8 bytes.
-/

namespace ClusterGateway

universe u v

/-- A finite map from text to values, kept in ascending order of its keys. -/
structure Dict (α : Type u) where
  entries : List (String × α)
  /-- No key stands twice and smaller keys come first. -/
  ascending : entries.Pairwise (fun a b => a.1 < b.1)

namespace Dict

variable {α : Type u} {β : Type v}

instance [Repr α] : Repr (Dict α) where
  reprPrec d n := reprPrec d.entries n

instance [DecidableEq α] : DecidableEq (Dict α) := fun a b =>
  decidable_of_iff (a.entries = b.entries) (by cases a; cases b; simp)

@[ext] theorem ext {a b : Dict α} (h : a.entries = b.entries) : a = b := by
  cases a; cases b; simp_all

/-- The dictionary without entries. -/
def empty : Dict α := ⟨[], List.Pairwise.nil⟩

instance : EmptyCollection (Dict α) := ⟨empty⟩

instance : Inhabited (Dict α) := ⟨empty⟩

/-- The value in the first entry with this key. -/
def lookup (key : String) : List (String × α) → Option α
  | [] => none
  | (k, a) :: rest => if k = key then some a else lookup key rest

def get? (d : Dict α) (key : String) : Option α := lookup key d.entries

def contains (d : Dict α) (key : String) : Bool := (d.get? key).isSome

/-- Puts an entry at its place in an ascending list, instead of one with the same key. -/
def place (key : String) (a : α) : List (String × α) → List (String × α)
  | [] => [(key, a)]
  | (k, b) :: rest =>
    if key < k then (key, a) :: (k, b) :: rest
    else if key = k then (key, a) :: rest
    else (k, b) :: place key a rest

/-- An entry of a list into which another one is placed is that one or was there before. -/
theorem mem_place {key : String} {a : α} {l : List (String × α)} {e : String × α}
    (h : e ∈ place key a l) : e = (key, a) ∨ e ∈ l := by
  induction l with
  | nil => simpa [place] using h
  | cons head rest ih =>
    obtain ⟨k, b⟩ := head
    simp only [place] at h
    split at h
    · simpa using h
    · split at h
      · simp only [List.mem_cons] at h ⊢
        exact h.imp id Or.inr
      · simp only [List.mem_cons] at h ⊢
        rcases h with h | h
        · exact Or.inr (Or.inl h)
        · exact (ih h).imp id Or.inr

/-- Placing an entry keeps a list in ascending order of its keys. -/
theorem ascending_place (key : String) (a : α) {l : List (String × α)}
    (h : l.Pairwise (fun a b => a.1 < b.1)) : (place key a l).Pairwise (fun a b => a.1 < b.1) := by
  induction l with
  | nil => simp [place]
  | cons head rest ih =>
    obtain ⟨k, b⟩ := head
    rw [List.pairwise_cons] at h
    simp only [place]
    split
    · refine List.pairwise_cons.2 ⟨?_, List.pairwise_cons.2 h⟩
      intro e he
      rcases List.mem_cons.1 he with rfl | he
      · assumption
      · exact String.lt_trans (by assumption) (h.1 e he)
    · split
      · subst_vars
        exact List.pairwise_cons.2 ⟨h.1, h.2⟩
      · refine List.pairwise_cons.2 ⟨?_, ih h.2⟩
        intro e he
        rcases mem_place he with rfl | he
        · grind
        · exact h.1 e he

/-- Gives a key a value, in place of the one it had. -/
def insert (d : Dict α) (key : String) (a : α) : Dict α :=
  ⟨place key a d.entries, ascending_place key a d.ascending⟩

/-- Takes a key out. -/
def erase (d : Dict α) (key : String) : Dict α :=
  ⟨d.entries.filter (fun e => e.1 ≠ key), d.ascending.filter _⟩

/-- Keeps the entries that satisfy a test. -/
def filter (keep : String → α → Bool) (d : Dict α) : Dict α :=
  ⟨d.entries.filter (fun e => keep e.1 e.2), d.ascending.filter _⟩

/-- Replaces every value by the result of a function on its entry. -/
def map (f : String → α → β) (d : Dict α) : Dict β :=
  ⟨d.entries.map (fun e => (e.1, f e.1 e.2)), by
    rw [List.pairwise_map]
    exact d.ascending⟩

/-- Replaces the value at a key, if it has one. -/
def modify (d : Dict α) (key : String) (f : α → α) : Dict α :=
  d.map (fun k a => if k = key then f a else a)

/-- The keys in ascending order. -/
def keys (d : Dict α) : List String := d.entries.map Prod.fst

/-- The values in ascending order of their keys. -/
def values (d : Dict α) : List α := d.entries.map Prod.snd

/-- The number of keys. -/
def size (d : Dict α) : Nat := d.entries.length

/-- Whether there is no entry. -/
def isEmpty (d : Dict α) : Bool := d.entries.isEmpty

/-- Inserts entries one after another, so that of two with one key the later stays. -/
def ofList (entries : List (String × α)) : Dict α :=
  entries.foldl (fun d e => d.insert e.1 e.2) empty

/-! ### What each operation does to a look-up -/

@[simp, grind =] theorem get?_empty (key : String) : (empty : Dict α).get? key = none := rfl

/-- A placed entry is found under its key, and every other key as before. -/
theorem lookup_place (key k : String) (a : α) (l : List (String × α)) :
    lookup k (place key a l) = if key = k then some a else lookup k l := by
  induction l with
  | nil => simp [place, lookup]
  | cons head rest ih =>
    obtain ⟨j, b⟩ := head
    simp only [place]
    split
    · simp [lookup]
    · split
      · subst_vars
        simp only [lookup]
        split <;> rfl
      · simp only [lookup, ih]
        split
        · rw [if_neg]
          intro e
          subst_vars
          contradiction
        · rfl

/-- A key that gets a value is found with it, and every other key as before. -/
@[simp, grind =] theorem get?_insert (d : Dict α) (key k : String) (a : α) :
    (d.insert key a).get? k = if key = k then some a else d.get? k :=
  lookup_place key k a d.entries

/-- Without the entries of a key nothing is found under it, and every other key is found as
before. -/
theorem lookup_filter_ne (key k : String) (l : List (String × α)) :
    lookup k (l.filter (fun e => e.1 ≠ key)) = if key = k then none else lookup k l := by
  induction l with
  | nil => simp [lookup]
  | cons head rest ih =>
    obtain ⟨j, b⟩ := head
    by_cases hj : j = key
    · subst hj
      simp only [ne_eq, not_true_eq_false, decide_false, Bool.false_eq_true, not_false_eq_true,
        List.filter_cons_of_neg, lookup]
      rw [ih]
      split <;> rfl
    · simp only [ne_eq, hj, not_false_eq_true, decide_true, List.filter_cons_of_pos, lookup]
      rw [ih]
      by_cases hk : j = k
      · subst hk
        simp [Ne.symm hj]
      · simp [hk]

/-- A key that is taken out is not found any more, and every other key is found as before. -/
@[simp, grind =] theorem get?_erase (d : Dict α) (key k : String) :
    (d.erase key).get? k = if key = k then none else d.get? k :=
  lookup_filter_ne key k d.entries

end Dict

end ClusterGateway
