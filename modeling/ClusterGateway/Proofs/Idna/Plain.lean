import ClusterGateway.Proofs.Idna.Tables
import ClusterGateway.Proofs.Net.Canonical
import Mathlib.Data.List.TakeDrop

/-! # Plain domain names

Of ASCII only the capital letters are mapped, and nothing in it is composed. A name without capital
letters and forbidden marks is therefore its own ASCII form, unless one of its labels says that it
is one already.
-/

namespace ClusterGateway.Idna

/-- A character of a plain name: in ASCII, no capital letter, and allowed in a domain name. -/
structure IsPlain (c : Char) : Prop where
  ascii : c.toNat < 0x80
  small : ¬ (0x41 ≤ c.toNat ∧ c.toNat ≤ 0x5A)
  allowed : isForbidden c = false

variable {c d : Char}

/-! ### Mapping -/

/-- A table whose rows lie beyond ASCII, but for the capital letters, replaces no other ASCII
character. -/
theorem replacement?_of_rows {rows : Rows}
    (known : ∀ row ∈ rows.toList, (isBeyond row || row = capitalRow) = true)
    (ascii : c.toNat < 0x80) (small : ¬ (0x41 ≤ c.toNat ∧ c.toNat ≤ 0x5A)) :
    rows.replacement? c = none := by
  rw [Rows.replacement?]
  cases found : rows.last? c with
  | none => rfl
  | some row =>
      obtain ⟨member, early⟩ := Rows.last?_spec found
      have place := known row member
      rw [Bool.or_eq_true, decide_eq_true_iff] at place
      rcases place with beyond | rfl
      · have late := of_decide_eq_true beyond
        omega
      · exact if_neg fun capital => small ⟨early, capital.1⟩

/-- A plain character is kept as it is. -/
theorem mapping_of_plain (plain : IsPlain c) : mapping c = .kept := by
  rw [mapping, Rows.covers_of_beyond asciiTables.refused plain.ascii,
    Rows.covers_of_beyond asciiTables.ignored plain.ascii,
    replacement?_of_rows asciiTables.replaced plain.ascii plain.small,
    Rows.entryOf?_of_beyond asciiTables.spelled plain.ascii]
  rfl

/-- A text whose characters are all kept is mapped to itself. -/
theorem mappedBy?_of_kept {mapping : Char → Mapping} {text : List Char}
    (kept : ∀ c ∈ text, mapping c = .kept) : mappedBy? mapping text = some text := by
  induction text with
  | nil => rfl
  | cons c rest ih =>
      obtain ⟨first, others⟩ := List.forall_mem_cons.1 kept
      rw [mappedBy?, first, ih others]
      rfl

/-! ### Composing -/

/-- A table of parts whose rows lie beyond ASCII takes no ASCII character apart. -/
theorem takeApart_of_rows {rows : Rows} (beyond : ∀ row ∈ rows.toList, isBeyond row = true)
    (ascii : c.toNat < 0x80) (depth : Nat) : takeApart rows depth c = [c] := by
  cases depth with
  | zero => rfl
  | succ depth =>
      have whole : syllableParts? c = none := by
        rw [syllableParts?, if_neg]
        unfold syllableBase
        omega
      rw [takeApart, whole, Rows.entryOf?_of_beyond beyond ascii]

theorem combiningClass_of_ascii (ascii : c.toNat < 0x80) : combiningClass c = 0 :=
  Rows.classOf_of_beyond asciiTables.combining ascii

/-- Two ASCII characters are not composed into one. -/
theorem compose?_of_ascii (first : c.toNat < 0x80) (second : d.toNat < 0x80) :
    compose? c d = none := by
  have syllable : syllableOf? c d = none := by
    rw [syllableOf?, if_neg, if_neg]
    · unfold syllableBase
      omega
    · unfold leadBase
      omega
  have row : decompositionRows.find? (fun row => row.tail = [c.toNat, d.toNat]) = none := by
    rw [Array.find?_eq_none]
    intro row member
    have known := asciiTables.decomposition row (Array.mem_toList_iff.2 member)
    rw [Bool.and_eq_true, Bool.not_eq_true'] at known
    rw [decide_eq_true_iff]
    intro pair
    have joined : joinsAscii row = true := by
      cases row with
      | nil => exact absurd pair (by simp)
      | cons head tail =>
          obtain rfl : tail = _ := pair
          exact decide_eq_true second
    exact absurd joined (Bool.eq_false_iff.1 known.2)
  rw [compose?, syllable, row]
  rfl

/-- Where there are no marks, there is no order to put them into. -/
theorem orderMarks_of_ascii {text : List Char} (ascii : ∀ c ∈ text, c.toNat < 0x80) :
    orderMarks text = text := by
  induction text with
  | nil => rfl
  | cons c rest ih =>
      rw [orderMarks, ih fun d member => ascii d (List.mem_cons_of_mem c member)]
      cases rest with
      | nil => rfl
      | cons d rest =>
          rw [orderMarks.place, if_neg]
          exact fun marks => marks.1 (combiningClass_of_ascii (ascii d (by simp)))

/-- Characters that are no marks and do not join stay as they are. -/
theorem putTogether_of_none {classOf : Char → Nat} {compose? : Char → Char → Option Char}
    {text : List Char} (apart : ∀ c ∈ text, ∀ d ∈ text, compose? c d = none)
    (starters : ∀ c ∈ text, classOf c = 0) (before : List Char) {starter : Char}
    (first : ∀ c ∈ text, compose? starter c = none) :
    putTogether classOf compose? before starter [] text = before.reverse ++ starter :: text := by
  induction text generalizing before starter with
  | nil => rfl
  | cons c rest ih =>
      have others := ih (fun a here b there =>
        apart a (List.mem_cons_of_mem c here) b (List.mem_cons_of_mem c there))
        (fun a here => starters a (List.mem_cons_of_mem c here)) (starter :: before)
        fun a here => apart c List.mem_cons_self a (List.mem_cons_of_mem c here)
      rw [putTogether]
      simp only [Bool.false_eq_true, if_false, first c List.mem_cons_self,
        starters c List.mem_cons_self, if_true, List.nil_append, others]
      simp

/-- Nothing in ASCII is composed. -/
theorem composed_of_ascii {text : List Char} (ascii : ∀ c ∈ text, c.toNat < 0x80) :
    composed text = text := by
  have beyond : ∀ row ∈ decompositionRows.toList, isBeyond row = true := fun row member =>
    (Bool.and_eq_true_iff.1 (asciiTables.decomposition row member)).1
  have whole (text : List Char) (ascii : ∀ c ∈ text, c.toNat < 0x80) :
      text.flatMap (takeApart decompositionRows partDepth) = text := by
    induction text with
    | nil => rfl
    | cons c rest ih =>
        obtain ⟨first, others⟩ := List.forall_mem_cons.1 ascii
        rw [List.flatMap_cons, takeApart_of_rows beyond first, ih others]
        rfl
  rw [composed, whole text ascii, orderMarks_of_ascii ascii]
  cases text with
  | nil => rfl
  | cons c rest =>
      obtain ⟨first, others⟩ := List.forall_mem_cons.1 ascii
      have marks : leadingMarks (c :: rest) = ([], c :: rest) := by
        have starter : ¬ (combiningClass c ≠ 0) := fun mark =>
          mark (combiningClass_of_ascii first)
        rw [leadingMarks, List.span_eq_takeWhile_dropWhile, List.takeWhile_cons_of_neg,
          List.dropWhile_cons_of_neg] <;> simpa using starter
      -- The first character is no mark, and no two of them make one together.
      have together := putTogether_of_none
        (fun a here b there => compose?_of_ascii (others a here) (others b there))
        (fun a here => combiningClass_of_ascii (others a here)) []
        fun a here => compose?_of_ascii first (others a here)
      rw [marks]
      dsimp only
      rw [together]
      rfl

/-! ### Labels -/

/-- No joiner stands in a label in ASCII. -/
theorem joinersOk_of_ascii {label : List Char} (ascii : ∀ c ∈ label, c.toNat < 0x80)
    (before : List Char) : joinersOk before label = true := by
  induction label generalizing before with
  | nil => rfl
  | cons c rest ih =>
      obtain ⟨first, others⟩ := List.forall_mem_cons.1 ascii
      rw [joinersOk, if_neg (by omega), if_neg (by omega), ih others]
      rfl

/-- A plain label that is not marked as encoded means itself. -/
theorem meant?_of_plain {label : List Char} (plain : ∀ c ∈ label, IsPlain c)
    (bare : ¬ asciiMark.isPrefixOf label = true) : meant? label = some label := by
  have unmarked : label.head?.any isMark = false := by
    cases label with
    | nil => rfl
    | cons c rest =>
        rw [List.head?_cons, Option.any_some, isMark]
        exact Rows.covers_of_beyond asciiTables.marks (plain c List.mem_cons_self).ascii
  have joiners := joinersOk_of_ascii (fun c member => (plain c member).ascii) []
  have allowed : ∀ c ∈ label, isForbidden c = false := fun c member => (plain c member).allowed
  rw [meant?, if_neg bare]
  simpa [labelOk, unmarked, joiners] using allowed

/-- A table whose rows beyond ASCII alone turn the direction gives no ASCII character such a
class. -/
theorem classOf_of_rows {rows : Rows}
    (known : ∀ row ∈ rows.toList, (isBeyond row || !isTurning row) = true)
    (ascii : c.toNat < 0x80) : [1, 2, 3].contains (rows.classOf c) = false := by
  rw [Rows.classOf]
  cases found : rows.last? c with
  | none => rfl
  | some row =>
      obtain ⟨member, early⟩ := Rows.last?_spec found
      have place := known row member
      rw [Bool.or_eq_true, Bool.not_eq_true'] at place
      rcases place with beyond | straight
      · have late := of_decide_eq_true beyond
        omega
      · split
        · next first last n shape =>
            obtain rfl := Option.some.inj shape
            split
            · exact straight
            · rfl
        · rfl

/-- A number of another class is neither from right to left nor an Arabic number. -/
theorem Direction.ofNumber_of_notMem {n : Nat} (straight : [1, 2, 3].contains n = false) :
    ofNumber n ≠ .left ∧ ofNumber n ≠ .arabicNumber := by
  unfold ofNumber
  split <;> simp_all

/-- No label in ASCII turns the direction of writing. -/
theorem turnsLeft_of_ascii {label : List Char} (ascii : ∀ c ∈ label, c.toNat < 0x80) :
    turnsLeft label = false := by
  rw [turnsLeft, List.any_eq_false]
  intro c member
  have straight := Direction.ofNumber_of_notMem
    (classOf_of_rows asciiTables.direction (ascii c member))
  simp [direction, straight]

/-! ### Names -/

/-- A list whose elements are all mapped to themselves is mapped to itself. -/
theorem mapM_of_same {α : Type} {f : α → Option α} {xs : List α} (same : ∀ x ∈ xs, f x = some x) :
    xs.mapM f = some xs := by
  induction xs with
  | nil => rfl
  | cons x xs ih =>
      obtain ⟨first, others⟩ := List.forall_mem_cons.1 same
      rw [List.mapM_cons, first, ih others]
      rfl

/-- A plain name is its own ASCII form. -/
theorem domain?_of_plain {text : List Char} (plain : ∀ c ∈ text, IsPlain c)
    (bare : ∀ label ∈ splitAt '.' text, ¬ asciiMark.isPrefixOf label = true) :
    domain? text = some text := by
  have labels : ∀ label ∈ splitAt '.' text, ∀ c ∈ label, IsPlain c :=
    @forall_mem_of_intercalate _ ['.'] _ (by rwa [intercalate_splitAt])
  have ascii : ∀ label ∈ splitAt '.' text, ∀ c ∈ label, c.toNat < 0x80 :=
    fun label known c member => (labels label known c member).ascii
  have mapped : mapped? text = some text :=
    mappedBy?_of_kept fun c member => mapping_of_plain (plain c member)
  have meant : (splitAt '.' text).mapM meant? = some (splitAt '.' text) :=
    mapM_of_same fun label known => meant?_of_plain (labels label known) (bare label known)
  have written : (splitAt '.' text).mapM toAscii? = some (splitAt '.' text) := by
    refine mapM_of_same fun label known => if_pos (List.all_eq_true.2 fun c member => ?_)
    exact decide_eq_true (ascii label known c member)
  have straight : (splitAt '.' text).any turnsLeft = false := by
    rw [List.any_eq_false]
    exact fun label known => Bool.eq_false_iff.1 (turnsLeft_of_ascii (ascii label known))
  rw [domain?, mapped]
  simp only [Option.bind_eq_bind, Option.bind_some, meant, written, straight,
    composed_of_ascii fun c member => (plain c member).ascii, Bool.false_eq_true, false_and,
    if_false, intercalate_splitAt, Option.pure_def]

end ClusterGateway.Idna
