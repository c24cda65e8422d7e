import ClusterGateway.Idna.Domain

/-! # What is found in the tables of characters

The tables behind international domain names are about characters beyond ASCII; of ASCII they name
the capital letters and some directions of writing. A row that is found for a character starts at or
before it, so nothing is found for a character below all rows, and where the rows of a table start
can be read off its lines.
-/

namespace ClusterGateway.Idna

/-! ### Rows and lines -/

/-- The rows in the text of a line. -/
def rowsIn : List Char → (number : Nat) → (row : List Nat) → List (List Nat)
  | [], _, _ => []
  | c :: rest, number, row =>
    if c = ';' then (number :: row).reverse :: rowsIn rest 0 []
    else if c = ' ' then rowsIn rest 0 (number :: row)
    else rowsIn rest (16 * number + rowDigit c) row

/-- Reading a text adds its rows to those that were there, in order. -/
theorem toList_readRows (text : List Char) (number : Nat) (row : List Nat) (rows : Rows) :
    (readRows text number row rows).toList = rows.toList ++ rowsIn text number row := by
  induction text generalizing number row rows with
  | nil => simp [readRows, rowsIn]
  | cons c rest ih =>
      rw [readRows, rowsIn]
      split
      · simp [ih]
      · split <;> rw [ih]

/-- The rows of a table are those of its lines, in order. -/
theorem toList_rowsOf (lines : List String) :
    (rowsOf lines).toList = lines.flatMap fun line => rowsIn line.toList 0 [] := by
  have step (rows : Rows) :
      (lines.foldl (fun rows line => readRows line.toList 0 [] rows) rows).toList =
        rows.toList ++ lines.flatMap fun line => rowsIn line.toList 0 [] := by
    induction lines generalizing rows with
    | nil => simp
    | cons line lines ih => simp [ih, toList_readRows]
  exact step #[]

/-- What is checked for the rows in the characters of all lines holds of the rows of the table. -/
theorem forall_mem_rowsOf {check : List Nat → Bool} {lines : List String} (texts : List (List Char))
    (same : lines = texts.map String.ofList)
    (checked : (texts.all fun text => (rowsIn text 0 []).all check) = true) :
    ∀ row ∈ (rowsOf lines).toList, check row = true := by
  intro row member
  rw [toList_rowsOf, same, List.flatMap_map, List.mem_flatMap] at member
  obtain ⟨text, known, inside⟩ := member
  rw [String.toList_ofList] at inside
  exact List.all_eq_true.1 (List.all_eq_true.1 checked text known) row inside

/-- Lines that are given as characters stay so when another one comes first. -/
theorem lines_cons {text : List Char} {lines : List String} {texts : List (List Char)}
    (others : lines = texts.map String.ofList) :
    String.ofList text :: lines = (text :: texts).map String.ofList := congrArg _ others

/-- A row starts beyond ASCII. -/
def isBeyond (row : List Nat) : Bool := 0x80 ≤ row.head?.getD 0

/-- The row for the capital letters. -/
def capitalRow : List Nat := [0x41, 0x5A, 1, 0x61]

/-- A row puts two characters together of which the second one is in ASCII. -/
def joinsAscii : List Nat → Bool
  | [_, _, second] => second < 0x80
  | _ => false

/-- A row is about characters that turn the direction of writing. -/
def isTurning : List Nat → Bool
  | [_, _, n] => [1, 2, 3].contains n
  | _ => false

/-- What the tables say about ASCII: of its characters the capital letters are replaced, and none
turns the direction of writing or is composed with another. -/
structure AsciiTables : Prop where
  refused : ∀ row ∈ refusedRows.toList, isBeyond row = true
  ignored : ∀ row ∈ ignoredRows.toList, isBeyond row = true
  replaced : ∀ row ∈ replacedRows.toList, (isBeyond row || row = capitalRow) = true
  spelled : ∀ row ∈ spelledRows.toList, isBeyond row = true
  combining : ∀ row ∈ combiningRows.toList, isBeyond row = true
  decomposition : ∀ row ∈ decompositionRows.toList, (isBeyond row && !joinsAscii row) = true
  marks : ∀ row ∈ markRows.toList, isBeyond row = true
  direction : ∀ row ∈ directionRows.toList, (isBeyond row || !isTurning row) = true

/-- The tables say just this about ASCII, as is checked row by row. -/
theorem asciiTables : AsciiTables := by
  constructor
  -- The lines are matched with the characters that they hold before these are read and checked.
  all_goals
    apply forall_mem_rowsOf
    case same =>
      repeat apply lines_cons
      exact List.map_nil.symm
    case checked => decide +kernel

/-! ### Look-ups -/

namespace Rows

variable {rows : Rows} {c : Char}

/-- The row before the place to which the halving comes starts at or before the character. -/
theorem start_le_of_countUpTo {code low high n : Nat}
    (below : ∀ m, low = m + 1 → rows.start m ≤ code)
    (count : rows.countUpTo code low high = n + 1) : rows.start n ≤ code := by
  fun_induction countUpTo rows code low high with
  | case1 low high open_ middle early ih =>
      exact ih (fun m next => Nat.succ.inj next ▸ early) count
  | case2 low high open_ middle late ih => exact ih below count
  | case3 low high done => exact below n count

/-- A row that is found for a character starts at or before it. -/
theorem last?_spec {row : List Nat} (found : rows.last? c = some row) :
    row ∈ rows.toList ∧ row.head?.getD 0 ≤ c.toNat := by
  rw [last?] at found
  split at found
  · exact absurd found (by simp)
  · next n count =>
      refine ⟨Array.mem_toList_iff.2 (Array.mem_of_getElem? found), ?_⟩
      have early := start_le_of_countUpTo (fun m none => absurd none (by simp)) count
      rwa [start, found, Option.bind_some] at early

/-- Nothing is found for an ASCII character in a table whose rows start beyond ASCII. -/
theorem last?_of_beyond (beyond : ∀ row ∈ rows.toList, isBeyond row = true)
    (ascii : c.toNat < 0x80) : rows.last? c = none := by
  rw [Option.eq_none_iff_forall_ne_some]
  intro row found
  obtain ⟨member, early⟩ := last?_spec found
  have late := of_decide_eq_true (beyond row member)
  omega

/-- A table whose rows lie beyond ASCII covers no ASCII character. -/
theorem covers_of_beyond (beyond : ∀ row ∈ rows.toList, isBeyond row = true)
    (ascii : c.toNat < 0x80) : rows.covers c = false := by
  rw [covers, last?_of_beyond beyond ascii]

/-- A table whose rows lie beyond ASCII puts every ASCII character into the class of zero. -/
theorem classOf_of_beyond (beyond : ∀ row ∈ rows.toList, isBeyond row = true)
    (ascii : c.toNat < 0x80) : rows.classOf c = 0 := by
  rw [classOf, last?_of_beyond beyond ascii]

/-- A table whose rows lie beyond ASCII has no entry for an ASCII character. -/
theorem entryOf?_of_beyond (beyond : ∀ row ∈ rows.toList, isBeyond row = true)
    (ascii : c.toNat < 0x80) : rows.entryOf? c = none := by
  rw [entryOf?, last?_of_beyond beyond ascii]

end Rows

end ClusterGateway.Idna
