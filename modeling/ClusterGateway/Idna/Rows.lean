/-! # Tables of character data

A table is a list of rows, each a few numbers of which the first is a character. Rows stand in
ascending order of that character, so the row that concerns a character is found by halving.
-/

namespace ClusterGateway.Idna

/-- The rows of a table, in ascending order of the number at the front of each. -/
abbrev Rows := Array (List Nat)

/-- The value of a lower-case hexadecimal digit. -/
def rowDigit (c : Char) : Nat := if c.isDigit then c.toNat - 0x30 else c.toNat - 0x57

/-- Reads rows that each end with a semicolon, their numbers in hexadecimal with a blank between
them. `number` and `row` are what has been read of the row at hand, its numbers last to first. -/
def readRows : List Char → (number : Nat) → (row : List Nat) → Rows → Rows
  | [], _, _, rows => rows
  | c :: rest, number, row, rows =>
    if c = ';' then readRows rest 0 [] (rows.push (number :: row).reverse)
    else if c = ' ' then readRows rest 0 (number :: row) rows
    else readRows rest (16 * number + rowDigit c) row rows

/-- A table from its lines. -/
def rowsOf (lines : List String) : Rows :=
  lines.foldl (fun rows line => readRows line.toList 0 [] rows) #[]

namespace Rows

/-- The character at the front of a row. -/
def start (rows : Rows) (i : Nat) : Nat := (rows[i]?.bind List.head?).getD 0

/-- The number of rows that start at or before `c`, when that is so for those below `low` and for
none from `high` on. -/
def countUpTo (rows : Rows) (c low high : Nat) : Nat :=
  if low < high then
    let middle := (low + high) / 2
    if rows.start middle ≤ c then countUpTo rows c (middle + 1) high
    else countUpTo rows c low middle
  else low
termination_by high - low

/-- The last row that starts at or before a character. -/
def last? (rows : Rows) (c : Char) : Option (List Nat) :=
  match rows.countUpTo c.toNat 0 rows.size with
  | 0 => none
  | n + 1 => rows[n]?

/-- Whether a character lies in a range of a table whose rows are first and last of a range. -/
def covers (rows : Rows) (c : Char) : Bool :=
  match rows.last? c with
  | some [_, last] => c.toNat ≤ last
  | _ => false

/-- The number of a character in a table whose rows are first and last of a range with a number;
zero outside of all ranges. -/
def classOf (rows : Rows) (c : Char) : Nat :=
  match rows.last? c with
  | some [_, last, n] => if c.toNat ≤ last then n else 0
  | _ => 0

/-- The rest of the row that starts with a character. -/
def entryOf? (rows : Rows) (c : Char) : Option (List Nat) :=
  match rows.last? c with
  | some (first :: rest) => if first = c.toNat then some rest else none
  | _ => none

end Rows

end ClusterGateway.Idna
