import ClusterGateway.Toml.Value

/-! # Tables under construction

The tables of a document grow while it is read, and TOML forbids most ways of reaching one table
twice. So each table remembers how it came about: through a header of its own, as the way to a table
with a header, or through a dotted key. A table given in braces and a list in brackets are values,
to which nothing is added.
-/

namespace ClusterGateway.Toml

/-- How a table came about. -/
inductive Origin where
  | header
  /-- A header names it on the way to another table. -/
  | passed
  /-- A dotted key names it. -/
  | dotted
deriving DecidableEq, Repr

/-- What stands at a key while a document is read. -/
inductive Item where
  | value (v : Value)
  /-- A table that may still grow. -/
  | table (origin : Origin) (entries : List (String × Item))
  /-- A list of tables, each with a header, of which the last may still grow. -/
  | tables (elements : List (List (String × Item)))
deriving Repr, Inhabited

/-- The entries of a table under construction. -/
abbrev Entries := List (String × Item)

namespace Entries

def get? (entries : Entries) (key : String) : Option Item :=
  (entries.find? (·.1 = key)).map (·.2)

/-- Puts something at a key. -/
def put (entries : Entries) (key : String) (item : Item) : Entries :=
  if entries.any (·.1 = key) then entries.map fun e => if e.1 = key then (key, item) else e
  else entries ++ [(key, item)]

/-- Gives a dotted key a value. Tables on the way come about through dotted keys; one with a header
is not entered, and the last one must have come about in this way. -/
def assign : (path : List String) → (key : String) → Value → Entries → Option Entries
  | [], key, v, entries =>
    if (entries.get? key).isSome then none else some (entries.put key (.value v))
  | name :: path, key, v, entries =>
    match entries.get? name with
    | none => do return entries.put name (.table .dotted (← assign path key v []))
    | some (.table origin inner) => do
      if origin = .header ∨ (path.isEmpty ∧ origin ≠ .dotted) then none
      return entries.put name (.table origin (← assign path key v inner))
    | some (.tables elements) => do
      if path.isEmpty then none
      let last ← assign path key v (elements.getLastD [])
      return entries.put name (.tables (elements.dropLast ++ [last]))
    | some (.value _) => none

/-- Changes what stands at the end of the path of a header. Lists of tables are entered at their
last table. -/
def update : (path : List String) → (key : String) → (Option Item → Option Item) → Entries →
    Option Entries
  | [], key, change, entries => do return entries.put key (← change (entries.get? key))
  | name :: path, key, change, entries =>
    match entries.get? name with
    | none => do return entries.put name (.table .passed (← update path key change []))
    | some (.table origin inner) => do
      return entries.put name (.table origin (← update path key change inner))
    | some (.tables elements) => do
      let last ← update path key change (elements.getLastD [])
      return entries.put name (.tables (elements.dropLast ++ [last]))
    | some (.value _) => none

/-- Gives dotted keys their values, one after another. -/
def assignAll (assignments : List (List String × String × Value)) (entries : Entries) :
    Option Entries :=
  assignments.foldlM (fun entries a => entries.assign a.1 a.2.1 a.2.2) entries

/-- Gives a table its header and adds to it. A table that was only passed so far keeps its entries.
-/
def open_ (assignments : List (List String × String × Value)) : Option Item → Option Item
  | none => (assignAll assignments []).map (.table .header)
  | some (.table .passed entries) => (assignAll assignments entries).map (.table .header)
  | some _ => none

def append (assignments : List (List String × String × Value)) : Option Item → Option Item
  | none => do return .tables [← assignAll assignments []]
  | some (.tables elements) => do return .tables (elements ++ [← assignAll assignments []])
  | some _ => none

end Entries

mutual

def Item.finished : Item → Value
  | .value v => v
  | .table _ entries => .table (finishedEntries entries)
  | .tables elements => .list (finishedTables elements)

/-- The entries of a table with the values that they have become. -/
def finishedEntries : List (String × Item) → List (String × Value)
  | [] => []
  | (key, item) :: rest => (key, item.finished) :: finishedEntries rest

def finishedTables : List (List (String × Item)) → List Value
  | [] => []
  | entries :: rest => .table (finishedEntries entries) :: finishedTables rest

end

end ClusterGateway.Toml
