import ClusterGateway.Toml.Item
import ClusterGateway.Toml.Number
import ClusterGateway.Toml.Quoted

/-! # TOML documents

A document is a sequence of lines: assignments of values to keys, headers that say to which table
the assignments behind them belong, and comments. Values may go over several lines where brackets
allow it.
-/

namespace ClusterGateway.Toml

/-- A step that takes something off the front of a text, or fails. -/
abbrev Scan (α : Type) := StateT (List Char) Option α

namespace Scan

/-- The text that remains. -/
def rest : Scan (List Char) := get

def fail {α : Type} : Scan α := fun _ => none

/-- The next character, which stays where it is. -/
def peek : Scan (Option Char) := fun text => some (text.head?, text)

/-- Takes one character, which must be the given one. -/
def mark (c : Char) : Scan Unit := fun text => (behind? c text).map ((), ·)

/-- Passes over blanks within a line. -/
def blanks : Scan Unit := fun text => some ((), text.dropWhile isBlank)

/-- Passes over a comment, if one starts here. -/
def comment : Scan Unit := fun text =>
  match text with
  | '#' :: rest => some ((), rest.dropWhile isLineChar)
  | _ => some ((), text)

/-- Takes a line break or finds the end of the text. -/
def lineEnd : Scan Unit := fun text =>
  if text.isEmpty then some ((), []) else (lineBreak? text).map ((), ·)

/-- Passes over blanks and a comment up to the end of the line. -/
def restOfLine : Scan Unit := do
  blanks
  comment
  lineEnd

/-- Passes over blanks, comments and line breaks. -/
def gap : Nat → Scan Unit
  | 0 => return ()
  | fuel + 1 => do
    blanks
    comment
    match lineBreak? (← rest) with
    | some behind => do set behind; gap fuel
    | none => return ()

/-- Passes over blanks, comments and line breaks up to something else. -/
def gaps : Scan Unit := do gap ((← rest).length + 1)

/-- Takes a word. -/
def word (letters : String) : Scan Unit := fun text =>
  if letters.toList.isPrefixOf text then some ((), text.drop letters.length) else none

/-- Takes what a function on texts takes. -/
def take {α : Type} (f : List Char → Option (α × List Char)) : Scan α := f

end Scan

open Scan

/-- How deep values may be nested, and how many parts a dotted key may have. -/
def nestingBound : Nat := 79

/-! ### Keys -/

/-- Whether a character may stand in a key without marks. -/
def isKeyChar (c : Char) : Bool := c.isAlphanum || c = '_' || c = '-'

def keyPart : Scan String := do
  match ← peek with
  | some c =>
    if c = '"' ∨ c = '\'' then return String.ofList (← take quotedLine?)
    else
      let text ← rest
      let part := text.takeWhile isKeyChar
      if part.isEmpty then fail
      set (text.drop part.length)
      return String.ofList part
  | none => fail

/-- The parts of a dotted key, with the bound on their number. -/
def keyParts : Nat → Scan (List String)
  | 0 => fail
  | bound + 1 => do
    blanks
    let part ← keyPart
    blanks
    match ← peek with
    | some c =>
      if c = '.' then do mark '.'; return part :: (← keyParts bound) else return [part]
    | none => return [part]

/-- A dotted key: the tables that it leads through, and its last part. -/
def key : Scan (List String × String) := do
  let parts ← keyParts nestingBound
  match parts.getLast? with
  | some last => return (parts.dropLast, last)
  | none => fail

/-! ### Values -/

/-- The items of a list up to its closing bracket; a comma may stand behind the last one. -/
def items (item : Scan Value) : Nat → Scan (List Value)
  | 0 => fail
  | fuel + 1 => do
    gaps
    if (← peek) = some ']' then
      mark ']'
      return []
    let first ← item
    gaps
    if (← peek) = some ',' then
      mark ','
      return first :: (← items item fuel)
    else
      mark ']'
      return [first]

/-- The assignments of a table in braces, from the first one on. -/
def assignments (item : Scan Value) : Nat → Scan (List (List String × String × Value))
  | 0 => fail
  | fuel + 1 => do
    let (path, last) ← key
    mark '='
    blanks
    let v ← item
    blanks
    if (← peek) = some ',' then
      mark ','
      return (path, last, v) :: (← assignments item fuel)
    else
      mark '\x7d'
      return [(path, last, v)]

/-- A table behind its opening brace. -/
def braces (item : Scan Value) : Scan Value := do
  blanks
  if (← peek) = some '\x7d' then
    mark '\x7d'
    return .table []
  let all ← assignments item ((← rest).length + 1)
  match Entries.assignAll all [] with
  | some entries => return .table (finishedEntries entries)
  | none => fail

/-- A list behind its opening bracket. -/
def brackets (item : Scan Value) : Scan Value := do
  return .list (← items item ((← rest).length + 1))

/-- A value, given what reads the values inside brackets and braces, where there may be any. -/
def valueWith (inner : Option (Scan Value)) : Scan Value := do
  match ← peek, inner with
  | none, _ => fail
  | some '"', _ | some '\'', _ => return .string (String.ofList (← take quoted?))
  | some 't', _ => do word "true"; return .bool true
  | some 'f', _ => do word "false"; return .bool false
  | some '[', some item => do mark '['; brackets item
  | some '\x7b', some item => do mark '\x7b'; braces item
  | some _, _ => take number?

/-- A value with at most so many brackets and braces around each other. -/
def value : Nat → Scan Value
  | 0 => valueWith none
  | depth + 1 => valueWith (some (value depth))

/-! ### Lines -/

/-- What a header says about the assignments behind it. -/
inductive Header where
  | table (path : List String) (key : String)
  | element (path : List String) (key : String)

/-- A line of a document. -/
inductive Line where
  | assignment (path : List String) (key : String) (v : Value)
  | header (header : Header)
  /-- A line that says nothing. -/
  | blank

/-- A header up to the end of its line. -/
def header : Scan Header := do
  mark '['
  if (← peek) = some '[' then
    mark '['
    let (path, last) ← key
    word "]]"
    restOfLine
    return .element path last
  else
    let (path, last) ← key
    mark ']'
    restOfLine
    return .table path last

def assignment : Scan Line := do
  let (path, last) ← key
  mark '='
  blanks
  let v ← value nestingBound
  restOfLine
  return .assignment path last v

/-- A line with its end. -/
def line : Scan Line := do
  blanks
  match ← peek with
  | some '[' => return .header (← header)
  | some c =>
    if c = '#' ∨ c = '\n' ∨ c = '\r' then do restOfLine; return .blank else assignment
  | none => return .blank

/-- The lines of a document. -/
def lines : Nat → Scan (List Line)
  | 0 => fail
  | fuel + 1 => do
    if (← rest).isEmpty then return []
    let first ← line
    return first :: (← lines fuel)

/-! ### Documents -/

/-- Assignments with the header above them, if there is one. -/
structure Section where
  header : Option Header
  /-- The assignments, first to last. -/
  assignments : List (List String × String × Value)

/-- The sections of a document. -/
def sections (lines : List Line) : List Section :=
  let step (l : Line) (acc : List (List String × String × Value) × List Section) :=
    match l with
    | .assignment path key v => ((path, key, v) :: acc.1, acc.2)
    | .header header => ([], ⟨some header, acc.1⟩ :: acc.2)
    | .blank => acc
  let (front, behind) := lines.foldr step ([], [])
  ⟨none, front⟩ :: behind

/-- Adds a section to the table of the document. -/
def Entries.addSection (entries : Entries) (s : Section) : Option Entries :=
  match s.header with
  | none => entries.assignAll s.assignments
  | some (.table path key) => entries.update path key (Entries.open_ s.assignments)
  | some (.element path key) => entries.update path key (Entries.append s.assignments)

/-- The text of a document without the mark of byte order at its front. -/
def withoutMark : List Char → List Char
  | c :: rest => if c.toNat = 0xFEFF then rest else c :: rest
  | [] => []

/-- Reads a document. -/
def parse (text : String) : Option Value := do
  let chars := withoutMark text.toList
  let (all, _) ← (lines (chars.length + 1)).run chars
  let entries ← (sections all).foldlM Entries.addSection []
  return .table (finishedEntries entries)

end ClusterGateway.Toml
