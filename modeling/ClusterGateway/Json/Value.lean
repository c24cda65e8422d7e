import ClusterGateway.Json.Record
import ClusterGateway.Json.Writer

/-! # JSON values of any shape

A document whose shape is not known beforehand is read into a `Value`. Members of an object are kept
in ascending order of their names and the last of several with one name counts, so writing a value
gives one text for all ways of writing the same document. Values may be nested 127 deep.
-/

namespace ClusterGateway.Json

/-- A JSON document. -/
inductive Value where
  | null
  | bool (b : Bool)
  | whole (n : Int)
  /-- Any other number, as written. -/
  | real (literal : String)
  | string (s : String)
  | list (items : List Value)
  /-- An object, its members in ascending order of their names. -/
  | object (members : List (String × Value))
deriving Repr, Inhabited

namespace Value

open Reader

/-- An object made of members in any order; the last of several with one name counts. -/
def ofMembers (members : List (String × Value)) : Value :=
  .object (Dict.ofList members).entries

/-- A value inside at most `depth - 1` lists and objects of its own. -/
def reader : Nat → Reader Value
  | 0 => fail .malformed
  | depth + 1 => do
    match ← peek with
    | none => fail .truncated
    | some b =>
      if b = 0x6E then do skip; word [0x75, 0x6C, 0x6C]; return .null
      else if b = 0x74 then do skip; word [0x72, 0x75, 0x65]; return .bool true
      else if b = 0x66 then do skip; word [0x61, 0x6C, 0x73, 0x65]; return .bool false
      else if b = Byte.minus ∨ Byte.isDigit b then
        match ← number with
        | .whole n => return .whole n
        | .real literal => return .real ((ofUtf8? literal).getD "")
      else if b = Byte.quote then do skip; return .string (← stringBody)
      else if b = Byte.openBracket then
        if depth = 0 then fail .malformed
        skip
        return .list (← elements (reader depth) true ((← remaining) + 1))
      else if b = Byte.openBrace then
        if depth = 0 then fail .malformed
        skip
        return ofMembers (← members (reader depth) true ((← remaining) + 1))
      else fail .malformed

/-- How many lists and objects may stand around each other. -/
def nesting : Nat := 127

/-- Reads a whole document. -/
def parse (bytes : Bytes) : Except Fault Value := readAll (reader (nesting + 1)) bytes

mutual

/-- The text of a value without blanks. -/
def compact : Value → String
  | .null => "null"
  | .bool true => "true"
  | .bool false => "false"
  | .whole n => Write.integer n
  | .real literal => literal
  | .string s => Write.string s
  | .list items => "[" ++ ",".intercalate (compactItems items) ++ "]"
  | .object members => "\x7b" ++ ",".intercalate (compactMembers members) ++ "\x7d"

/-- The texts of the elements of a list. -/
def compactItems : List Value → List String
  | [] => []
  | item :: items => compact item :: compactItems items

/-- The texts of the members of an object. -/
def compactMembers : List (String × Value) → List String
  | [] => []
  | (name, value) :: members =>
    (Write.string name ++ ":" ++ compact value) :: compactMembers members

end

/-- A line break and an indentation of two blanks a level. -/
def newline (level : Nat) : String := "\n" ++ String.ofList (List.replicate (2 * level) ' ')

/-- Parts on lines of their own between two brackets; nothing between the brackets if there are
none. -/
def block (level : Nat) (opening closing : String) (parts : List String) : String :=
  if parts.isEmpty then opening ++ closing
  else
    opening ++ newline (level + 1) ++ ("," ++ newline (level + 1)).intercalate parts ++
      newline level ++ closing

mutual

/-- The text of a value with every element and member on a line of its own. -/
def pretty (level : Nat) : Value → String
  | .null => "null"
  | .bool true => "true"
  | .bool false => "false"
  | .whole n => Write.integer n
  | .real literal => literal
  | .string s => Write.string s
  | .list items => block level "[" "]" (prettyItems (level + 1) items)
  | .object members => block level "\x7b" "\x7d" (prettyMembers (level + 1) members)

/-- The texts of the elements of a list at their level. -/
def prettyItems (level : Nat) : List Value → List String
  | [] => []
  | item :: items => pretty level item :: prettyItems level items

/-- The texts of the members of an object at their level. -/
def prettyMembers (level : Nat) : List (String × Value) → List String
  | [] => []
  | (name, value) :: members =>
    (Write.string name ++ ": " ++ pretty level value) :: prettyMembers level members

end

end Value

end ClusterGateway.Json
