/-! # Values of TOML documents

A document is a table. Numbers with a fraction and points in time are told apart from other values
but not kept, since nothing that the gateway reads is one.
-/

namespace ClusterGateway.Toml

/-- A value of a TOML document. -/
inductive Value where
  | string (s : String)
  | whole (n : Int)
  | bool (b : Bool)
  /-- A number with a fraction or an exponent, or one that is none. -/
  | real
  /-- A date, a time of day or both. -/
  | moment
  | list (items : List Value)
  | table (entries : List (String × Value))
deriving Repr, Inhabited

namespace Value

/-- The text, if the value is one. -/
def text? : Value → Option String
  | string s => some s
  | _ => none

/-- The number, if the value is a whole one that is not negative. -/
def count? : Value → Option Nat
  | whole n => if 0 ≤ n then some n.toNat else none
  | _ => none

/-- The truth value, if the value is one. -/
def bool? : Value → Option Bool
  | bool b => some b
  | _ => none

/-- The items, if the value is a list. -/
def items? : Value → Option (List Value)
  | list items => some items
  | _ => none

/-- A look-up of fields by place and name: a record is written as a table with its fields by name,
or as a list with its fields in order. -/
def fields? : Value → Option (Nat → String → Option Value)
  | table entries => some fun _ name => (entries.find? (·.1 = name)).map (·.2)
  | list items => some fun place _ => items[place]?
  | _ => none

end Value

/-- What a reader makes of a field, or a default if the field is missing. -/
def orDefault {α : Type} (field : Option Value) (read : Value → Option α) (default : α) :
    Option α :=
  match field with
  | none => some default
  | some v => read v

end ClusterGateway.Toml
