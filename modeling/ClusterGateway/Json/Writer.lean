import ClusterGateway.Dict

/-! # Writing JSON text

Text is written without blanks, fields in the order in which they are given, and as few escapes as
JSON allows: the two marks that need one, five controls with a letter of their own, and the other
controls by their code.
-/

namespace ClusterGateway.Json

/-- The lower-case hexadecimal digit of a number below sixteen. -/
def hexDigit (n : Nat) : Char := if n < 10 then Char.ofNat (0x30 + n) else Char.ofNat (0x57 + n)

def escaped (c : Char) : String :=
  if c = '"' then "\\\""
  else if c = '\\' then "\\\\"
  else if c.toNat = 0x08 then "\\b"
  else if c.toNat = 0x0C then "\\f"
  else if c = '\n' then "\\n"
  else if c = '\r' then "\\r"
  else if c = '\t' then "\\t"
  else if c.toNat < 0x20 then
    String.ofList ['\\', 'u', '0', '0', hexDigit (c.toNat / 16), hexDigit (c.toNat % 16)]
  else c.toString

namespace Write

def string (s : String) : String := "\"" ++ String.join (s.toList.map escaped) ++ "\""

/-- A whole number. -/
def integer (n : Int) : String := toString n

/-- A list of values that are written already. -/
def list (items : List String) : String := "[" ++ ",".intercalate items ++ "]"

/-- An object of members whose values are written already. -/
def object (members : List (String × String)) : String :=
  "\x7b" ++ ",".intercalate (members.map (fun m => string m.1 ++ ":" ++ m.2)) ++ "\x7d"

/-- A dictionary in the order of its keys. -/
def dict {α : Type} (item : α → String) (d : Dict α) : String :=
  object (d.entries.map (fun e => (e.1, item e.2)))

def strings (items : List String) : String := list (items.map string)

end Write

end ClusterGateway.Json
