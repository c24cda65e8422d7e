import ClusterGateway.Text

/-! # Reading JSON text

A JSON text is read from its bytes in one pass from left to right, and a reader says what it expects
next. Whatever comes first in the text decides the fault: the text may end too early, break the
rules of JSON, or be JSON of another shape than the reader expects. Nothing behind that point is
looked at.

Readers are functions from the bytes that remain to a value and the bytes left over. Scalars and
strings are read here; lists, dictionaries and records of fields are in
`ClusterGateway.Json.Record`, and values of any shape in `ClusterGateway.Json.Value`.
-/

namespace ClusterGateway

namespace Json

/-- Why a text was refused. -/
inductive Fault where
  /-- The text ended where more was needed. -/
  | truncated
  | malformed
  /-- The text is JSON, but not of the expected shape. -/
  | unexpected
deriving DecidableEq, Repr, Inhabited

/-- A step that takes a value off the front of the remaining octets. -/
abbrev Reader (α : Type) := StateT Bytes (Except Fault) α

namespace Byte

/-- The octet of the mark that opens and closes a string. -/
abbrev quote : UInt8 := 0x22
/-- The octet of the mark that starts an escape. -/
abbrev backslash : UInt8 := 0x5C
/-- The octet of a comma. -/
abbrev comma : UInt8 := 0x2C
/-- The octet of a colon. -/
abbrev colon : UInt8 := 0x3A
/-- The octet of a minus sign. -/
abbrev minus : UInt8 := 0x2D
abbrev openBracket : UInt8 := 0x5B
abbrev closeBracket : UInt8 := 0x5D
abbrev openBrace : UInt8 := 0x7B
abbrev closeBrace : UInt8 := 0x7D

/-- Whether an octet is blank in JSON: space, tab, line feed or carriage return. -/
def isSpace (b : UInt8) : Bool := b = 0x20 || b = 0x09 || b = 0x0A || b = 0x0D

/-- Whether an octet is a decimal digit. -/
def isDigit (b : UInt8) : Bool := 0x30 ≤ b && b ≤ 0x39

/-- The value of a hexadecimal digit. -/
def hexValue? (b : UInt8) : Option Nat :=
  if 0x30 ≤ b ∧ b ≤ 0x39 then some (b.toNat - 0x30)
  else if 0x41 ≤ b ∧ b ≤ 0x46 then some (b.toNat - 0x37)
  else if 0x61 ≤ b ∧ b ≤ 0x66 then some (b.toNat - 0x57)
  else none

end Byte

namespace Reader

def fail {α : Type} (fault : Fault) : Reader α := fun _ => .error fault

/-- The next octet after blanks, which stays where it is. -/
def peek : Reader (Option UInt8) := fun bytes =>
  let rest := bytes.dropWhile Byte.isSpace
  .ok (rest.head?, rest)

/-- Drops the next octet. -/
def skip : Reader Unit := fun bytes => .ok ((), bytes.tail)

/-- How many octets remain, which bounds every loop over them. -/
def remaining : Reader Nat := fun bytes => .ok (bytes.length, bytes)

/-- Takes the next octet, blanks included. -/
def octet : Reader UInt8
  | [] => .error .truncated
  | b :: rest => .ok (b, rest)

/-- Takes the rest of a word whose first letter has been taken. -/
def word : Bytes → Reader Unit
  | [] => pure ()
  | expected :: more => do
    let b ← octet
    if b = expected then word more else fail .malformed

/-- Four hexadecimal digits as a number. -/
def fourHex : Reader Nat
  | a :: b :: c :: d :: rest =>
    match Byte.hexValue? a, Byte.hexValue? b, Byte.hexValue? c, Byte.hexValue? d with
    | some a, some b, some c, some d => .ok (((a * 16 + b) * 16 + c) * 16 + d, rest)
    | _, _, _, _ => .error .malformed
  | _ => .error .truncated

/-- The character of an escape whose `\u` has been taken; a character beyond sixteen bits is two
escapes in a row, and half of one is refused. -/
def unicodeEscape : Reader Char := do
  let high ← fourHex
  if 0xDC00 ≤ high ∧ high ≤ 0xDFFF then fail .malformed
  else if high < 0xD800 ∨ 0xDBFF < high then return Char.ofNat high
  else
    let b ← octet
    if b ≠ Byte.backslash then fail .malformed
    let u ← octet
    if u ≠ 0x75 then fail .malformed
    let low ← fourHex
    if low < 0xDC00 ∨ 0xDFFF < low then fail .malformed
    return Char.ofNat (0x10000 + (high - 0xD800) * 0x400 + (low - 0xDC00))

/-- The octets that an escape stands for, after its backslash. -/
def escape : Reader Bytes := do
  let b ← octet
  if b = Byte.quote ∨ b = Byte.backslash ∨ b = 0x2F then return [b]
  else if b = 0x62 then return [0x08]
  else if b = 0x66 then return [0x0C]
  else if b = 0x6E then return [0x0A]
  else if b = 0x72 then return [0x0D]
  else if b = 0x74 then return [0x09]
  else if b = 0x75 then return utf8 (← unicodeEscape).toString
  else fail .malformed

/-- The octets of a string up to its closing mark; the opening one has been taken. -/
def stringOctets : Nat → Reader Bytes
  | 0 => fail .truncated
  | fuel + 1 => do
    let b ← octet
    if b = Byte.quote then return []
    else if b = Byte.backslash then
      let written ← escape
      return written ++ (← stringOctets fuel)
    else if b < 0x20 then fail .malformed
    else return b :: (← stringOctets fuel)

/-- The text of a string whose opening mark has been taken. -/
def stringBody : Reader String := do
  match ofUtf8? (← stringOctets (← remaining)) with
  | some text => return text
  | none => fail .malformed

/-- A number as JSON can write it. -/
inductive Number where
  | whole (n : Int)
  /-- A number with a fraction or an exponent, or a whole number beyond 64 bits, as written. -/
  | real (literal : Bytes)
deriving DecidableEq, Repr, Inhabited

/-- The decimal digits at the front. -/
def digits : Reader Bytes := fun bytes =>
  .ok (bytes.takeWhile Byte.isDigit, bytes.dropWhile Byte.isDigit)

def decimal (ds : Bytes) : Nat := ds.foldl (fun n d => 10 * n + (d.toNat - 0x30)) 0

/-- The decimal digits at the front, of which there has to be one. -/
def someDigits : Reader Bytes := fun bytes =>
  match bytes with
  | [] => .error .truncated
  | b :: _ => if Byte.isDigit b then digits bytes else .error .malformed

/-- Whether `mantissa * 10 ^ scale` rounds beyond the greatest 64-bit floating-point number, where
`width` bounds the decimal digits of the mantissa. -/
def isHuge (mantissa width : Nat) (scale : Int) : Bool :=
  mantissa ≠ 0 && decide (308 < width + scale) &&
    (decide (308 < scale) ||
      decide ((Nat.pow 2 1024 - Nat.pow 2 970) * Nat.pow 10 (-scale).toNat ≤
        mantissa * Nat.pow 10 scale.toNat))

/-- A number after its sign, which has been taken. -/
def unsigned (negative : Bool) : Reader Number := do
  let ds ← someDigits
  if ds.head? = some 0x30 ∧ 1 < ds.length then fail .malformed
  let fraction ← fraction
  let exponent ← exponent
  let sign : Bytes := if negative then [Byte.minus] else []
  if fraction = [] ∧ exponent.1 = [] then
    let n := decimal ds
    if negative ∧ n ≠ 0 ∧ n ≤ Nat.pow 2 63 then return .whole (-(n : Int))
    else if ¬negative ∧ n < Nat.pow 2 64 then return .whole n
    else if isHuge n ds.length 0 then fail .malformed
    else return .real (sign ++ ds)
  else
    let places := fraction.tail
    if isHuge (decimal (ds ++ places)) (ds.length + places.length) (exponent.2 - places.length) then
      fail .malformed
    return .real (sign ++ ds ++ fraction ++ exponent.1)
where
  /-- The point and the digits behind it, or nothing. -/
  fraction : Reader Bytes := do
    match (← get).head? with
    | some 0x2E => do skip; return 0x2E :: (← someDigits)
    | _ => return []
  /-- The letter, sign and digits of an exponent, and its value; or nothing. -/
  exponent : Reader (Bytes × Int) := do
    match (← get).head? with
    | some letter =>
      if letter = 0x65 ∨ letter = 0x45 then
        skip
        match (← get).head? with
        | some 0x2D => do
          skip
          let ds ← someDigits
          return (letter :: Byte.minus :: ds, -(decimal ds : Int))
        | some 0x2B => do
          skip
          let ds ← someDigits
          return (letter :: 0x2B :: ds, decimal ds)
        | _ => do
          let ds ← someDigits
          return (letter :: ds, decimal ds)
      else return ([], 0)
    | none => return ([], 0)

/-- A number, whose first octet is the next one. -/
def number : Reader Number := do
  match (← get) with
  | 0x2D :: _ => do skip; unsigned true
  | _ => unsigned false

/-- Refuses a value because of its shape. A word, number or string has to be well formed for that; a
list or an object is refused at its first octet. -/
def wrongShape {α : Type} : Reader α := do
  match ← peek with
  | none => fail .truncated
  | some b =>
    if b = 0x6E then do skip; word [0x75, 0x6C, 0x6C]; fail .unexpected
    else if b = 0x74 then do skip; word [0x72, 0x75, 0x65]; fail .unexpected
    else if b = 0x66 then do skip; word [0x61, 0x6C, 0x73, 0x65]; fail .unexpected
    else if b = Byte.minus ∨ Byte.isDigit b then do let _ ← number; fail .unexpected
    else if b = Byte.quote then do skip; let _ ← stringBody; fail .unexpected
    else if b = Byte.openBracket ∨ b = Byte.openBrace then fail .unexpected
    else fail .malformed

def string : Reader String := do
  match ← peek with
  | none => fail .truncated
  | some b => if b = Byte.quote then do skip; stringBody else wrongShape

/-- A whole number between two bounds. -/
def integer (least greatest : Int) : Reader Int := do
  match ← peek with
  | none => fail .truncated
  | some b =>
    if b = Byte.minus ∨ Byte.isDigit b then
      match ← number with
      | .whole n => if least ≤ n ∧ n ≤ greatest then return n else fail .unexpected
      | .real _ => fail .unexpected
    else wrongShape

/-- The end of the text, blanks aside. -/
def finish : Reader Unit := do
  match ← peek with
  | none => return ()
  | some _ => fail .malformed

end Reader

def readAll {α : Type} (reader : Reader α) (bytes : Bytes) : Except Fault α :=
  match (do let a ← reader; Reader.finish; return a : Reader α).run bytes with
  | .ok (a, _) => .ok a
  | .error fault => .error fault

end Json

end ClusterGateway
