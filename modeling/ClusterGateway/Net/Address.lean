import ClusterGateway.Text

/-! # Internet addresses

Addresses of both versions, their texts, and the addresses of version six that stand for one of
version four.
-/

namespace ClusterGateway

/-- An address of version four. -/
structure Ipv4 where
  /-- The address as a number, its first octet the highest. -/
  val : UInt32
deriving DecidableEq, Repr, Inhabited

/-- An address of version six. -/
structure Ipv6 where
  /-- The eight groups of sixteen bits, first to last. -/
  groups : List Nat
deriving DecidableEq, Repr, Inhabited

/-- An address of either version. -/
inductive IpAddress where
  | v4 (address : Ipv4)
  | v6 (address : Ipv6)
deriving DecidableEq, Repr

def decimalValue (digits : List Char) : Nat :=
  digits.foldl (fun n c => 10 * n + (c.toNat - 0x30)) 0

namespace Ipv4

/-- The address with four octets. -/
def ofOctets (a b c d : Nat) : Ipv4 := ⟨(((a * 256 + b) * 256 + c) * 256 + d).toUInt32⟩

/-- An octet in decimal without needless zeros in front. -/
def octet? (digits : List Char) : Option Nat :=
  if digits.isEmpty ∨ 3 < digits.length ∨ !digits.all Char.isDigit then none
  else if digits.head? = some '0' ∧ 1 < digits.length then none
  else
    let n := decimalValue digits
    if n ≤ 255 then some n else none

/-- Reads four decimal octets with dots between them. -/
def parse? (text : List Char) : Option Ipv4 := do
  match splitAt '.' text with
  | [a, b, c, d] => return ofOctets (← octet? a) (← octet? b) (← octet? c) (← octet? d)
  | _ => none

/-- The four octets, first to last. -/
def octets (a : Ipv4) : List Nat :=
  let n := a.val.toNat
  [n / 0x1000000, n / 0x10000 % 256, n / 0x100 % 256, n % 256]

/-- The octets in decimal with dots between them. -/
def text (a : Ipv4) : String := ".".intercalate (a.octets.map toString)

end Ipv4

namespace Ipv6

/-- The value of a hexadecimal digit. -/
def hexValue? (c : Char) : Option Nat :=
  if c.isDigit then some (c.toNat - 0x30)
  else if 'a' ≤ c ∧ c ≤ 'f' then some (c.toNat - 0x57)
  else if 'A' ≤ c ∧ c ≤ 'F' then some (c.toNat - 0x37)
  else none

/-- A group of one to four hexadecimal digits. -/
def group? (digits : List Char) : Option Nat :=
  if digits.isEmpty ∨ 4 < digits.length then none
  else digits.foldlM (fun n c => (hexValue? c).map (16 * n + ·)) 0

/-- Groups with colons between them, of which the last may be an address of version four. -/
def groups? (text : List Char) : Option (List Nat) :=
  if text.isEmpty then some []
  else go (splitAt ':' text)
where
  /-- Reads the groups one after another. -/
  go : List (List Char) → Option (List Nat)
    | [] => some []
    | [last] =>
      match group? last with
      | some n => some [n]
      | none => (Ipv4.parse? last).map fun a => [a.val.toNat / 65536, a.val.toNat % 65536]
    | part :: parts => do return (← group? part) :: (← go parts)

/-- The text before and after the first two colons in a row. -/
def splitGap (text : List Char) : Option (List Char × List Char) :=
  match text with
  | [] => none
  | ':' :: ':' :: rest => some ([], rest)
  | c :: rest => (splitGap rest).map fun parts => (c :: parts.1, parts.2)

/-- Reads eight groups, or fewer around a gap that stands for zeros. -/
def parse? (text : List Char) : Option Ipv6 := do
  match splitGap text with
  | some (before, after) =>
    if before.contains '.' then none
    let high ← groups? before
    let low ← groups? after
    if 8 ≤ high.length + low.length then none
    return ⟨high ++ List.replicate (8 - high.length - low.length) 0 ++ low⟩
  | none =>
    let all ← groups? text
    if all.length = 8 then some ⟨all⟩ else none

/-- The address of version four for which an address of version six stands, if it does. -/
def mapped? (a : Ipv6) : Option Ipv4 :=
  match a.groups with
  | [0, 0, 0, 0, 0, 0xffff, high, low] => some ⟨(high * 65536 + low).toUInt32⟩
  | _ => none

/-- The address of version six that stands for one of version four. -/
def ofMapped (a : Ipv4) : Ipv6 :=
  ⟨[0, 0, 0, 0, 0, 0xffff, a.val.toNat / 65536, a.val.toNat % 65536]⟩

/-- How many zeros stand at the front. -/
def zerosAtFront (groups : List Nat) : Nat := (groups.takeWhile (· = 0)).length

/-- The first longest run of zeros, by its position and length. -/
def longestZeros : List Nat → Nat × Nat
  | [] => (0, 0)
  | n :: rest =>
    let here := zerosAtFront (n :: rest)
    let (start, length) := longestZeros rest
    if length ≤ here then (0, here) else (start + 1, length)

/-- Groups in hexadecimal with colons between them. -/
def groupsText (groups : List Nat) : String :=
  ":".intercalate (groups.map fun n => String.ofList (Nat.toDigits 16 n))

/-- The groups in hexadecimal, the first longest run of at least two zeros left out. -/
def compressed (a : Ipv6) : String :=
  let (start, length) := longestZeros a.groups
  if length < 2 then groupsText a.groups
  else groupsText (a.groups.take start) ++ "::" ++ groupsText (a.groups.drop (start + length))

/-- The text of an address; one that stands for an address of version four shows that one. -/
def text (a : Ipv6) : String :=
  match a.mapped? with
  | some v4 => "::ffff:" ++ v4.text
  | none => a.compressed

end Ipv6

namespace IpAddress

/-- Reads an address of either version. -/
def parse? (text : String) : Option IpAddress :=
  match Ipv4.parse? text.toList with
  | some a => some (.v4 a)
  | none => (Ipv6.parse? text.toList).map .v6

def text : IpAddress → String
  | v4 a => a.text
  | v6 a => a.text

end IpAddress

end ClusterGateway
