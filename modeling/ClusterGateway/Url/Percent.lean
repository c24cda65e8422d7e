import ClusterGateway.Text

/-! # Percent encoding

Characters that have a meaning of their own in a part of a URL, and those outside of visible ASCII,
are written as the octets of their UTF-8 form, each as a percent sign and two hexadecimal digits.
-/

namespace ClusterGateway.Percent

/-- The upper-case hexadecimal digit of a number below sixteen. -/
def digit (n : Nat) : Char := if n < 10 then Char.ofNat (0x30 + n) else Char.ofNat (0x37 + n)

def digitValue? (b : UInt8) : Option Nat :=
  if 0x30 ≤ b ∧ b ≤ 0x39 then some (b.toNat - 0x30)
  else if 0x41 ≤ b ∧ b ≤ 0x46 then some (b.toNat - 0x37)
  else if 0x61 ≤ b ∧ b ≤ 0x66 then some (b.toNat - 0x57)
  else none

/-- An octet with its percent sign. -/
def octet (b : UInt8) : List Char := ['%', digit (b.toNat / 16), digit (b.toNat % 16)]

/-- Whether a character is a control or lies outside of ASCII, which are written as octets
everywhere. -/
def isUnseen (c : Char) : Bool := c.toNat < 0x20 || 0x7E < c.toNat

/-- A text with the unseen characters and those of `marks` written as octets. -/
def encode (marks : List Char) (text : List Char) : List Char :=
  text.flatMap fun c =>
    if isUnseen c || marks.contains c then (utf8 c.toString).flatMap octet else [c]

/-- Octets with those that are written behind a percent sign in their places; a percent sign without
two digits stands for itself. -/
def decode : Bytes → Bytes
  | [] => []
  | 0x25 :: high :: low :: rest =>
    match digitValue? high, digitValue? low with
    | some h, some l => (16 * h + l).toUInt8 :: decode rest
    | _, _ => 0x25 :: decode (high :: low :: rest)
  | b :: rest => b :: decode rest

/-- The marks that are encoded in a fragment. -/
def fragmentMarks : List Char := " \"<>`".toList

/-- The marks that are encoded in a path. -/
def pathMarks : List Char := fragmentMarks ++ "#?\x7b\x7d".toList

/-- The marks that are encoded in the name and password of a user. -/
def userMarks : List Char := pathMarks ++ "/:;=@[\\]^|".toList

/-- The marks that are encoded in the query of a web address. -/
def queryMarks : List Char := " \"#<>'".toList

end ClusterGateway.Percent
