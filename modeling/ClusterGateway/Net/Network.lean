import ClusterGateway.Net.Address
import ClusterGateway.Text

/-! # Networks

A network is a block of addresses of version four that agree in their leading bits. It is written as
an address, a slash and the number of those bits, and it is kept with all other bits clear, so that
each block has one form.
-/

namespace ClusterGateway

/-- The word whose `length` highest bits are set. -/
def netmask (length : Nat) : UInt32 := (Nat.pow 2 32 - Nat.pow 2 (32 - length)).toUInt32

/-- A block of addresses. -/
structure Network where
  /-- The lowest address of the block. -/
  address : UInt32
  /-- The number of leading bits in which its addresses agree. -/
  length : Nat
  /-- An address has thirty-two bits. -/
  length_le : length ≤ 32
  /-- Only leading bits are set. -/
  address_and_netmask : address &&& netmask length = address
deriving DecidableEq, Repr

/-- Why a text names no network. -/
inductive NetworkFault where
  /-- There is no slash, or what stands before it is no address. -/
  | address
  /-- What stands behind the slash is no number up to thirty-two. -/
  | mask
deriving DecidableEq, Repr

namespace Network

instance : Inhabited Network := ⟨⟨0, 0, by omega, by decide⟩⟩

/-- The network of an address and a number of leading bits, its other bits cleared. -/
def ofAddress (address : UInt32) (length : Nat) (h : length ≤ 32) : Network :=
  ⟨address &&& netmask length, length, h, by rw [UInt32.and_assoc, UInt32.and_self]⟩

/-- The word in which the leading bits of the network are set. -/
def mask (net : Network) : UInt32 := netmask net.length

def contains (net : Network) (address : UInt32) : Bool := address &&& net.mask = net.address

/-- A number up to 255 in decimal, perhaps with a plus sign or zeros in front. -/
def length? (text : List Char) : Option Nat :=
  let digits := match text with
    | '+' :: rest => rest
    | _ => text
  if digits.isEmpty ∨ !digits.all Char.isDigit then none
  else
    let n := decimalValue digits
    if n ≤ 255 then some n else none

/-- The text before and after the first slash. -/
def splitSlash : List Char → Option (List Char × List Char)
  | [] => none
  | c :: rest =>
    if c = '/' then some ([], rest)
    else (splitSlash rest).map fun parts => (c :: parts.1, parts.2)

/-- Reads a network; blanks around it do not matter. -/
def parse (text : String) : Except NetworkFault Network :=
  match splitSlash (Text.trimBy Text.isBlank text.toList) with
  | none => .error .address
  | some (before, after) =>
    match Ipv4.parse? before with
    | none => .error .address
    | some address =>
      match length? after with
      | none => .error .mask
      | some length =>
        if h : length ≤ 32 then .ok (ofAddress address.val length h) else .error .mask

def text (net : Network) : String := Ipv4.text ⟨net.address⟩ ++ "/" ++ toString net.length

end Network

end ClusterGateway
