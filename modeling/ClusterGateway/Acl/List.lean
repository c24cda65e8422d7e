import ClusterGateway.Acl.Trie
import ClusterGateway.Dict
import ClusterGateway.Fault
import ClusterGateway.Logging
import ClusterGateway.Net.Network

/-! # Access lists

An access list refuses clients by the networks their addresses lie in. It keeps the texts of the
blocked networks, which is what snapshots carry, and a trie over their leading bits with a tag for
each, which is what look-ups use.
-/

namespace ClusterGateway

/-- Why an access list refused a request. -/
inductive AclError where
  | invalidAddress (text : String)
  /-- The number of leading bits is none. -/
  | invalidMask (text : String)
  | notFound (text : String)
  /-- The tag is empty, which is what an address outside all networks would look like. -/
  | emptyTag (text : String)
deriving DecidableEq, Repr

instance : Report AclError where
  kind
    | .invalidAddress _ => .validation
    | .invalidMask _ => .validation
    | .notFound _ => .notFound
    | .emptyTag _ => .validation
  message
    | .invalidAddress text => "invalid ip address '" ++ text ++ "', expected a.b.c.d/len"
    | .invalidMask text => "invalid net mask in '" ++ text ++ "', must be in [0, 32]"
    | .notFound text => "no rule registered for '" ++ text ++ "'"
    | .emptyTag text => "invalid input: empty tag for '" ++ text ++ "'"

/-- Reads a network; the error quotes the text as it was given. -/
def parseCidr (text : String) : Except AclError Network :=
  match Network.parse text with
  | .ok net => .ok net
  | .error .address => .error (.invalidAddress text)
  | .error .mask => .error (.invalidMask text)

/-- The bits under which a network is kept. -/
def Network.path (net : Network) : List Bool := leadingBits net.address net.mask

/-- Blocked networks. -/
structure AccessList where
  /-- The tags by leading bits. -/
  trie : BitTrie String := {}
  records : Dict Unit := ∅
deriving Inhabited

namespace AccessList

/-- The list that blocks nothing. -/
def empty : AccessList := {}

def put (acl : AccessList) (net : Network) (tag : String) : AccessList :=
  { trie := acl.trie.insert net.path tag, records := acl.records.insert net.text () }

/-- Blocks a network under a tag, which replaces the one it had. -/
def add (acl : AccessList) (cidr tag : String) : Except AclError AccessList :=
  if tag.isEmpty then .error (.emptyTag cidr)
  else (parseCidr cidr).map (acl.put · tag)

/-- Blocks a network and tags it with its own text. -/
def block (acl : AccessList) (cidr : String) : Except AclError AccessList :=
  (parseCidr cidr).map fun net => acl.put net net.text

/-- Frees a network. -/
def delete (acl : AccessList) (cidr : String) : Except AclError AccessList := do
  let net ← parseCidr cidr
  match acl.trie.erase net.path with
  | (false, _) => .error (.notFound cidr)
  | (true, trie) => return { trie, records := acl.records.erase net.text }

/-- The list that blocks the networks in some texts, each under its own text. -/
def ofRecords (records : List String) : Except AclError AccessList :=
  records.foldlM block empty

/-- The tag of the smallest blocked network around an address. -/
def lookup (acl : AccessList) (address : Ipv4) : Option String :=
  acl.trie.search (bitsOf address.val)

/-- The tag for a client that is given as an address, perhaps with a colon and a port. -/
def search (acl : AccessList) (client : String) : Except AclError (Option String) :=
  match Ipv4.parse? (client.toList.takeWhile (· ≠ ':')) with
  | some address => .ok (acl.lookup address)
  | none => .error (.invalidAddress client)

/-- Whether a client is refused. Of the addresses of version six only those that stand for one of
version four are looked up. -/
def isDenied (acl : AccessList) : IpAddress → Bool
  | .v4 address => (acl.lookup address).isSome
  | .v6 address =>
    match address.mapped? with
    | some mapped => (acl.lookup mapped).isSome
    | none => false

/-- The texts of the blocked networks in ascending order. -/
def toList (acl : AccessList) : List String := acl.records.keys

/-- The number of blocked networks. -/
def size (acl : AccessList) : Nat := acl.records.size

/-- Whether nothing is blocked. -/
def isEmpty (acl : AccessList) : Bool := acl.size = 0

/-- The blocked networks for diagnostics. -/
def shown (acl : AccessList) : String :=
  "AclRules \x7b records: " ++ Text.quotedList "\x7b" "\x7d" acl.toList ++ " \x7d"

end AccessList

end ClusterGateway
