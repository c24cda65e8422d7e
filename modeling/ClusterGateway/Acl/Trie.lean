/-! # A trie of bit strings in an arena

A trie keeps values at bit strings and finds the value at the longest kept string that starts a
given one. Its nodes are slots of an arena and know their children and their parent by number. Slots
given back are chained through their right link and handed out again, last one first, before the
arena grows; a node is given back as soon as it has neither a value nor a child.

Networks are kept under the leading bits of their address: `leadingBits key mask` is the string of
those bits of `key` that stand before the first clear bit of `mask`.
-/

namespace ClusterGateway

/-- The thirty-two bits of a word, highest first. -/
def bitsOf (key : UInt32) : List Bool := (List.range 32).map fun i => key.toBitVec.getMsbD i

/-- The bits of `key` above the highest clear bit of `mask`, highest first. -/
def leadingBits (key mask : UInt32) : List Bool :=
  (((bitsOf key).zip (bitsOf mask)).takeWhile (·.2)).map (·.1)

/-- A slot of the arena. -/
structure TrieNode (α : Type) where
  /-- The node one clear bit further; in a free slot nothing. -/
  left : Option Nat := none
  /-- The node one set bit further; in a free slot the next free slot. -/
  right : Option Nat := none
  parent : Option Nat := none
  value : Option α := none
deriving DecidableEq, Repr, Inhabited

namespace TrieNode

variable {α : Type}

def child (node : TrieNode α) (bit : Bool) : Option Nat := if bit then node.right else node.left

def withChild (node : TrieNode α) (bit : Bool) (link : Option Nat) : TrieNode α :=
  if bit then { node with right := link } else { node with left := link }

/-- Whether a node has no children. -/
def isLeaf (node : TrieNode α) : Bool := node.left.isNone && node.right.isNone

end TrieNode

/-- Values at bit strings. The node of the empty string is in slot zero. -/
structure BitTrie (α : Type) where
  /-- The slots, those of live nodes and free ones. -/
  nodes : Array (TrieNode α) := #[{}]
  /-- The free slot that is handed out next. -/
  free : Option Nat := none
  freeCount : Nat := 0
  size : Nat := 0
deriving Repr, Inhabited

namespace BitTrie

variable {α : Type}

/-- The slot with a number; an empty one beyond the arena. -/
def node (t : BitTrie α) (i : Nat) : TrieNode α := t.nodes.getD i {}

def nodeCount (t : BitTrie α) : Nat := t.nodes.size - t.freeCount

/-- Changes a slot. -/
def update (t : BitTrie α) (i : Nat) (f : TrieNode α → TrieNode α) : BitTrie α :=
  { t with nodes := t.nodes.modify i f }

/-- Takes a slot for a new node below `parent`. -/
def alloc (t : BitTrie α) (parent : Nat) : Nat × BitTrie α :=
  let fresh : TrieNode α := { parent := some parent }
  match t.free with
  | some i =>
    (i, { t.update i (fun _ => fresh) with
      free := (t.node i).right, freeCount := t.freeCount - 1 })
  | none => (t.nodes.size, { t with nodes := t.nodes.push fresh })

/-- Gives a slot back. -/
def release (t : BitTrie α) (i : Nat) : BitTrie α :=
  { t.update i (fun _ => { right := t.free }) with free := some i, freeCount := t.freeCount + 1 }

/-- Follows a bit string as far as there are nodes: the last node, and the bits that are left. -/
def descend (t : BitTrie α) (i : Nat) : List Bool → Nat × List Bool
  | [] => (i, [])
  | bit :: bits =>
    match (t.node i).child bit with
    | some next => t.descend next bits
    | none => (i, bit :: bits)

/-- Adds a chain of nodes for a bit string below a node; answers with the last one. -/
def grow (t : BitTrie α) (i : Nat) : List Bool → Nat × BitTrie α
  | [] => (i, t)
  | bit :: bits =>
    let (next, t) := t.alloc i
    (t.update i (·.withChild bit (some next))).grow next bits

/-- Keeps a value at a bit string, in place of the one kept there. -/
def insert (t : BitTrie α) (path : List Bool) (value : α) : BitTrie α :=
  let (last, missing) := t.descend 0 path
  let (i, t) := t.grow last missing
  let size := if (t.node i).value.isNone then t.size + 1 else t.size
  { t.update i (fun node => { node with value := some value }) with size }

/-- The value kept at the longest start of a bit string below a node, or else `found`. -/
def searchFrom (t : BitTrie α) (i : Nat) (found : Option α) : List Bool → Option α
  | [] => (t.node i).value.or found
  | bit :: bits =>
    let found := (t.node i).value.or found
    match (t.node i).child bit with
    | some next => t.searchFrom next found bits
    | none => found

/-- The value kept at the longest start of a bit string. -/
def search (t : BitTrie α) (path : List Bool) : Option α := t.searchFrom 0 none path

/-- Gives back a node without value and children, and then its parent if nothing is left of that
either; `depth` is how far the node lies below the root. -/
def prune (t : BitTrie α) (i : Nat) : Nat → BitTrie α
  | 0 => t
  | depth + 1 =>
    match (t.node i).parent with
    | none => t
    | some parent =>
      let bit := (t.node parent).right = some i
      let t := (t.update parent (·.withChild bit none)).release i
      let above := t.node parent
      if above.isLeaf && above.value.isNone && above.parent.isSome then t.prune parent depth else t

/-- Takes the value at a bit string out; answers whether there was one. -/
def erase (t : BitTrie α) (path : List Bool) : Bool × BitTrie α :=
  match t.descend 0 path with
  | (i, []) =>
    if (t.node i).value.isNone then (false, t)
    else
      let t := { t.update i (fun node => { node with value := none }) with size := t.size - 1 }
      if i = 0 ∨ !(t.node i).isLeaf then (true, t) else (true, t.prune i path.length)
  | (_, _ :: _) => (false, t)

end BitTrie

end ClusterGateway
