import ClusterGateway.Logging

/-! # Positions in the log and names of nodes

A log index counts committed entries from one; zero stands before the first entry. It is a 64-bit
word, since that is what snapshots store.
-/

namespace ClusterGateway

/-- A position in the log. -/
structure LogIndex where
  val : UInt64
deriving DecidableEq, Repr, Inhabited

namespace LogIndex

/-- The position before the first entry. -/
def zero : LogIndex := ⟨0⟩

/-- The position after this one. -/
def next (i : LogIndex) : LogIndex := ⟨i.val + 1⟩

/-- How many entries lie after `earlier` up to `i`; none when `earlier` is not earlier. -/
def distanceFrom (i earlier : LogIndex) : UInt64 :=
  if earlier.val ≤ i.val then i.val - earlier.val else 0

instance : LT LogIndex := ⟨fun i j => i.val < j.val⟩

instance (i j : LogIndex) : Decidable (i < j) := inferInstanceAs (Decidable (i.val < j.val))

/-- The decimal text of an index, which is also how JSON writes it. -/
def text (i : LogIndex) : String := toString i.val.toNat

@[simp] theorem val_next (i : LogIndex) : i.next.val = i.val + 1 := rfl

end LogIndex

/-- The name by which a node signs its snapshots. -/
structure NodeName where
  text : String := "concord"
deriving DecidableEq, Repr, Inhabited

/-- The name with its type, for diagnostics. -/
def NodeName.shown (name : NodeName) : String :=
  "NodeName(" ++ Text.quoted name.text ++ ")"

end ClusterGateway
