import ClusterGateway.Dict

/-! # Longest-prefix routing

A router keeps a target for each pattern and finds the target for a path by the longest pattern that
is the whole path or a front part of it up to a slash. The target gets the rest of the path. The
pattern `/` stands for all paths that no other pattern claims.
-/

namespace ClusterGateway

/-- Targets by pattern. -/
structure Router (α : Type) where
  entries : Dict α := ∅
deriving Inhabited

/-- What a router finds for a path. -/
structure RouteMatch (α : Type) where
  pattern : String
  target : α
  /-- The path that the target is asked for. -/
  path : String
deriving DecidableEq, Repr

namespace Router

variable {α : Type}

def kind : String := "default"

/-- The target of a pattern. -/
def get? (r : Router α) (pattern : String) : Option α := r.entries.get? pattern

/-- Whether a pattern has a target. -/
def contains (r : Router α) (pattern : String) : Bool := r.entries.contains pattern

/-- Gives a pattern a target, in place of the one it had. -/
def insert (r : Router α) (pattern : String) (target : α) : Router α :=
  ⟨r.entries.insert pattern target⟩

/-- Takes a pattern out. -/
def erase (r : Router α) (pattern : String) : Router α := ⟨r.entries.erase pattern⟩

/-- The patterns in ascending order. -/
def patterns (r : Router α) : List String := r.entries.keys

/-- The targets in the order of their patterns. -/
def targets (r : Router α) : List α := r.entries.values

/-- The number of patterns. -/
def size (r : Router α) : Nat := r.entries.size

/-- Whether there is no pattern. -/
def isEmpty (r : Router α) : Bool := r.entries.isEmpty

/-- The ways to cut a path before a slash that is not its first character, the latest cut first.
Here `before` is what stands before the rest, last character first. -/
def cuts (before : List Char) : List Char → List (List Char × List Char)
  | [] => []
  | c :: rest =>
    let later := cuts (c :: before) rest
    if c = '/' ∧ before ≠ [] then later ++ [(before.reverse, c :: rest)] else later

/-- The match of a pattern that is one part of a cut; the path becomes the other part. -/
def matchCut (r : Router α) (cut : List Char × List Char) : Option (RouteMatch α) :=
  let pattern := String.ofList cut.1
  (r.get? pattern).map fun target => ⟨pattern, target, String.ofList cut.2⟩

/-- The match of a path that is itself a pattern, other than the root. -/
def matchWhole (r : Router α) (path : String) : Option (RouteMatch α) :=
  if path = "/" then none else (r.get? path).map fun target => ⟨path, target, "/"⟩

/-- The match of the root, which leaves the path as it is. -/
def matchRoot (r : Router α) (path : String) : Option (RouteMatch α) :=
  (r.get? "/").map fun target => ⟨"/", target, path⟩

/-- The longest pattern for a path with its target and the path that is left. -/
def route (r : Router α) (path : String) : Option (RouteMatch α) :=
  (r.matchWhole path).or
    (((cuts [] path.toList).findSome? r.matchCut).or (r.matchRoot path))

end Router

end ClusterGateway
