/-! # Path patterns

A pattern names a subtree of paths: it is `/` alone, or segments that each start with a slash and go
on with at least one other character.
-/

namespace ClusterGateway

/-- Why a text is no pattern. -/
inductive PatternFault where
  | noLeadingSlash
  /-- It ends with a slash and is not the root. -/
  | trailingSlash
  /-- Two slashes stand side by side. -/
  | emptySegment
deriving DecidableEq, Repr

namespace Pattern

/-- Whether two slashes stand side by side. -/
def hasEmptySegment : List Char → Bool
  | '/' :: '/' :: _ => true
  | _ :: rest => hasEmptySegment rest
  | [] => false

/-- What is wrong with a pattern, if anything is. -/
def check (pattern : String) : Except PatternFault Unit :=
  let chars := pattern.toList
  if chars.head? ≠ some '/' then .error .noLeadingSlash
  else if 1 < chars.length ∧ chars.getLast? = some '/' then .error .trailingSlash
  else if hasEmptySegment chars then .error .emptySegment
  else .ok ()

def faultText (pattern : String) : PatternFault → String
  | .noLeadingSlash => "pattern '" ++ pattern ++ "' must begin with '/'"
  | .trailingSlash => "pattern '" ++ pattern ++ "' must not end with '/'"
  | .emptySegment => "pattern '" ++ pattern ++ "' contains an empty segment"

end Pattern

end ClusterGateway
