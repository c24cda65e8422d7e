/-! # Kinds of fault

Every refusal of the gateway falls into one of six kinds, by who can do something about it. The kind
decides the label under which the refusal is counted and the status with which an HTTP front end
would answer. Each error type of the library says its kind and its wording through `Report`. What
the file system refuses is told in its own usual words and numbers.
-/

namespace ClusterGateway

/-- What sort of trouble a refusal is. -/
inductive FaultKind where
  | validation
  /-- The request names something that does not exist. -/
  | notFound
  /-- There is no room for the request at the moment. -/
  | capacity
  /-- The log did not commit in time. -/
  | consensusTimeout
  /-- A committed entry or a snapshot cannot be read. -/
  | applyDecode
  /-- The gateway itself failed. -/
  | internal
deriving DecidableEq, Repr, Inhabited

namespace FaultKind

/-- The word under which faults of this kind are counted. -/
def label : FaultKind → String
  | validation => "validation"
  | notFound => "not_found"
  | capacity => "capacity"
  | consensusTimeout => "consensus_timeout"
  | applyDecode => "apply_decode"
  | internal => "internal"

/-- The HTTP status that tells a client of a fault of this kind. -/
def httpStatus : FaultKind → Nat
  | validation => 400
  | notFound => 404
  | capacity => 429
  | consensusTimeout => 504
  | applyDecode => 500
  | internal => 500

end FaultKind

/-- Errors that have a kind and a wording. -/
class Report (ε : Type) where
  kind : ε → FaultKind
  /-- The text shown to an operator. -/
  message : ε → String

/-- Why the file system refused. -/
inductive FileFault where
  /-- Nothing stands at the path. -/
  | notFound
  | notDirectory
  | isDirectory
  /-- Something stands where a directory is to be made. -/
  | alreadyExists
  | broken
  /-- The file is no text in UTF-8. -/
  | notText
deriving DecidableEq, Repr, Inhabited

def FileFault.text : FileFault → String
  | notFound => "No such file or directory (os error 2)"
  | notDirectory => "Not a directory (os error 20)"
  | isDirectory => "Is a directory (os error 21)"
  | alreadyExists => "File exists (os error 17)"
  | broken => "Input/output error (os error 5)"
  | notText => "stream did not contain valid UTF-8"

def joinPath (directory name : String) : String :=
  if directory.isEmpty ∨ directory.toList.getLast? = some '/' then directory ++ name
  else directory ++ "/" ++ name

end ClusterGateway
