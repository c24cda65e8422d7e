import ClusterGateway.Config.Basic
import ClusterGateway.Location.Backend

/-! # Review of a configuration

A review lists what is wrong with a configuration, by the part that it concerns, and what is only
likely to hurt. A configuration is fit for a node when nothing is wrong with it.
-/

namespace ClusterGateway

/-- The part of a configuration that an error concerns. -/
inductive ConfigPart where
  | location
  | backend
  | cluster
  | healthCheck
  | loadBalance
deriving DecidableEq, Repr

def ConfigPart.label : ConfigPart → String
  | location => "location"
  | backend => "backend"
  | cluster => "cluster"
  | healthCheck => "health_check"
  | loadBalance => "load_balance"

/-- Something that is wrong with a configuration. -/
structure ConfigFinding where
  part : ConfigPart
  message : String
deriving DecidableEq, Repr

/-- A finding with its part. -/
def ConfigFinding.text (f : ConfigFinding) : String := "[" ++ f.part.label ++ "] " ++ f.message

/-- What was found out about a configuration. -/
structure Review where
  errors : List ConfigFinding
  /-- What is likely to hurt. -/
  warnings : List String
deriving DecidableEq, Repr

namespace Review

/-- A review in one line: the errors, or the number of warnings if there are none. -/
def text (r : Review) : String :=
  if r.errors.isEmpty then toString r.warnings.length ++ " warning(s)"
  else "; ".intercalate (r.errors.map ConfigFinding.text)

/-- The review of a configuration that is refused, in words. -/
def refusal (r : Review) : String := "invalid configuration: " ++ r.text

/-- Whether nothing is wrong. -/
def passes (r : Review) : Bool := r.errors.isEmpty

/-! ### Errors -/

/-- What is wrong with a location that comes after others with the patterns `earlier`. -/
def locationErrors (earlier : List String) (l : Location) : List ConfigFinding :=
  (match Pattern.check l.pattern with
    | .error fault => [⟨.location, Pattern.faultText l.pattern fault⟩]
    | .ok () => []) ++
  (if earlier.contains l.pattern then
    [⟨.location, "duplicate location pattern '" ++ l.pattern ++ "'"⟩]
  else []) ++
  (if l.proxyPass.isEmpty then [⟨.location, Location.faultText l.pattern .noHosts⟩] else []) ++
  (l.backendErrors.map fun e => ⟨.backend, Location.faultText l.pattern (.backend e)⟩) ++
  (if l.lacksMode then [⟨.location, Location.faultText l.pattern .noMode⟩] else [])

/-- What is wrong with the locations behind those with the patterns `earlier`. -/
def locationsErrors (earlier : List String) : List Location → List ConfigFinding
  | [] => []
  | l :: rest => locationErrors earlier l ++ locationsErrors (earlier ++ [l.pattern]) rest

/-- A finding if a number that must not be zero is. -/
def nonzero (part : ConfigPart) (n : Nat) (message : String) : List ConfigFinding :=
  if n = 0 then [⟨part, message⟩] else []

/-- What is wrong with a configuration. -/
def errorsOf (c : Config) : List ConfigFinding :=
  locationsErrors [] c.locations ++
  nonzero .cluster c.cluster.proposeTimeout "propose_timeout_ms must be greater than zero" ++
  (if c.healthCheck.enabled then
    nonzero .healthCheck c.healthCheck.interval "interval_ms must be greater than zero" ++
    nonzero .healthCheck c.healthCheck.connectTimeout "connect_timeout_ms must be greater than zero"
  else []) ++
  nonzero .loadBalance c.loadBalance.replicas "replicas must be at least 1"

/-! ### Warnings -/

/-- What is likely to hurt about a location. -/
def locationWarnings (c : Config) (l : Location) : List String :=
  (if l.proxyPass.length = 1 ∧ !c.healthCheck.enabled then
    ["Location '" ++ l.pattern ++
      "' has only one backend and health checks are disabled (no failover possible)"]
  else []) ++
  (if l.pattern = "/" ∧ 1 < c.locations.length then
    ["Location '/' catches every path not claimed by a longer prefix"]
  else [])

/-- What is likely to hurt about a configuration. -/
def warningsOf (c : Config) : List String :=
  let health := c.healthCheck
  (if c.locations.isEmpty ∧ c.cluster.bootstrap then
    ["bootstrap is enabled but no locations are configured"]
  else []) ++
  c.locations.flatMap (locationWarnings c) ++
  (if c.node.dataDir.isNone then ["node.data_dir is unset, snapshots will not survive a restart"]
  else []) ++
  (if health.enabled ∧ health.interval ≤ health.connectTimeout then
    ["health check connect timeout (" ++ toString health.connectTimeout ++
      "ms) is not shorter than the interval (" ++ toString health.interval ++ "ms)"]
  else [])

end Review

def Config.review (c : Config) : Review := ⟨Review.errorsOf c, Review.warningsOf c⟩

end ClusterGateway
