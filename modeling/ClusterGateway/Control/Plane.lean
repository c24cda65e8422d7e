import ClusterGateway.Replication.Consensus

/-! # The control plane

Operators write through the control plane. A request is checked against what the primary knows,
turned into a log entry and proposed; the operator learns what came of the entry once it is
committed. Nothing changes before that. The control plane also answers questions about the primary.
-/

namespace ClusterGateway

/-- Why the control plane refused a request. -/
inductive ControlError where
  | writesOff
  | validation (message : String)
  /-- The request names something that does not exist. -/
  | notFound (message : String)
  | consensus (error : ConsensusError)
  /-- The entry was committed but not applied. -/
  | apply (index : LogIndex) (error : ApplyError)
deriving DecidableEq, Repr

instance : Report ControlError where
  kind
    | .writesOff => .validation
    | .validation _ => .validation
    | .notFound _ => .notFound
    | .consensus error => Report.kind error
    | .apply _ error => Report.kind error
  message
    | .writesOff => "this node is not accepting writes"
    | .validation message => message
    | .notFound message => message
    | .consensus error => Report.message error
    | .apply index error =>
      "committed at index " ++ index.text ++ " but apply failed: " ++ Report.message error

/-- The fault of the JSON reader behind an error, if there is one. -/
def ControlError.jsonFault? : ControlError → Option Json.Fault
  | .consensus (.snapshot (.decode fault)) => some fault
  | .apply _ error => error.jsonFault?
  | _ => none

/-- What an operator may ask for. -/
inductive WriteRequest where
  | createPool (location : Location)
  | setRateLimiter (setting : LimiterSetting)
  | mutateAcl (action : AclAction) (cidr : String)
  | removePool (pattern : String)
  | addHost (pattern host : String)
  /-- That a host, given by its address or as a backend, leave a pool. -/
  | removeHost (pattern host : String)
  | changeBalancer (pattern mode : String)
deriving DecidableEq, Repr, Inhabited

/-- The control plane of a node. -/
structure ControlPlane where
  consensus : Consensus := {}
  writeEnabled : Bool := true
  /-- How many milliseconds a proposal may take. -/
  proposeTimeout : Nat := 5000
deriving Inhabited

namespace ControlPlane

/-- The routing table of the primary. -/
def table (c : ControlPlane) : Table := c.consensus.primary.table

/-! ### Writes -/

/-- The request is refused unless a pool serves the pattern. -/
def requirePool (t : Table) (pattern : String) : Except ControlError Unit :=
  if (t.pool? pattern).isSome then .ok ()
  else .error (.notFound (Report.message (RoutingError.noPool pattern)))

/-- The request is refused unless there is such a mode. -/
def requireMode (mode : String) : Except ControlError Unit :=
  match BalanceMode.ofName mode with
  | .ok _ => .ok ()
  | .error error => .error (.validation (Report.message error))

/-- The request is refused unless there is such a kind of limiter. -/
def requireKind (kind : String) : Except ControlError Unit :=
  match LimiterKind.ofName kind with
  | .ok _ => .ok ()
  | .error error => .error (.validation (Report.message error))

/-- The log entry for a request, unless the request is refused. -/
def prepare (t : Table) : WriteRequest → Except ControlError LogEntry
  | .createPool l => do
    match l.check with
    | .error fault => throw (.validation (Location.faultText l.pattern fault))
    | .ok () => pure ()
    requireMode l.balanceMode
    return .createPool l
  | .setRateLimiter s => do
    if s.path.toList.head? ≠ some '/' then
      throw (.validation ("limiter path '" ++ s.path ++ "' must start with '/'"))
    requireKind s.kind
    requirePool t s.pattern
    return .setRateLimiter s
  | .mutateAcl action cidr => do
    let net ← (parseCidr cidr).mapError fun error => .validation (Report.message error)
    if action = .delete ∧ !t.acl.toList.contains net.text then
      throw (.notFound (Report.message (AclError.notFound cidr)))
    return .aclMutate action net.text
  | .removePool pattern => do
    requirePool t pattern
    return .removePool pattern
  | .addHost pattern host => do
    match Backend.parse host with
    | .error error => throw (.validation error.message)
    | .ok _ => pure ()
    requirePool t pattern
    return .addHost pattern host
  | .removeHost pattern host => do
    if (Text.trim host).isEmpty then throw (.validation "host must not be empty")
    requirePool t pattern
    return .removeHost pattern host
  | .changeBalancer pattern mode => do
    requireMode mode
    requirePool t pattern
    return .changeBalancer pattern mode

/-- What an operator learns of a proposal. -/
def verdict : Except ConsensusError Commit → Except ControlError LogIndex
  | .error error => .error (.consensus error)
  | .ok done =>
    match done.outcome with
    | .ok () => .ok done.index
    | .error error => .error (.apply done.index error)

/-- Proposes an entry if writes are accepted. -/
def propose (c : ControlPlane) (ctx : StepContext) (entry : LogEntry) :
    Except ControlError LogIndex × ControlPlane :=
  if c.writeEnabled then
    let (result, consensus) := c.consensus.propose ctx entry.encode c.proposeTimeout
    (verdict result, { c with consensus })
  else (.error .writesOff, c)

/-- Carries out a request. -/
def write (c : ControlPlane) (ctx : StepContext) (request : WriteRequest) :
    Except ControlError LogIndex × ControlPlane :=
  match prepare c.table request with
  | .error error => (.error error, c)
  | .ok entry => c.propose ctx entry

/-! ### Questions -/

/-- An answer of the routing table, whose every refusal means that something does not exist. -/
def found {α : Type} (answer : Except RoutingError α) : Except ControlError α :=
  answer.mapError fun error => .notFound (Report.message error)

/-- The pools of the primary. -/
def pools (c : ControlPlane) : List PoolInfo := c.table.poolInfos

/-- The paths below a pattern that have a limiter. -/
def methods (c : ControlPlane) (pattern : String) : Except ControlError (List String) :=
  found (c.table.methods pattern)

/-- The live settings of the limiter of a path. -/
def limiterStatus (c : ControlPlane) (pattern path : String) : Except ControlError LimiterStatus :=
  found (c.table.limiterStatus pattern path)

/-- The texts of the blocked networks. -/
def aclList (c : ControlPlane) : List String := c.table.acl.toList

/-- The tag under which a client is blocked, if it is. -/
def aclLookup (c : ControlPlane) (client : IpAddress) : Option String :=
  match c.table.acl.search client.text with
  | .ok tag => tag
  | .error _ => none

end ControlPlane

end ClusterGateway
