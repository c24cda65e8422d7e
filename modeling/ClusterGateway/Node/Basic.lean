import ClusterGateway.Config.Basic
import ClusterGateway.Control.Plane

/-! # A node

A node is a control plane over one machine, set up from a configuration. When it starts it recovers
its last snapshot, or else proposes the locations of its configuration. When it stops it accepts
neither writes nor requests any more, lets the requests under way come to their end, takes a last
snapshot and shuts its pools down.
-/

namespace ClusterGateway

/-- Why a node could not start or stop. -/
inductive NodeError where
  | consensus (error : ConsensusError)
  /-- A location of the configuration was refused. -/
  | bootstrap (pattern : String) (error : ControlError)
deriving DecidableEq, Repr

instance : Report NodeError where
  kind
    | .consensus error => Report.kind error
    | .bootstrap _ error => Report.kind error
  message
    | .consensus error => Report.message error
    | .bootstrap pattern error =>
      "bootstrap of location '" ++ pattern ++ "' failed: " ++ Report.message error

/-- The fault of the JSON reader behind an error, if there is one. -/
def NodeError.jsonFault? : NodeError → Option Json.Fault
  | .consensus error => (ControlError.consensus error).jsonFault?
  | .bootstrap _ error => error.jsonFault?

/-- What an error was caused by, nearest first. -/
def NodeError.causes : NodeError → List String
  | .consensus (.snapshot (.storage _ fault)) => [fault.text]
  | .consensus _ => []
  | .bootstrap _ error =>
    Report.message error ::
      (match error with
        | .apply _ cause => [Report.message cause]
        | _ => [])

/-- A node. -/
structure Node where
  config : Config
  control : ControlPlane
deriving Inhabited

namespace Node

/-- A node that has not started. -/
def build (config : Config) (storage : Storage) : Node :=
  let health := config.healthCheck
  let table : Table :=
    { settings :=
        { replicas := config.loadBalance.replicas
          checkInterval := if health.enabled then some health.interval else none }
      hostWait := health.hostShutdownTimeout }
  let consensus : Consensus :=
    { primary := { table }
      threshold := config.cluster.snapshotThreshold
      storage
      node := ⟨config.node.name⟩ }
  { config, control := { consensus, proposeTimeout := config.cluster.proposeTimeout } }

def name (n : Node) : NodeName := ⟨n.config.node.name⟩

/-- The node for diagnostics. -/
def shown (n : Node) : String :=
  "Node \x7b name: " ++ n.name.shown ++ ", pools: " ++ toString n.control.table.router.size ++
    ", .. \x7d"

/-- Proposes locations one after another, up to the first one that is refused. -/
def bootstrap (ctx : StepContext) :
    List Location → ControlPlane → Except NodeError Unit × ControlPlane
  | [], c => (.ok (), c)
  | l :: rest, c =>
    match c.write ctx (.createPool l) with
    | (.ok _, c) => bootstrap ctx rest c
    | (.error error, c) => (.error (.bootstrap l.pattern error), c)

def start (n : Node) (ctx : StepContext) : Except NodeError Unit × Node :=
  match n.control.consensus.recover ctx with
  | .error error => (.error (.consensus (.snapshot error)), n)
  | .ok (some _, consensus) => (.ok (), { n with control := { n.control with consensus } })
  | .ok (none, _) =>
    if n.config.cluster.bootstrap then
      let (result, control) := bootstrap ctx n.config.locations n.control
      (result, { n with control })
    else (.ok (), n)

/-- Changes the routing table of the primary. -/
def mapTable (c : ControlPlane) (change : Table → Table) : ControlPlane :=
  let primary := { c.consensus.primary with table := change c.consensus.primary.table }
  { c with consensus := { c.consensus with primary } }

/-- Stops accepting writes and requests. -/
def beginStop (n : Node) : Node :=
  let control := mapTable n.control fun t => { t with stopping := true }
  { n with control := { control with writeEnabled := false } }

/-- Takes the last snapshot and shuts the pools down, once requests have come to their end or were
given enough time. If the snapshot fails the pools stay. -/
def finishStop (n : Node) (ctx : StepContext) : Except NodeError LogIndex × Node :=
  match n.control.consensus.takeSnapshot ctx with
  | .error error => (.error (.consensus (.snapshot error)), n)
  | .ok (index, consensus) =>
    (.ok index, { n with control := mapTable { n.control with consensus } Table.shutdownPools })

end Node

end ClusterGateway
