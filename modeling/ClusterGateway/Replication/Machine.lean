import ClusterGateway.Replication.Entry
import ClusterGateway.Route.Table

/-! # The replicated state machine

A machine holds a routing table that changes through committed log entries and snapshots alone. An
entry that cannot be read tells that the machine no longer follows the log: it has diverged, and
applies nothing until a snapshot is restored.
-/

namespace ClusterGateway

/-- Why an entry was not applied. -/
inductive ApplyError where
  | decode (error : DecodeError)
  | diverged
  | routing (error : RoutingError)
  | acl (error : AclError)
deriving DecidableEq, Repr

instance : Report ApplyError where
  kind
    | .decode _ => .applyDecode
    | .diverged => .applyDecode
    | .routing error => Report.kind error
    | .acl error => Report.kind error
  message
    | .decode error => "failed to decode log entry: " ++ error.message
    | .diverged => "state machine diverged, waiting for a snapshot restore"
    | .routing error => Report.message error
    | .acl error => Report.message error

/-- The fault of the JSON reader behind an error, if there is one. -/
def ApplyError.jsonFault? : ApplyError → Option Json.Fault
  | .decode error => error.jsonFault?
  | _ => none

/-- What the surroundings of a machine contribute when an entry is applied. -/
structure Surroundings where
  /-- The time at which token buckets are filled, in nanoseconds. -/
  instant : Nat := 0
  /-- Whether the checks of a removed host end in time. -/
  checksStop : Bool := true
deriving DecidableEq, Repr, Inhabited

/-- A replicated state machine. -/
structure Machine where
  table : Table := {}
  diverged : Bool := false
  lastApplied : LogIndex := .zero
deriving Inhabited

namespace Machine

def state (m : Machine) : StateSnapshot :=
  { routing := m.table.state, records := m.table.acl.toList }

/-- The stored form of the state. -/
def snapshot (m : Machine) : Bytes := m.state.toBytes

/-- Shows the number of blocked networks in the metrics. -/
def countRules (t : Table) : Table :=
  { t with metrics := { t.metrics with aclRules := t.acl.size } }

/-- The result of a change, and the table as it was if the change was refused. -/
def outcome {ε : Type} (t : Table) (wrap : ε → ApplyError) :
    Except ε Table → Except ApplyError Unit × Table
  | .ok changed => (.ok (), changed)
  | .error error => (.error (wrap error), t)

/-- Changes the access list. -/
def mutate (t : Table) (action : AclAction) (cidr : String) : Except AclError Table :=
  let changed := match action with
    | .insert => t.acl.block cidr
    | .delete => t.acl.delete cidr
  changed.map fun acl => countRules { t with acl }

/-- Makes the change of an entry. -/
def execute (t : Table) (around : Surroundings) : LogEntry → Except ApplyError Unit × Table
  | .createPool l => outcome t .routing ((t.addPool l).map (·.2))
  | .setRateLimiter s => outcome t .routing (t.setLimiter s around.instant)
  | .aclMutate action cidr => outcome t .acl (mutate t action cidr)
  | .removePool pattern => outcome t .routing (t.removePool pattern)
  | .removeHost pattern host =>
    let (result, t) := t.removeHost pattern host around.checksStop
    (result.mapError .routing, t)
  | .addHost pattern host => outcome t .routing ((t.addHost pattern host).map (·.2))
  | .changeBalancer pattern mode => outcome t .routing (t.changeBalancer pattern mode)

def countApplied (t : Table) (op : OpCode) : Table :=
  { t with metrics := t.metrics.recordApplied op.label }

def countFailure (t : Table) (error : ApplyError) : Table :=
  { t with metrics := t.metrics.recordFailure (Report.kind error).label }

/-- Applies a committed entry. -/
def apply (m : Machine) (around : Surroundings) (index : LogIndex) (bytes : Bytes) :
    Except ApplyError Unit × Machine :=
  let m := { m with lastApplied := index }
  if m.diverged then (.error .diverged, { m with table := countFailure m.table .diverged })
  else
    match LogEntry.decode bytes with
    | .error error =>
      (.error (.decode error),
        { m with diverged := true, table := countFailure m.table (.decode error) })
    | .ok entry =>
      match execute m.table around entry with
      | (.ok (), t) => (.ok (), { m with table := countApplied t entry.op })
      | (.error error, t) => (.error error, { m with table := countFailure t error })

/-- The texts of the networks among the records of a snapshot; what is none is left out. -/
def canonicalRecords (records : List String) : List String :=
  records.filterMap fun r => (parseCidr r).toOption.map Network.text

/-- Takes over the state of a snapshot. -/
def adopt (m : Machine) (around : Surroundings) (s : StateSnapshot) : Machine :=
  let acl := (AccessList.ofRecords (canonicalRecords s.records)).toOption
  { m with
    table := countRules (m.table.restore s.routing acl around.instant)
    diverged := false }

/-- Takes over the state of a snapshot in stored form; one that cannot be read changes nothing. -/
def restore (m : Machine) (around : Surroundings) (bytes : Bytes) : Except SnapshotError Machine :=
  (StateSnapshot.ofBytes bytes).map (m.adopt around)

end Machine

end ClusterGateway
