import ClusterGateway.Fault
import ClusterGateway.Identity
import ClusterGateway.Json.Value
import ClusterGateway.Limit.Setting
import ClusterGateway.Location.Basic
import ClusterGateway.Timestamp

/-! # Snapshots

A snapshot is the replicated configuration at one point of the log: the locations, the limiter
settings and the blocked networks. Kept on disk it travels in an envelope that says which entry was
the last one applied, when it was taken and by whom.
-/

namespace ClusterGateway

/-- The routing part of the replicated configuration. -/
structure RoutingState where
  routerType : String := ""
  locations : Dict Location := ∅
  limiters : Dict (List LimiterSetting) := ∅
deriving DecidableEq, Repr, Inhabited

/-- The replicated configuration. -/
structure StateSnapshot where
  routing : RoutingState := {}
  records : List String := []
deriving DecidableEq, Repr, Inhabited

/-- Why a snapshot could not be written or read. -/
inductive SnapshotError where
  /-- The stored text cannot be read. -/
  | decode (fault : Json.Fault)
  /-- The file system refused an operation on a path. -/
  | storage (path : String) (fault : FileFault)
deriving DecidableEq, Repr

instance : Report SnapshotError where
  kind
    | .decode _ => .applyDecode
    | .storage _ _ => .internal
  message
    | .decode _ => "failed to decode snapshot"
    | .storage path fault => "snapshot i/o on " ++ Text.quoted path ++ ": " ++ fault.text

namespace RoutingState

/-- The stored form of the routing part. -/
def json (s : RoutingState) : String :=
  Json.Write.object
    [("router_type", Json.Write.string s.routerType),
     ("locations", Json.Write.dict Location.json s.locations),
     ("limiters",
      Json.Write.dict
        (fun settings => Json.Write.list (settings.map LimiterSetting.json)) s.limiters)]

/-- A routing part that is being read. -/
structure Draft where
  routerType : Option String := none
  locations : Option (Dict Location) := none
  limiters : Option (Dict (List LimiterSetting)) := none

/-- The fields of the routing part in stored form. -/
def record : Json.Record Draft RoutingState where
  fields :=
    [{ names := ["router_type"], filled := (·.routerType.isSome)
       fill := fun d => return { d with routerType := some (← Json.Reader.string) } },
     { names := ["locations"], filled := (·.locations.isSome)
       fill := fun d =>
        return { d with locations := some (← Json.Reader.dict Location.reader) } },
     { names := ["limiters"], filled := (·.limiters.isSome)
       fill := fun d =>
        return { d with
          limiters := some (← Json.Reader.dict (Json.Reader.list LimiterSetting.reader)) } }]
  blank := {}
  finish d := do
    return { routerType := ← d.routerType, locations := ← d.locations, limiters := ← d.limiters }

def reader : Json.Reader RoutingState := record.read

/-- Reads a whole text as a routing part. -/
def ofBytes (bytes : Bytes) : Except SnapshotError RoutingState :=
  (Json.readAll reader bytes).mapError .decode

end RoutingState

namespace StateSnapshot

/-- The stored form of a snapshot. -/
def json (s : StateSnapshot) : String :=
  Json.Write.object
    [("routing", s.routing.json),
     ("acl", Json.Write.object [("records", Json.Write.strings s.records)])]

/-- The octets of the stored form. -/
def toBytes (s : StateSnapshot) : Bytes := utf8 s.json

/-- The field of the blocked networks in stored form. -/
def aclRecord : Json.Record (Option (List String)) (List String) where
  fields :=
    [{ names := ["records"], filled := (·.isSome)
       fill := fun _ => return some (← Json.Reader.list Json.Reader.string) }]
  blank := none
  finish d := d

/-- The fields of a snapshot in stored form. -/
def record : Json.Record (Option RoutingState × Option (List String)) StateSnapshot where
  fields :=
    [{ names := ["routing"], filled := (·.1.isSome)
       fill := fun d => return (some (← RoutingState.reader), d.2) },
     { names := ["acl"], filled := (·.2.isSome)
       fill := fun d => return (d.1, some (← aclRecord.read)) }]
  blank := (none, none)
  finish d := do return { routing := ← d.1, records := ← d.2 }

/-- Reads a snapshot from its stored form. -/
def ofBytes (bytes : Bytes) : Except SnapshotError StateSnapshot :=
  (Json.readAll record.read bytes).mapError .decode

end StateSnapshot

/-- A snapshot as it lies on disk. -/
structure PersistedSnapshot where
  index : LogIndex
  createdAt : Timestamp
  node : NodeName := {}
  /-- The state, as a document of any shape. -/
  state : Json.Value
deriving Repr, Inhabited

namespace PersistedSnapshot

/-- Wraps the stored form of a state. -/
def wrap (index : LogIndex) (createdAt : Timestamp) (node : NodeName) (state : Bytes) :
    Except SnapshotError PersistedSnapshot := do
  let state ← (Json.Value.parse state).mapError .decode
  return { index, createdAt, node, state }

/-- The state's own stored form, with the members of every object in order. -/
def stateBytes (s : PersistedSnapshot) : Bytes := utf8 s.state.compact

/-- The document that is written to disk. -/
def document (s : PersistedSnapshot) : Json.Value :=
  .object
    [("index", .whole s.index.val.toNat), ("created_at", .string s.createdAt.text),
     ("node", .string s.node.text), ("state", s.state)]

/-- The octets that are written to disk. -/
def toBytes (s : PersistedSnapshot) : Bytes := utf8 (s.document.pretty 0)

/-- An envelope that is being read. -/
structure Draft where
  index : Option Int := none
  createdAt : Option Timestamp := none
  node : Option String := none
  state : Option Json.Value := none

def timestamp : Json.Reader Timestamp := do
  match Timestamp.parse? (← Json.Reader.string) with
  | some t => return t
  | none => Json.Reader.fail .unexpected

/-- The fields of an envelope in stored form. -/
def record : Json.Record Draft PersistedSnapshot where
  fields :=
    [{ names := ["index"], filled := (·.index.isSome)
       fill := fun d => do
         return { d with index := some (← Json.Reader.integer 0 (Nat.pow 2 64 - 1 : Nat)) } },
     { names := ["created_at"], filled := (·.createdAt.isSome)
       fill := fun d => return { d with createdAt := some (← timestamp) } },
     { names := ["node"], filled := (·.node.isSome), optional := true
       fill := fun d => return { d with node := some (← Json.Reader.string) } },
     { names := ["state"], filled := (·.state.isSome)
       fill := fun d =>
        return { d with state := some (← Json.Value.reader Json.Value.nesting) } }]
  blank := {}
  finish d := do
    return {
      index := ⟨(← d.index).toNat.toUInt64⟩
      createdAt := ← d.createdAt
      node := match d.node with
        | some name => ⟨name⟩
        | none => {}
      state := ← d.state }

/-- Reads an envelope from disk. -/
def ofBytes (bytes : Bytes) : Except SnapshotError PersistedSnapshot :=
  (Json.readAll record.read bytes).mapError .decode

end PersistedSnapshot

end ClusterGateway
