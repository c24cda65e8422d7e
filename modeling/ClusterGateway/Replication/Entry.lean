import ClusterGateway.Limit.Setting
import ClusterGateway.Location.Basic

/-! # Log entries

A log entry is one change of the replicated configuration. Its stored form is two octets that name
the kind of change, the higher one first, and a JSON record with its particulars.
-/

namespace ClusterGateway

/-- The kinds of change. -/
inductive OpCode where
  | createPool
  | setRateLimiter
  | aclMutate
  | removePool
  | removeHost
  | addHost
  | changeBalancer
deriving DecidableEq, Repr, Inhabited

namespace OpCode

/-- The number of a kind in stored form. -/
def number : OpCode → Nat
  | createPool => 1
  | setRateLimiter => 2
  | aclMutate => 3
  | removePool => 4
  | removeHost => 5
  | addHost => 6
  | changeBalancer => 7

/-- The kind with a number. -/
def ofNumber? : Nat → Option OpCode
  | 1 => some createPool
  | 2 => some setRateLimiter
  | 3 => some aclMutate
  | 4 => some removePool
  | 5 => some removeHost
  | 6 => some addHost
  | 7 => some changeBalancer
  | _ => none

/-- The word under which changes of a kind are counted. -/
def label : OpCode → String
  | createPool => "create_pool"
  | setRateLimiter => "set_rate_limiter"
  | aclMutate => "acl_mutate"
  | removePool => "remove_pool"
  | removeHost => "remove_host"
  | addHost => "add_host"
  | changeBalancer => "change_balancer"

/-- The two octets at the start of an entry. -/
def header (op : OpCode) : Bytes := [(op.number / 256).toUInt8, (op.number % 256).toUInt8]

@[simp] theorem ofNumber?_number (op : OpCode) : ofNumber? op.number = some op := by
  cases op <;> rfl

end OpCode

/-- What happens to a blocked network. -/
inductive AclAction where
  /-- The block is lifted. -/
  | delete
  /-- The network is blocked. -/
  | insert
deriving DecidableEq, Repr, Inhabited

namespace AclAction

/-- The number of an action in stored form. -/
def number : AclAction → Nat
  | delete => 0
  | insert => 1

def ofNumber? : Nat → Option AclAction
  | 0 => some delete
  | 1 => some insert
  | _ => none

@[simp] theorem ofNumber?_number (action : AclAction) : ofNumber? action.number = some action := by
  cases action <;> rfl

end AclAction

/-- One change of the replicated configuration. -/
inductive LogEntry where
  | createPool (location : Location)
  | setRateLimiter (setting : LimiterSetting)
  | aclMutate (action : AclAction) (cidr : String)
  | removePool (pattern : String)
  | removeHost (pattern host : String)
  | addHost (pattern host : String)
  | changeBalancer (pattern mode : String)
deriving DecidableEq, Repr, Inhabited

/-- Why octets are no log entry. -/
inductive DecodeError where
  /-- There are too few octets for the kind of change. -/
  | tooShort (size : Nat)
  /-- No kind of change has this number. -/
  | unknownOpCode (number : Nat)
  /-- The particulars cannot be read. -/
  | payload (op : OpCode) (fault : Json.Fault)
deriving DecidableEq, Repr

/-- The explanation of a decoding error, up to what the JSON reader has to say. -/
def DecodeError.message : DecodeError → String
  | .tooShort size => "log entry is " ++ toString size ++ " bytes, shorter than its op code"
  | .unknownOpCode number => "unknown op code " ++ toString number
  | .payload op _ => "malformed " ++ op.label ++ " payload"

def DecodeError.jsonFault? : DecodeError → Option Json.Fault
  | .payload _ fault => some fault
  | _ => none

namespace LogEntry

/-- The kind of a change. -/
def op : LogEntry → OpCode
  | createPool _ => .createPool
  | setRateLimiter _ => .setRateLimiter
  | aclMutate _ _ => .aclMutate
  | removePool _ => .removePool
  | removeHost _ _ => .removeHost
  | addHost _ _ => .addHost
  | changeBalancer _ _ => .changeBalancer

/-- The particulars of a change as JSON. -/
def payload : LogEntry → String
  | createPool location => location.json
  | setRateLimiter setting => setting.json
  | aclMutate action cidr =>
    Json.Write.object
      [("action", Json.Write.integer action.number), ("cidr", Json.Write.string cidr)]
  | removePool pattern => Json.Write.object [("pattern", Json.Write.string pattern)]
  | removeHost pattern host =>
    Json.Write.object
      [("pattern", Json.Write.string pattern), ("host", Json.Write.string host)]
  | addHost pattern host =>
    Json.Write.object
      [("pattern", Json.Write.string pattern), ("host", Json.Write.string host)]
  | changeBalancer pattern mode =>
    Json.Write.object
      [("pattern", Json.Write.string pattern), ("balance_mode", Json.Write.string mode)]

/-- The stored form of a change. -/
def encode (entry : LogEntry) : Bytes := entry.op.header ++ utf8 entry.payload

/-- A field that holds text, in the first place of a draft of two. -/
def firstText (name : String) : Json.Field (Option String × Option String) where
  names := [name]
  filled := (·.1.isSome)
  fill d := return (some (← Json.Reader.string), d.2)

/-- A field that holds text, in the second place of a draft of two. -/
def secondText {α : Type} (name : String) : Json.Field (α × Option String) where
  names := [name]
  filled := (·.2.isSome)
  fill d := return (d.1, some (← Json.Reader.string))

/-- The fields of a change that concerns one pattern and one other text. -/
def twoTexts (first second : String) :
    Json.Record (Option String × Option String) (String × String) where
  fields := [firstText first, secondText second]
  blank := (none, none)
  finish d := do return (← d.1, ← d.2)

/-- The field of a change that concerns a pattern alone. -/
def oneText (name : String) : Json.Record (Option String × Option String) String where
  fields := [firstText name]
  blank := (none, none)
  finish d := d.1

def action : Json.Reader AclAction := do
  match AclAction.ofNumber? (← Json.Reader.integer 0 255).toNat with
  | some action => return action
  | none => Json.Reader.fail .unexpected

/-- The fields of a change to the blocked networks. -/
def mutation : Json.Record (Option AclAction × Option String) (AclAction × String) where
  fields :=
    [{ names := ["action"], filled := (·.1.isSome)
       fill := fun d => return (some (← action), d.2) },
     secondText "cidr"]
  blank := (none, none)
  finish d := do return (← d.1, ← d.2)

/-- Reads the particulars of a kind of change. -/
def payloadReader : OpCode → Json.Reader LogEntry
  | .createPool => do return createPool (← Location.reader)
  | .setRateLimiter => do return setRateLimiter (← LimiterSetting.reader)
  | .aclMutate => do
    let (action, cidr) ← mutation.read
    return aclMutate action cidr
  | .removePool => do return removePool (← (oneText "pattern").read)
  | .removeHost => do
    let (pattern, host) ← (twoTexts "pattern" "host").read
    return removeHost pattern host
  | .addHost => do
    let (pattern, host) ← (twoTexts "pattern" "host").read
    return addHost pattern host
  | .changeBalancer => do
    let (pattern, mode) ← (twoTexts "pattern" "balance_mode").read
    return changeBalancer pattern mode

/-- Reads a change from its stored form. -/
def decode : Bytes → Except DecodeError LogEntry
  | high :: low :: payload =>
    let number := high.toNat * 256 + low.toNat
    match OpCode.ofNumber? number with
    | none => .error (.unknownOpCode number)
    | some op =>
      match Json.readAll (payloadReader op) payload with
      | .ok entry => .ok entry
      | .error fault => .error (.payload op fault)
  | bytes => .error (.tooShort bytes.length)

end LogEntry

end ClusterGateway
