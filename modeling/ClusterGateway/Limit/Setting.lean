import ClusterGateway.Json.Record
import ClusterGateway.Json.Writer

/-! # Limiter settings

A setting records which limiter guards a path below a pattern and with what numbers. What volume and
speed mean is up to the kind of limiter; the duration is how long a request may wait for a permit.
-/

namespace ClusterGateway

/-- The limiter of one path below a pattern. -/
structure LimiterSetting where
  pattern : String
  path : String
  kind : String
  /-- How much the limiter holds. -/
  volume : Int := 0
  /-- How fast it refills. -/
  speed : Int := 0
  /-- How many milliseconds a request may wait. -/
  duration : Nat := 0
deriving DecidableEq, Repr, Inhabited

namespace LimiterSetting

/-- The text under which a setting is stored and sent. -/
def json (s : LimiterSetting) : String :=
  Json.Write.object
    [("prefix", Json.Write.string s.pattern),
     ("pathName", Json.Write.string s.path),
     ("limiterType", Json.Write.string s.kind),
     ("volume", Json.Write.integer s.volume),
     ("speed", Json.Write.integer s.speed),
     ("duration", Json.Write.integer s.duration)]

/-- A setting that is being read. -/
structure Draft where
  pattern : Option String := none
  path : Option String := none
  kind : Option String := none
  volume : Option Int := none
  speed : Option Int := none
  duration : Option Int := none

/-- A signed whole number of 64 bits. -/
def signed : Json.Reader Int := Json.Reader.integer (-(Nat.pow 2 63 : Nat)) (Nat.pow 2 63 - 1 : Nat)

/-- An unsigned whole number of 64 bits. -/
def unsigned : Json.Reader Int := Json.Reader.integer 0 (Nat.pow 2 64 - 1 : Nat)

/-- The fields of a setting in their stored form. Volume has an older spelling that is still read.
-/
def record : Json.Record Draft LimiterSetting where
  fields :=
    [{ names := ["prefix"], filled := (·.pattern.isSome)
       fill := fun d => return { d with pattern := some (← Json.Reader.string) } },
     { names := ["pathName"], filled := (·.path.isSome)
       fill := fun d => return { d with path := some (← Json.Reader.string) } },
     { names := ["limiterType"], filled := (·.kind.isSome)
       fill := fun d => return { d with kind := some (← Json.Reader.string) } },
     { names := ["volume", "volumn"], filled := (·.volume.isSome), optional := true
       fill := fun d => return { d with volume := some (← signed) } },
     { names := ["speed"], filled := (·.speed.isSome), optional := true
       fill := fun d => return { d with speed := some (← signed) } },
     { names := ["duration"], filled := (·.duration.isSome), optional := true
       fill := fun d => return { d with duration := some (← unsigned) } }]
  blank := {}
  finish d := do
    return {
      pattern := ← d.pattern
      path := ← d.path
      kind := ← d.kind
      volume := d.volume.getD 0
      speed := d.speed.getD 0
      duration := (d.duration.getD 0).toNat }

/-- Reads a setting from its stored form. -/
def reader : Json.Reader LimiterSetting := record.read

end LimiterSetting

end ClusterGateway
