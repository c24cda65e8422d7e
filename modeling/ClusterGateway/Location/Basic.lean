import ClusterGateway.Json.Record
import ClusterGateway.Json.Writer

/-! # Locations

A location says which hosts serve the paths under a pattern, and how one of them is chosen.
-/

namespace ClusterGateway

/-- The hosts behind a pattern. -/
structure Location where
  /-- The subtree of paths. -/
  pattern : String
  /-- The addresses of the hosts, as an operator wrote them. -/
  proxyPass : List String
  /-- The name of the way in which a host is chosen. -/
  balanceMode : String
deriving DecidableEq, Repr, Inhabited

namespace Location

/-- The text under which a location is stored and sent. -/
def json (l : Location) : String :=
  Json.Write.object
    [("pattern", Json.Write.string l.pattern),
     ("proxy_pass", Json.Write.strings l.proxyPass),
     ("balance_mode", Json.Write.string l.balanceMode)]

/-- A location that is being read. -/
structure Draft where
  pattern : Option String := none
  proxyPass : Option (List String) := none
  balanceMode : Option String := none

/-- The fields of a location in their stored form. -/
def record : Json.Record Draft Location where
  fields :=
    [{ names := ["pattern"], filled := (·.pattern.isSome)
       fill := fun d => return { d with pattern := some (← Json.Reader.string) } },
     { names := ["proxy_pass"], filled := (·.proxyPass.isSome)
       fill := fun d =>
        return { d with proxyPass := some (← Json.Reader.list Json.Reader.string) } },
     { names := ["balance_mode"], filled := (·.balanceMode.isSome)
       fill := fun d => return { d with balanceMode := some (← Json.Reader.string) } }]
  blank := {}
  finish d := do
    return { pattern := ← d.pattern, proxyPass := ← d.proxyPass, balanceMode := ← d.balanceMode }

/-- Reads a location from its stored form. -/
def reader : Json.Reader Location := record.read

end Location

end ClusterGateway
