import ClusterGateway.Location.Basic
import ClusterGateway.Location.Pattern
import ClusterGateway.Text
import ClusterGateway.Url.Basic

/-! # Backends of a location

A backend is a web server, given by its URL. It is known by host and port: two URLs that agree in
these are one backend. A location is sound when its pattern is one, all its backends can be read and
it names some way to choose among them.
-/

namespace ClusterGateway

/-- Why a text is no backend. -/
inductive BackendError where
  | badUrl (raw : String) (error : UrlError)
  /-- It leads to something else than a web server. -/
  | badScheme (raw scheme : String)
deriving DecidableEq, Repr

/-- The explanation of what is wrong with a backend. -/
def BackendError.message : BackendError → String
  | .badUrl raw error => "invalid backend url '" ++ raw ++ "': " ++ error.message
  | .badScheme raw scheme =>
    "backend '" ++ raw ++ "' uses unsupported scheme '" ++ scheme ++ "', expected http or https"

namespace Backend

/-- Reads a backend. -/
def parse (raw : String) : Except BackendError WebUrl :=
  match Url.parse raw with
  | .ok (.web url) => .ok url
  | .ok (.other scheme) => .error (.badScheme raw scheme)
  | .error error => .error (.badUrl raw error)

/-- Host and port of a backend, if the text is one. -/
def address? (raw : String) : Option String := (parse raw).toOption.map WebUrl.address

end Backend

/-- What is wrong with a location. -/
inductive LocationFault where
  | pattern (fault : PatternFault)
  | noHosts
  | backend (error : BackendError)
  /-- There is no way to choose. -/
  | noMode
deriving DecidableEq, Repr

namespace Location

/-- The beginning of what is said about a location with a pattern. -/
def mention (pattern : String) : String := "location '" ++ pattern ++ "'"

def faultText (pattern : String) : LocationFault → String
  | .pattern fault => Pattern.faultText pattern fault
  | .noHosts => mention pattern ++ " has no proxy hosts"
  | .backend error => mention pattern ++ ": " ++ error.message
  | .noMode => mention pattern ++ " has no balance mode"

/-- The faults of the backends, in order. -/
def backendErrors (l : Location) : List BackendError :=
  l.proxyPass.filterMap fun raw =>
    match Backend.parse raw with
    | .ok _ => none
    | .error error => some error

/-- Whether the mode is missing. -/
def lacksMode (l : Location) : Bool := (Text.trim l.balanceMode).isEmpty

/-- The first thing that is wrong with a location, if anything is. -/
def check (l : Location) : Except LocationFault Unit := do
  match Pattern.check l.pattern with
  | .error fault => throw (.pattern fault)
  | .ok () => pure ()
  if l.proxyPass.isEmpty then throw .noHosts
  match l.backendErrors with
  | error :: _ => throw (.backend error)
  | [] => pure ()
  if l.lacksMode then throw .noMode

/-- Hosts and ports of the backends that can be read, each once, in order of appearance. -/
def addresses (l : Location) : List String := (l.proxyPass.filterMap Backend.address?).eraseDups

end Location

end ClusterGateway
