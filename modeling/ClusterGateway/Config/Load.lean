import ClusterGateway.Config.Review
import ClusterGateway.Fault
import ClusterGateway.Logging
import ClusterGateway.Text

/-! # Loading a configuration

A configuration is loaded from the octets of a file and approved when its review finds nothing
wrong. What can stand in the way is told with its causes, nearest first.
-/

namespace ClusterGateway

/-- Why there is no configuration. -/
inductive ConfigError where
  /-- The file cannot be read. -/
  | unreadable (path : String) (fault : FileFault)
  | unparsable
  /-- The review found something wrong. -/
  | invalid (review : Review)
deriving DecidableEq, Repr

namespace ConfigError

/-- The explanation for an operator. -/
def message : ConfigError → String
  | unreadable path fault =>
    "failed to read configuration file " ++ Text.quoted path ++ ": " ++ fault.text
  | unparsable => "failed to parse configuration"
  | invalid review => "invalid configuration: " ++ review.text

/-- What an error was caused by, nearest first. -/
def causes : ConfigError → List String
  | unreadable _ fault => [fault.text]
  | unparsable => ["the text is not a TOML document with the settings of a node"]
  | invalid _ => []

end ConfigError

namespace Config

def ofFile (path : String) (found : Except FileFault Bytes) : Except ConfigError Config := do
  let content ← found.mapError (.unreadable path)
  let text ← (ofUtf8? content).elim (.error (.unreadable path .notText)) .ok
  (parse text).elim (.error .unparsable) .ok

/-- The review of a configuration, if it passes. -/
def approve (c : Config) : Except ConfigError Review :=
  if c.review.passes then .ok c.review else .error (.invalid c.review)

end Config

end ClusterGateway
