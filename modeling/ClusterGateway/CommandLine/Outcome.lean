import ClusterGateway.CommandLine.Help
import ClusterGateway.Config.Load
import ClusterGateway.Logging
import ClusterGateway.Node.Basic

/-! # What comes of a request

A request is answered with text and an exit code, unless it leaves something running: a node that
has started, or the dialing of backends. A failure is told with all its causes, nearest first.
-/

namespace ClusterGateway.CommandLine

/-- Something that could not be done. -/
structure Failure where
  /-- What could not be done. -/
  task : String
  /-- Why, nearest cause first. -/
  causes : List String
deriving DecidableEq, Repr

/-- A text whose lines behind the first start in a given column. -/
def hanging (column : Nat) (text : String) : String :=
  text.replace "\n" ("\n" ++ "".pushn ' ' column)

def numberedCause (number : Nat) (cause : String) : String :=
  let digits := toString number
  "\n" ++ "".pushn ' ' (5 - digits.length) ++ digits ++ ": " ++ hanging 7 cause

/-- A failure in words. Causes are numbered from zero when there are several. -/
def Failure.text (f : Failure) : String :=
  let causes := match f.causes with
    | [] => ""
    | [cause] => "\n\nCaused by:\n    " ++ hanging 4 cause
    | causes => "\n\nCaused by:" ++ String.join (causes.mapIdx numberedCause)
  "Error: " ++ f.task ++ causes ++ "\n"

/-- What the program says at its end. -/
structure Answer where
  exit : Nat := 0
  output : String := ""
  complaint : String := ""
deriving DecidableEq, Repr, Inhabited

/-- What came of a request. -/
inductive Outcome where
  /-- The program is at its end. -/
  | done (answer : Answer)
  /-- Backends are still to be dialed, and the answer holds if all can be reached. -/
  | dialing (addresses : List String) (answer : Answer)
  | serving (node : Node)
deriving Inhabited

/-- The end of a program that failed. -/
def Outcome.failed (f : Failure) : Outcome := .done { exit := 1, complaint := f.text }

/-- Loading a configuration: the one at a path, or the one that holds when there is none. -/
def loadConfig {m : Type → Type} [Monad m] (look : String → m (Except FileFault Bytes)) :
    Option String → m (Except Failure Config)
  | none => return .ok {}
  | some path => do
    let found ← look path
    return (Config.ofFile path found).mapError fun e =>
      ⟨"Failed to load configuration file " ++ path, e.message :: e.causes⟩

def approveConfig (c : Config) : Except Failure Review :=
  c.approve.mapError fun e => ⟨"Configuration validation failed", e.message :: e.causes⟩

/-- Testing a configuration from a path, perhaps with its backends. -/
def testConfig (path : Option String) (network : Bool) (c : Config) : Except Failure Outcome := do
  let _ ← approveConfig c
  let file := path.getD "(defaults)"
  let answer : Answer :=
    { output := "concord: configuration file " ++ file ++ " test is successful\n" }
  let addresses := c.locations.flatMap (·.addresses)
  return if network ∧ !addresses.isEmpty then .dialing addresses answer else .done answer

def logFormat (c : Config) : Except Failure LogFormat :=
  (LogFormat.parse c.log.format).mapError fun e => ⟨"Invalid log format", [e.message]⟩

def startNode (ctx : StepContext) (c : Config) (storage : Storage) : Except Failure Node :=
  match (Node.build c storage).start ctx with
  | (.ok (), node) => .ok node
  | (.error e, _) => .error ⟨"Failed to start node", Report.message e :: e.causes⟩

def Outcome.ofExcept : Except Failure Outcome → Outcome
  | .ok outcome => outcome
  | .error f => .failed f

def runNode {m : Type → Type} [Monad m] (look : String → m (Except FileFault Bytes))
    (ctx : StepContext) (path : Option String) : m Outcome := do
  match ← loadConfig look path with
  | .error f => return .failed f
  | .ok c =>
    match (do let _ ← logFormat c; approveConfig c) with
    | .error f => return .failed f
    | .ok _ =>
      let storage ← Storage.locate look c.node.dataDir
      return .ofExcept ((startNode ctx c storage).map .serving)

/-- Does what is asked for. Files are looked at through `look`, and `environment` is the variable
that stands in for the path of the configuration. -/
def Request.outcome {m : Type → Type} [Monad m] (look : String → m (Except FileFault Bytes))
    (environment : Option String) (ctx : StepContext) : Request → m Outcome
  | .help topic => return .done { output := topic.helpText environment }
  | .version topic => return .done { output := topic.versionText }
  | .refuse misuse =>
    return .done
      { exit := 2
        complaint := "error: " ++ misuse.message ++ "\n\nFor more information, try '--help'.\n" }
  | .test path network => do
    let config ← loadConfig look path
    return .ofExcept (config.bind (testConfig path network))
  | .run path _ => runNode look ctx path

end ClusterGateway.CommandLine
