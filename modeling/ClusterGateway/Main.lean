import ClusterGateway.CommandLine.Outcome
import Std.Time.DateTime

/-! # The program

Reads files and the environment, prints what comes of the arguments, and keeps a node that has
started until standard input ends.
-/

namespace ClusterGateway.CommandLine

def faultOf : IO.Error → FileFault
  | .noFileOrDirectory .. => .notFound
  | .inappropriateType _ code _ => if code = 21 then .isDirectory else .notDirectory
  | .alreadyExists .. => .alreadyExists
  | _ => .broken

def look (path : String) : IO (Except FileFault Bytes) :=
  try
    let content ← IO.FS.readBinFile path
    return .ok content.toList
  catch e => return .error (faultOf e)

/-- The present time. -/
def now : IO Timestamp := do
  let sinceEpoch := (← Std.Time.Timestamp.now).toNanosecondsSinceUnixEpoch
  let shown := Std.Time.PlainDateTime.ofWallTime (Std.Time.WallTime.ofNanoseconds sinceEpoch)
  return {
    year := shown.date.year.toInt
    month := shown.date.month.val.toNat
    day := shown.date.day.val.toNat
    hour := shown.time.hour.val.toNat
    minute := shown.time.minute.val.toNat
    second := shown.time.second.val.toNat
    nano := shown.time.nanosecond.val.toNat }

/-- Prints an answer; the exit code. -/
def conclude (answer : Answer) : IO UInt32 := do
  IO.print answer.output
  IO.eprint answer.complaint
  return answer.exit.toUInt32

/-- The last snapshot, put into its file. -/
def keepSnapshot (storage : Storage) : IO Unit :=
  match storage with
  | .folder directory (.file content) => do
    IO.FS.createDirAll directory
    let path := Storage.filePath directory
    IO.FS.writeBinFile (path ++ ".tmp") ⟨content.toArray⟩
    IO.FS.rename (path ++ ".tmp") path
  | _ => return ()

def stopNode (node : Node) : IO UInt32 := do
  match node.beginStop.finishStop { date := ← now } with
  | (.ok _, stopped) =>
    keepSnapshot stopped.control.consensus.storage
    return 0
  | (.error e, _) =>
    let failure : Failure := ⟨"Graceful shutdown failed", Report.message e :: e.causes⟩
    conclude { exit := 1, complaint := failure.text }

end ClusterGateway.CommandLine

open ClusterGateway CommandLine in
/-- The program: does what its arguments ask for. -/
def main (arguments : List String) : IO UInt32 := do
  let environment ← IO.getEnv "CONCORD_CONFIG"
  let request := Request.ofArguments arguments environment
  let outcome ← request.outcome look environment { date := ← now }
  match outcome with
  | .done answer => conclude answer
  | .dialing .. =>
    conclude { exit := 1, complaint := "Error: backends cannot be dialed from here\n" }
  | .serving node => do
    let _ ← (← IO.getStdin).readToEnd
    stopNode node
