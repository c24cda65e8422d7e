import ClusterGateway.Replication.Snapshot

/-! # Where snapshots are kept

A node keeps its latest snapshot in one file of a directory. A new snapshot takes the place of the
old one in a single step, so the file always holds a whole one. Some other thing may stand where the
file or the directory should be; then nothing can be written.
-/

namespace ClusterGateway

/-- What stands at the place of the snapshot file. -/
inductive SnapshotFile where
  | absent
  | file (content : Bytes)
  /-- Something that cannot be read, such as a directory. -/
  | unreadable (fault : FileFault)
deriving DecidableEq, Repr, Inhabited

/-- Where a node keeps its snapshots. -/
inductive Storage where
  | memory
  | folder (path : String) (file : SnapshotFile)
  /-- In a directory in whose place a file stands. -/
  | blocked (path : String)
deriving DecidableEq, Repr, Inhabited

namespace Storage

def filePath (directory : String) : String := joinPath directory "snapshot.json"

/-- The storage over what was found at the place of the snapshot file. -/
def ofFound (directory : String) : Except FileFault Bytes → Storage
  | .ok content => folder directory (.file content)
  | .error .notFound => folder directory .absent
  | .error .notDirectory => blocked directory
  | .error fault => folder directory (.unreadable fault)

/-- The storage over a directory, or in memory when there is none. The file is looked at through
`look`. -/
def locate {m : Type → Type} [Monad m] (look : String → m (Except FileFault Bytes)) :
    Option String → m Storage
  | none => return memory
  | some directory => return ofFound directory (← look (filePath directory))

/-- The octets in the snapshot file, if there is such a file. -/
def content? : Storage → Except SnapshotError (Option Bytes)
  | memory => .ok none
  | folder _ .absent => .ok none
  | folder _ (.file content) => .ok (some content)
  | folder path (.unreadable fault) => .error (.storage (filePath path) fault)
  | blocked path => .error (.storage (filePath path) .notDirectory)

/-- Reads the snapshot, if there is one. -/
def load (s : Storage) : Except SnapshotError (Option PersistedSnapshot) := do
  match ← s.content? with
  | none => return none
  | some content => return some (← PersistedSnapshot.ofBytes content)

/-- Writes a snapshot in place of the one before. Writing may fail in its course; that is told by
`works`, and leaves the one before. -/
def write (s : Storage) (works : Bool) (snapshot : PersistedSnapshot) :
    Except SnapshotError Storage :=
  match s with
  | memory => .ok memory
  | blocked path => .error (.storage path .alreadyExists)
  | folder path (.unreadable fault) => .error (.storage (filePath path) fault)
  | folder path _ =>
    if works then .ok (folder path (.file snapshot.toBytes))
    else .error (.storage (filePath path) .broken)

end Storage

end ClusterGateway
