import ClusterGateway.Proofs.Replication.Envelope
import ClusterGateway.Proofs.Replication.InPlace

/-! # The snapshot file is exchanged at one stroke

A snapshot is written to a temporary file first, which then takes the name of the snapshot file.
Each of these operations may fail, the writing also half way, and none is taken back. But only the
last of them touches the snapshot file, so whatever fails before, the old snapshot is still there.
-/

namespace ClusterGateway

open InPlace

namespace Storage

/-- Nothing stands where the directory or the snapshot file should be. -/
def Writable : Storage → Prop
  | memory => True
  | folder _ (.unreadable _) => False
  | folder _ _ => True
  | blocked _ => False

/-- A file can be written if nothing stands in the way of it or of its directory. -/
theorem write_of_writable {s : Storage} (writable : s.Writable) (p : PersistedSnapshot) :
    ∃ after, s.write true p = .ok after := by
  cases s with
  | memory => exact ⟨_, rfl⟩
  | blocked path => exact absurd writable id
  | folder path file =>
      cases file with
      | unreadable fault => exact absurd writable id
      | absent => exact ⟨_, rfl⟩
      | file content => exact ⟨_, rfl⟩

end Storage

/-- Where the writing of a snapshot fails. -/
inductive WriteFault where
  /-- The directory cannot be made. -/
  | directory
  /-- The temporary file takes no more than so many octets. -/
  | draft (written : Nat)
  /-- The temporary file cannot be renamed. -/
  | exchange
deriving DecidableEq, Repr

/-- A data directory in the course of writing. -/
structure Disk where
  storage : Storage
  /-- What stands in the temporary file. -/
  draft : Option Bytes

namespace Disk

def draftPath (directory : String) : String := joinPath directory "snapshot.json.tmp"

/-- Writes to the temporary file, in place of what stood in it. -/
def writeDraft (fault : Option WriteFault) (path : String) (content : Bytes) :
    InPlace Disk SnapshotError Unit := do
  match fault with
  | some (.draft written) =>
    modify fun d => { d with draft := some (content.take written) }
    throw (.storage (draftPath path) .broken)
  | _ => modify fun d => { d with draft := some content }

/-- Puts the temporary file in the place of the snapshot file, unless something else stands there. -/
def exchange (fault : Option WriteFault) (path : String) : InPlace Disk SnapshotError Unit := do
  if let .folder _ (.unreadable found) := (← get).storage then
    throw (.storage (Storage.filePath path) found)
  if fault = some .exchange then throw (.storage (Storage.filePath path) .broken)
  modify fun d => { storage := .folder path (.file (d.draft.getD [])), draft := none }

/-- Writes a snapshot in place of the one before. -/
def writeInPlace (fault : Option WriteFault) (p : PersistedSnapshot) :
    InPlace Disk SnapshotError Unit := do
  match (← get).storage with
  | .memory => return
  | .blocked path => throw (.storage path .alreadyExists)
  | .folder path _ =>
    if fault = some .directory then throw (.storage path .broken)
    writeDraft fault path p.toBytes
    exchange fault path

/-- The snapshot file after the operations is the one of the writing as a whole, and if one of them
fails it is still the old one. -/
theorem runOn_writeInPlace (fault : Option WriteFault) (p : PersistedSnapshot) (d : Disk) :
    (∃ after, (writeInPlace fault p).runOn d = (.ok (), after) ∧
        d.storage.write fault.isNone p = .ok after.storage) ∨
      ∃ error reason draft, (writeInPlace fault p).runOn d = (.error error, { d with draft }) ∧
        d.storage.write fault.isNone p = .error reason := by
  obtain ⟨storage, draft⟩ := d
  cases storage with
  | memory => exact Or.inl ⟨_, rfl, rfl⟩
  | blocked path => exact Or.inr ⟨_, _, _, rfl, rfl⟩
  | folder path file =>
      cases fault with
      | none =>
          cases file with
          | unreadable found => exact Or.inr ⟨_, _, _, rfl, rfl⟩
          | absent => exact Or.inl ⟨_, rfl, rfl⟩
          | file content => exact Or.inl ⟨_, rfl, rfl⟩
      | some fault =>
          have refused : ∃ reason, (Storage.folder path file).write false p = .error reason := by
            cases file <;> exact ⟨_, rfl⟩
          obtain ⟨reason, refused⟩ := refused
          cases fault with
          | directory => exact Or.inr ⟨_, reason, _, rfl, refused⟩
          | draft written => exact Or.inr ⟨_, reason, _, rfl, refused⟩
          | exchange =>
              cases file with
              | unreadable found => exact Or.inr ⟨_, reason, _, rfl, refused⟩
              | absent => exact Or.inr ⟨_, reason, _, rfl, refused⟩
              | file content => exact Or.inr ⟨_, reason, _, rfl, refused⟩

end Disk

end ClusterGateway
