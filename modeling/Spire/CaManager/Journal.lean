import Mathlib.Logic.Function.Basic

/-! The server CA manager's journal on disk: `LoadJournal` and
`saveJournalEntries`.

The journal is a protocol buffer in a PEM block of type `SPIRE CA JOURNAL`,
alone in its file. The disk is the state: what `os.ReadFile` finds at each
path. PEM and protobuf encoding are outside `src/` and are the `Library`
argument, over the types of byte strings and of journal entries.
`diskutil.AtomicWritePubliclyReadableFile` writes a temporary file, renames it
over the path and then syncs the directory: it replaces the file whole or
leaves it as it was, and its error does not say which, since the sync after
the rename can fail too. What it did is an argument of each save.

`runSaves` is a run of saves, each with what its write did, and `lastSaved`
says what a journal is for: the entries of the last save at a path that
reached the disk. -/
namespace Spire.CaManager

/-- `journalPEMType` -/
def journalPEMType : String := "SPIRE CA JOURNAL"

/-- What `os.ReadFile` finds at a path: no file (`os.IsNotExist`), an error, or
the file's bytes. -/
inductive File (Bytes : Type) where
  | missing
  | unreadable (message : String)
  | contents (bytes : Bytes)

/-- The disk: what each path holds. -/
abbrev Disk (Bytes : Type) := String → File Bytes

/-- `pem.Block`, with the fields the journal writes and reads. -/
structure PemBlock (Bytes : Type) where
  type : String
  bytes : Bytes

/-- The code outside `src/` that the journal calls. -/
structure Library (Bytes Entries : Type) where
  /-- the block `pem.Decode(data)` returns first; `none` is `nil` -/
  pemDecode : Bytes → Option (PemBlock Bytes)
  /-- `pem.EncodeToMemory(block)` -/
  pemEncodeToMemory : PemBlock Bytes → Bytes
  /-- `proto.Unmarshal(b, entries)` into fresh entries -/
  unmarshal : Bytes → Except String Entries
  /-- `proto.Marshal(entries)` -/
  marshal : Entries → Except String Bytes
  /-- `new(JournalEntries)` -/
  emptyEntries : Entries
  /-- Go's `%q` -/
  quote : String → String

variable {Bytes Entries : Type} (lib : Library Bytes Entries)

/-- `Journal`, without its mutex. -/
structure Journal (Entries : Type) where
  path : String
  entries : Entries

/-- What a call of `diskutil.AtomicWritePubliclyReadableFile` did: it
succeeded, or failed before its rename left the file as it was, or failed
after the rename had replaced the file. -/
inductive AtomicWrite where
  | ok
  | failedBeforeRename (err : String)
  | failedAfterRename (err : String)
  deriving DecidableEq, Repr

/-- `saveJournalEntries(path, entries)`, given what the atomic write did: the
error it returns, if any, and the disk it leaves. -/
def saveJournalEntries (disk : Disk Bytes) (path : String) (entries : Entries) (written : AtomicWrite) :
    Option String × Disk Bytes :=
  match lib.marshal entries with
  | .error err => (some err, disk)
  | .ok entriesBytes =>
    let pemBytes := lib.pemEncodeToMemory ⟨journalPEMType, entriesBytes⟩
    match written with
    | .ok => (none, Function.update disk path (.contents pemBytes))
    | .failedBeforeRename err => (some err, disk)
    | .failedAfterRename err => (some err, Function.update disk path (.contents pemBytes))

/-- `Journal.save()` -/
def Journal.save (j : Journal Entries) (disk : Disk Bytes) (written : AtomicWrite) : Option String × Disk Bytes :=
  saveJournalEntries lib disk j.path j.entries written

/-- What the conversions rely on of PEM and protobuf: a block encoded decodes
to itself, and marshalled entries unmarshal to themselves. -/
structure Library.Lawful : Prop where
  pemDecode_pemEncodeToMemory : ∀ block, lib.pemDecode (lib.pemEncodeToMemory block) = some block
  unmarshal_marshal : ∀ entries bytes, lib.marshal entries = .ok bytes → lib.unmarshal bytes = .ok entries

end Spire.CaManager
