import GpuFleet.Fleet.SnapshotCodec

/-!
# Saving a snapshot

The writing half of `persistence/store.hpp`.

`save_snapshot` makes calls of the C library, and each of them can fail.
`FileOutcomes` says how the calls of one save end, in the order of the
source, and `saveSnapshot` says which of them are made and what is on the
disk after each.
-/

namespace GpuFleet

/-! ## The image -/

/-- `kStoreMagic`. -/
def kStoreMagic : UInt32 := 0x47464C45

/-- `store_schema_version`. -/
def storeSchemaVersion : UInt32 := 1

/-- `snapshot_digest`. -/
def snapshotDigest (s : StateSnapshot) : UInt32 := crc32 (encodeSnapshot s)

/-- What `save_snapshot` writes: header, body and checksum. -/
def saveImage (s : StateSnapshot) : ByteString :=
  let body := encodeSnapshot s
  let w := ByteWriter.u32 kStoreMagic ++ ByteWriter.u32 storeSchemaVersion
    ++ ByteWriter.u64 (UInt64.ofNat body.length) ++ body
  w ++ ByteWriter.u32 (crc32 w)

/-! ## The file system -/

/-- The files, by path. -/
abbrev Disk := ByteString → Option ByteString

namespace Disk

/-- A file is written. -/
def write (disk : Disk) (path : ByteString) (content : ByteString) : Disk :=
  fun p => if p = path then some content else disk p

/-- A file is deleted. -/
def delete (disk : Disk) (path : ByteString) : Disk :=
  fun p => if p = path then none else disk p

/-- A rename that succeeds replaces the target in one step. -/
def rename (disk : Disk) (old new : ByteString) : Disk :=
  fun p => if p = new then disk old else if p = old then none else disk p

end Disk

/-- How the calls of a save end.  `written` is what `fwrite` returns and
`reached` is how much of it is in the file before the flush. -/
structure FileOutcomes where
  opened : Bool := true
  written : Nat := 0
  reached : Nat := 0
  flushed : Bool := true
  closed : Bool := true
  renamed : Bool := true
  removedTarget : Bool := true
  renamedAgain : Bool := true
  removedTemp : Bool := true

/-- The disk after each call, in order, and the `return` statement. -/
structure SaveRun where
  disks : List Disk
  result : Except Error Unit

/-- The disk when the run is over. -/
def SaveRun.disk (run : SaveRun) (before : Disk) : Disk := run.disks.getLast?.getD before

/-- `remove`, which leaves the disk alone when it fails. -/
def removeFile (disk : Disk) (path : ByteString) (removed : Bool) : Disk :=
  if removed then disk.delete path else disk

/-- The end of `save_snapshot`, when the temporary file is complete. -/
def replaceFile (disk : Disk) (tmp path : ByteString) (io : FileOutcomes) : SaveRun :=
  if io.renamed then ⟨[disk.rename tmp path], .ok ()⟩
  else
    let cleared := removeFile disk path io.removedTarget
    if io.renamedAgain then ⟨[disk, cleared, cleared.rename tmp path], .ok ()⟩
    else
      ⟨[disk, cleared, cleared, removeFile cleared tmp io.removedTemp],
        .error (errorResult .io "failed to atomically replace store file")⟩

/-- `save_snapshot`. -/
def saveSnapshot (disk : Disk) (path : ByteString) (s : StateSnapshot) (io : FileOutcomes) :
    SaveRun :=
  let bytes := saveImage s
  let tmp := path ++ text ".tmp"
  if !io.opened then ⟨[disk], .error (errorResult .io "cannot open temp file for write")⟩
  else
    let opened := disk.write tmp []
    let written := disk.write tmp (bytes.take (min io.reached io.written))
    let flushed := if io.flushed then disk.write tmp (bytes.take io.written) else written
    let calls := [opened, written, flushed, flushed]
    if io.written ≠ bytes.length || !io.flushed || !io.closed then
      ⟨calls ++ [removeFile flushed tmp io.removedTemp],
        .error (errorResult .io "failed to write store file")⟩
    else
      let replaced := replaceFile flushed tmp path io
      ⟨calls ++ replaced.disks, replaced.result⟩

end GpuFleet
