import GpuFleet.Core.Delimited
import GpuFleet.Core.RoundTrip
import GpuFleet.Persistence.Store

/-!
# Loading a snapshot

The reading half of `persistence/store.hpp`.  `parseImage` is what
`load_snapshot` does with the bytes of the file, check by check, and
`LoadOutcomes` says how the calls of the C library end that come before it.

A file that `save_snapshot` wrote is read as the snapshot it was written
from, if it is read at all.  The epoch that comes back is the one that went
in (`parseImage_epoch`), also where a text was cut on the way.
-/

namespace GpuFleet

open Reading

/-- The three fields in front of the payload. -/
def storeHeaderDecoder : Decoder (UInt32 × UInt32 × UInt64) := do
  let magic ← Decoder.need ByteReader.u32 .truncated "magic truncated"
  let ver ← Decoder.need ByteReader.u32 .truncated "version truncated"
  let len ← Decoder.need ByteReader.u64 .truncated "length truncated"
  pure (magic, ver, len)

/-- The checks of `load_snapshot` on the bytes of the file. -/
def parseImage (bytes : ByteString) : Result StateSnapshot :=
  if bytes.length < 4 + 4 + 8 + 4 then .error (errorResult .truncated "store file too small")
  else match storeHeaderDecoder.decode bytes with
  | .error err => .error err
  | .ok (magic, ver, len) =>
    if magic ≠ kStoreMagic then .error (errorResult .corrupt "bad store magic")
    else if ver ≠ storeSchemaVersion then
      .error (errorResult .versionMismatch "unsupported schema version")
    else if len.toNat > 2 ^ 31 then .error (errorResult .outOfBounds "payload too large")
    else if bytes.length ≠ 4 + 4 + 8 + len.toNat + 4 then
      .error (errorResult .truncated
        "store file length and size mismatch (truncation or trailing garbage)")
    else match ByteReader.u32 ((bytes.drop (4 + 4 + 8 + len.toNat)).take 4) with
    | none => .error (errorResult .truncated "crc truncated")
    | some (storedCrc, _) =>
      if crc32 (bytes.take (bytes.length - 4)) ≠ storedCrc then
        .error (errorResult .corrupt "store CRC mismatch")
      else decodeSnapshot ((bytes.drop (4 + 4 + 8)).take len.toNat)

/-- How the calls of a load end, for a file that is there. -/
structure LoadOutcomes where
  opened : Bool := true
  sized : Bool := true
  /-- `fread` returns the size of the file. -/
  complete : Bool := true

/-- `load_snapshot`. -/
def loadSnapshot (disk : Disk) (path : ByteString) (io : LoadOutcomes) : Result StateSnapshot :=
  match disk path with
  | none => .error (errorResult .io "cannot open store file")
  | some bytes =>
    if !io.opened then .error (errorResult .io "cannot open store file")
    else if !io.sized then .error (errorResult .io "cannot size store file")
    else if bytes.isEmpty then .error (errorResult .truncated "store file empty")
    else if !io.complete then .error (errorResult .truncated "store file truncated on read")
    else parseImage bytes

/-- A load that succeeds comes from the bytes of the file. -/
theorem loadSnapshot_ok {disk : Disk} {path : ByteString} {io : LoadOutcomes}
    {snap : StateSnapshot} (h : loadSnapshot disk path io = .ok snap) :
    ∃ bytes, disk path = some bytes ∧ parseImage bytes = .ok snap := by
  unfold loadSnapshot at h
  split at h
  · cases h
  next bytes hbytes =>
  split at h
  · cases h
  split at h
  · cases h
  split at h
  · cases h
  split at h
  · cases h
  exact ⟨bytes, hbytes, h⟩

/-! ## A file that was saved -/

theorem decode_storeHeader (magic ver : UInt32) (len : UInt64) (rest : ByteString) :
    storeHeaderDecoder.decode
        (ByteWriter.u32 magic ++ ByteWriter.u32 ver ++ ByteWriter.u64 len ++ rest)
      = .ok (magic, ver, len) := by
  have hreads : Reads storeHeaderDecoder
      (ByteWriter.u32 magic ++ (ByteWriter.u32 ver ++ ByteWriter.u64 len)) (magic, ver, len) := by
    unfold storeHeaderDecoder
    refine (reads_need (reads_u32 magic)).bind ?_
    refine (reads_need (reads_u32 ver)).bind ?_
    exact (reads_need (reads_u64 len)).last rfl
  rw [decode_eq_ok]
  refine ⟨rest, ?_⟩
  have hrun := hreads rest
  rwa [← List.append_assoc] at hrun

/-- What is read from a file that was saved is what was written. -/
theorem parseImage_saveImage {s snap : StateSnapshot}
    (h : parseImage (saveImage s) = .ok snap) : decodeSnapshot (encodeSnapshot s) = .ok snap := by
  have hheader : storeHeaderDecoder.decode (saveImage s)
      = .ok (kStoreMagic, storeSchemaVersion, UInt64.ofNat (encodeSnapshot s).length) := by
    unfold saveImage
    rw [List.append_assoc]
    exact decode_storeHeader _ _ _ _
  have hlength : (saveImage s).length = 4 + 4 + 8 + (encodeSnapshot s).length + 4 := by
    simp only [saveImage, List.length_append]
    rfl
  have hpayload : ((saveImage s).drop (4 + 4 + 8)).take (encodeSnapshot s).length
      = encodeSnapshot s := by
    have hsplit : saveImage s = (ByteWriter.u32 kStoreMagic ++ ByteWriter.u32 storeSchemaVersion
        ++ ByteWriter.u64 (UInt64.ofNat (encodeSnapshot s).length)) ++
          (encodeSnapshot s ++ ByteWriter.u32 (crc32 (ByteWriter.u32 kStoreMagic
            ++ ByteWriter.u32 storeSchemaVersion
            ++ ByteWriter.u64 (UInt64.ofNat (encodeSnapshot s).length) ++ encodeSnapshot s))) := by
      unfold saveImage
      rw [List.append_assoc]
    have hhead : (ByteWriter.u32 kStoreMagic ++ ByteWriter.u32 storeSchemaVersion
        ++ ByteWriter.u64 (UInt64.ofNat (encodeSnapshot s).length)).length = 4 + 4 + 8 := rfl
    rw [hsplit, List.drop_left' hhead, List.take_left' rfl]
  unfold parseImage at h
  rw [hheader] at h
  split at h
  · cases h
  simp only at h
  split at h
  · cases h
  split at h
  · cases h
  split at h
  · cases h
  split at h
  · cases h
  next hsize =>
  have hlen : (UInt64.ofNat (encodeSnapshot s).length).toNat = (encodeSnapshot s).length := by
    rw [not_not, hlength] at hsize
    omega
  split at h
  · cases h
  split at h
  · cases h
  rw [hlen, hpayload] at h
  exact h

/-! ## The epoch on file -/

/-- The epoch is the second field, and whatever follows it does not change it. -/
theorem decodeSnapshot_epoch {s snap : StateSnapshot}
    (h : decodeSnapshot (encodeSnapshot s) = .ok snap) : snap.epoch = s.epoch := by
  obtain ⟨left, hrun⟩ := decode_eq_ok.mp h
  unfold encodeSnapshot snapshotDecoder at hrun
  simp only [List.append_assoc] at hrun
  rw [(reads_need (reads_u64 _)).run_bind, (reads_need (reads_u64 _)).run_bind] at hrun
  refine Ensures.any (Q := fun snap : StateSnapshot => snap.epoch = s.epoch) ?_ _ _ _ hrun
  refine fun _ => .any fun _ => .any fun _ => .any fun _ => .any fun _ => ?_
  refine .any fun _ => .any fun _ => .any fun _ => .any fun _ => .any fun _ => ?_
  refine .any fun _ => .any fun _ => .any fun _ => .any fun _ => .any fun _ => ?_
  exact .pure rfl

/-- A file that was saved gives its epoch back, if it can be loaded. -/
theorem parseImage_epoch {s snap : StateSnapshot} (h : parseImage (saveImage s) = .ok snap) :
    snap.epoch = s.epoch :=
  decodeSnapshot_epoch (parseImage_saveImage h)

/-! ## What a save does to the file

A crash can come after any of the calls.  `SaveRun.diskAfter` is what it
leaves on the disk. -/

/-- The disk after the first calls of a save. -/
def SaveRun.diskAfter (run : SaveRun) (before : Disk) (calls : Nat) : Disk :=
  (run.disks.take calls).getLast?.getD before

/-- The save got through all of its calls and succeeded. -/
def SaveRun.Replaced (run : SaveRun) (calls : Nat) : Prop :=
  run.result = .ok () ∧ run.disks.length ≤ calls

theorem SaveRun.diskAfter_length (run : SaveRun) (before : Disk) :
    run.diskAfter before run.disks.length = run.disk before := by
  rw [diskAfter, List.take_length, disk]

/-- The file is as it was or gone. -/
def Disk.KeepsOrDrops (disk before : Disk) (path : ByteString) : Prop :=
  disk path = before path ∨ disk path = none

theorem keepsOrDrops_refl (disk : Disk) (path : ByteString) : disk.KeepsOrDrops disk path :=
  Or.inl rfl

theorem tmp_ne (path : ByteString) : path ≠ path ++ text ".tmp" := by
  intro h
  have hlength := congrArg List.length h
  rw [List.length_append] at hlength
  have htmp : (text ".tmp").length = 4 := by decide
  omega

theorem keepsOrDrops_write {disk before : Disk} {path : ByteString}
    (h : disk.KeepsOrDrops before path) (content : ByteString) :
    (disk.write (path ++ text ".tmp") content).KeepsOrDrops before path := by
  have hsame : (disk.write (path ++ text ".tmp") content) path = disk path :=
    if_neg (tmp_ne path)
  unfold Disk.KeepsOrDrops
  rw [hsame]
  exact h

theorem keepsOrDrops_removeTmp {disk before : Disk} {path : ByteString}
    (h : disk.KeepsOrDrops before path) (removed : Bool) :
    (removeFile disk (path ++ text ".tmp") removed).KeepsOrDrops before path := by
  have hsame : (removeFile disk (path ++ text ".tmp") removed) path = disk path := by
    unfold removeFile
    cases removed with
    | true => exact if_neg (tmp_ne path)
    | false => rfl
  unfold Disk.KeepsOrDrops
  rw [hsame]
  exact h

theorem keepsOrDrops_removeTarget {disk before : Disk} {path : ByteString}
    (h : disk.KeepsOrDrops before path) (removed : Bool) :
    (removeFile disk path removed).KeepsOrDrops before path := by
  unfold removeFile
  cases removed with
  | true => exact Or.inr (if_pos rfl)
  | false => exact h

/-- The calls before the last one leave the file as it was or remove it, and so
does the last one unless the save succeeds. -/
structure SaveRun.Cautious (run : SaveRun) (before : Disk) (path image : ByteString) : Prop where
  early : ∀ disk ∈ run.disks.dropLast, disk.KeepsOrDrops before path
  failed : run.result ≠ .ok () → ∀ disk ∈ run.disks, disk.KeepsOrDrops before path
  replaced : run.result = .ok () → ∃ disk, run.disks.getLast? = some disk ∧ disk path = some image

theorem replaceFile_cautious {disk before : Disk} {path image : ByteString}
    (h : disk.KeepsOrDrops before path) (htmp : disk (path ++ text ".tmp") = some image)
    (io : FileOutcomes) :
    (replaceFile disk (path ++ text ".tmp") path io).Cautious before path image := by
  have hcleared := keepsOrDrops_removeTarget h io.removedTarget
  unfold replaceFile
  cases io.renamed with
  | true =>
    refine ⟨?_, fun hne => absurd rfl hne, fun _ => ⟨_, rfl, ?_⟩⟩
    · intro d hd
      cases hd
    · exact (if_pos rfl).trans htmp
  | false =>
    cases io.renamedAgain with
    | true =>
      refine ⟨?_, fun hne => absurd rfl hne, fun _ => ⟨_, rfl, ?_⟩⟩
      · intro d hd
        have hd : d ∈ [disk, removeFile disk path io.removedTarget] := hd
        simp only [List.mem_cons, List.not_mem_nil, or_false] at hd
        rcases hd with rfl | rfl
        · exact h
        · exact hcleared
      · have hkept : (removeFile disk path io.removedTarget) (path ++ text ".tmp")
            = some image := by
          unfold removeFile
          cases io.removedTarget with
          | true => exact (if_neg (tmp_ne path).symm).trans htmp
          | false => exact htmp
        exact (if_pos rfl).trans hkept
    | false =>
      have hall : ∀ d ∈ [disk, removeFile disk path io.removedTarget,
          removeFile disk path io.removedTarget,
          removeFile (removeFile disk path io.removedTarget) (path ++ text ".tmp")
            io.removedTemp], Disk.KeepsOrDrops d before path := by
        intro d hd
        simp only [List.mem_cons, List.not_mem_nil, or_false] at hd
        rcases hd with rfl | rfl | rfl | rfl
        · exact h
        · exact hcleared
        · exact hcleared
        · exact keepsOrDrops_removeTmp hcleared io.removedTemp
      exact ⟨fun d hd => hall d (List.dropLast_subset _ hd), fun _ => hall, fun h => by cases h⟩

/-- Calls that come before do not matter if they are cautious as well. -/
theorem SaveRun.Cautious.after {run : SaveRun} {before : Disk} {path image : ByteString}
    (h : run.Cautious before path image) (hne : run.disks ≠ []) {calls : List Disk}
    (hcalls : ∀ disk ∈ calls, disk.KeepsOrDrops before path) :
    SaveRun.Cautious ⟨calls ++ run.disks, run.result⟩ before path image := by
  refine ⟨?_, ?_, ?_⟩
  · intro disk hdisk
    have hdisk : disk ∈ (calls ++ run.disks).dropLast := hdisk
    rw [List.dropLast_append_of_ne_nil hne] at hdisk
    rcases List.mem_append.mp hdisk with hdisk | hdisk
    · exact hcalls disk hdisk
    · exact h.early disk hdisk
  · intro hfailed disk hdisk
    rcases List.mem_append.mp hdisk with hdisk | hdisk
    · exact hcalls disk hdisk
    · exact h.failed hfailed disk hdisk
  · intro hok
    obtain ⟨disk, hlast, himage⟩ := h.replaced hok
    refine ⟨disk, ?_, himage⟩
    show (calls ++ run.disks).getLast? = some disk
    rw [List.getLast?_append, hlast]
    rfl

/-- A run that fails and leaves the file alone throughout. -/
theorem cautious_of_failed {disks : List Disk} {err : Error} {before : Disk}
    {path image : ByteString} (h : ∀ disk ∈ disks, disk.KeepsOrDrops before path) :
    SaveRun.Cautious ⟨disks, .error err⟩ before path image :=
  ⟨fun d hd => h d (List.dropLast_subset _ hd), fun _ => h, fun hok => by cases hok⟩

theorem replaceFile_disks_ne (disk : Disk) (tmp path : ByteString) (io : FileOutcomes) :
    (replaceFile disk tmp path io).disks ≠ [] := by
  unfold replaceFile
  repeat' split
  all_goals exact List.cons_ne_nil _ _

theorem saveSnapshot_cautious (disk : Disk) (path : ByteString) (s : StateSnapshot)
    (io : FileOutcomes) : (saveSnapshot disk path s io).Cautious disk path (saveImage s) := by
  have hself := keepsOrDrops_refl disk path
  unfold saveSnapshot
  by_cases hopened : (!io.opened) = true
  · simp only [if_pos hopened]
    apply cautious_of_failed
    intro d hd
    rw [List.mem_singleton.mp hd]
    exact hself
  simp only [if_neg hopened]
  generalize hflushed : (if io.flushed = true then
    disk.write (path ++ text ".tmp") ((saveImage s).take io.written)
    else disk.write (path ++ text ".tmp")
      ((saveImage s).take (min io.reached io.written))) = flushed
  have hkeeps : flushed.KeepsOrDrops disk path := by
    rw [← hflushed]
    split
    · exact keepsOrDrops_write hself _
    · exact keepsOrDrops_write hself _
  have hcalls : ∀ d ∈ [disk.write (path ++ text ".tmp") [],
      disk.write (path ++ text ".tmp") ((saveImage s).take (min io.reached io.written)),
      flushed, flushed], Disk.KeepsOrDrops d disk path := by
    intro d hd
    simp only [List.mem_cons, List.not_mem_nil, or_false] at hd
    rcases hd with rfl | rfl | rfl | rfl
    · exact keepsOrDrops_write hself _
    · exact keepsOrDrops_write hself _
    · exact hkeeps
    · exact hkeeps
  by_cases hbad : (decide (io.written ≠ (saveImage s).length) || !io.flushed || !io.closed) = true
  · rw [if_pos hbad]
    apply cautious_of_failed
    intro d hd
    rcases List.mem_append.mp hd with hd | hd
    · exact hcalls d hd
    · rw [List.mem_singleton.mp hd]
      exact keepsOrDrops_removeTmp hkeeps io.removedTemp
  · rw [if_neg hbad]
    simp only [Bool.or_eq_true, decide_eq_true_eq, Bool.not_eq_true', not_or, not_not,
      Bool.not_eq_false] at hbad
    have htmp : flushed (path ++ text ".tmp") = some (saveImage s) := by
      rw [← hflushed, if_pos hbad.1.2, hbad.1.1, List.take_length]
      exact if_pos rfl
    exact (replaceFile_cautious hkeeps htmp io).after (replaceFile_disks_ne _ _ _ io) hcalls

/-- What is in the file when the process stops after some of the calls of a
save: the new image when the save is through, and otherwise what was there
before or nothing. -/
theorem SaveRun.Cautious.diskAfter {run : SaveRun} {before : Disk} {path image : ByteString}
    (h : run.Cautious before path image) (calls : Nat) :
    (run.Replaced calls ∧ run.diskAfter before calls path = some image) ∨
      (¬run.Replaced calls ∧ (run.diskAfter before calls).KeepsOrDrops before path) := by
  unfold SaveRun.diskAfter
  by_cases hlength : run.disks.length ≤ calls
  · rw [List.take_of_length_le hlength]
    by_cases hok : run.result = .ok ()
    · obtain ⟨disk, hlast, himage⟩ := h.replaced hok
      rw [hlast]
      exact Or.inl ⟨⟨hok, hlength⟩, himage⟩
    · refine Or.inr ⟨fun hreplaced => hok hreplaced.1, ?_⟩
      cases hlast : run.disks.getLast? with
      | none => exact keepsOrDrops_refl before path
      | some disk => exact h.failed hok disk (List.mem_of_getLast? hlast)
  · refine Or.inr ⟨fun hreplaced => hlength hreplaced.2, ?_⟩
    cases hlast : (run.disks.take calls).getLast? with
    | none => exact keepsOrDrops_refl before path
    | some disk =>
      apply h.early disk
      have htake : run.disks.take calls = run.disks.dropLast.take calls := by
        rw [List.dropLast_eq_take, List.take_take, Nat.min_eq_left (by omega)]
      have hmem := List.mem_of_getLast? hlast
      rw [htake] at hmem
      exact List.mem_of_mem_take hmem

end GpuFleet
