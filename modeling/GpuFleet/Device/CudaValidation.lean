import GpuFleet.Lib.Handles
import GpuFleet.Lib.Single
import GpuFleet.Core.Types

/-!
# The validation of a CUDA device

`run_cuda_validation` of `cuda/cuda_validation.cpp`, over what the calls of the
CUDA runtime answer.  What the kernel does on the device is not in the model:
any bits can come back.  The host compares them with its own reference in
single precision, and Lean's `Float32` has that arithmetic.  The test asks
whether the difference is too large, and the answer is no for a NaN, so a NaN
passes for a right result (`mismatches_eq_false`).

`CudaValidationResult.core` are the flags that the health of the device is
judged by later, and `ok` is the verdict on the whole sequence.
`runCudaValidation_exact` has what a run comes to, whatever the calls answer:
every buffer that was allocated is freed once, when `core` and `ok` are set,
and the one way to fail without a word in `detail`.
-/

namespace GpuFleet

open Handles (Event Owned opened uses)

/-! ## The device -/

/-- A pointer to memory of the device. -/
abbrev DevicePtr := UInt64

/-- What is done with a buffer. -/
inductive BufferCall
  | copyHostToDevice | readByKernel | writtenByKernel | copyDeviceToHost
  deriving DecidableEq

/-- What was done with the memory of the device, in order. -/
abbrev DeviceLog := List (Event DevicePtr BufferCall)

/-- `cudaMalloc`.  Memory that is in use is not handed out again. -/
def cudaMalloc (log : DeviceLog) (answer : Except ByteString DevicePtr) :
    Except ByteString DevicePtr × DeviceLog :=
  match answer with
  | .error why => (.error why, log)
  | .ok p =>
    if p ∈ opened log then (.error (text "out of memory"), log) else (.ok p, log ++ [.issued p])

/-- `cudaFree`. -/
def cudaFree (log : DeviceLog) (p : DevicePtr) : DeviceLog := log ++ [.released p]

/-- What the calls of one validation answer, each with the text of its error if
it fails.  `memInfo` are the free and the total bytes, and `hostOut` is what
`h_out` holds after the copy back.  The code does not look at what the first of
the two calls of `cudaFree` answers. -/
structure CudaAnswers where
  setDevice : Option ByteString
  memInfo : Except ByteString (UInt64 × UInt64)
  mallocIn : Except ByteString DevicePtr
  mallocOut : Except ByteString DevicePtr
  copyIn : Option ByteString
  launch : Option ByteString
  synchronize : Option ByteString
  copyOut : Option ByteString
  hostOut : Nat → Float32
  freeOut : Option ByteString
  memInfoAfter : Except ByteString (UInt64 × UInt64)

/-! ## The validation -/

/-- `CudaValidationResult`. -/
structure CudaValidationResult where
  ok : Bool := false
  elements : UInt64 := 0
  baselineFree : UInt64 := 0
  baselineUsed : UInt64 := 0
  afterFree : UInt64 := 0
  afterUsed : UInt64 := 0
  deltaFree : Int64 := 0
  memoryBaselineRestored : Bool := false
  allocOk : Bool := false
  h2dOk : Bool := false
  kernelOk : Bool := false
  syncOk : Bool := false
  d2hOk : Bool := false
  verifyOk : Bool := false
  detail : ByteString := []

/-- `kElements`. -/
def kElements : Nat := 1 <<< 20

/-- `kMaxJustifiedDelta`, as the `int64_t` that it is compared as. -/
def kMaxJustifiedDelta : Int64 := 16 * 1024 * 1024

/-- `std::to_string` of an `int64_t`. -/
def decimalInt64 (v : Int64) : ByteString :=
  if v < 0 then text "-" ++ decimal v.toInt.natAbs else decimal v.toInt.natAbs

/-- An element of `h_in`. -/
def hostIn (i : Nat) : Float32 := (i % 97).toUInt32.toFloat32

/-- `ref`, the result that the CPU computes for an element. -/
def cpuReference (i : Nat) : Float32 := hostIn i * 2 + 1

/-- The test `std::fabs(h_out[i] - ref) > 1e-5f`. -/
def mismatches (hostOut : Nat → Float32) (i : Nat) : Bool :=
  decide ((hostOut i - cpuReference i).abs > 1e-5)

/-- The loop that verifies the result: the first of `n` elements from `i` on
that the test finds different. -/
def firstMismatch (hostOut : Nat → Float32) (i : Nat) : Nat → Option Nat
  | 0 => none
  | n + 1 => if mismatches hostOut i then some i else firstMismatch hostOut (i + 1) n

/-- The `fail` closure keeps the first message. -/
def failDetail (detail msg : ByteString) : ByteString :=
  if detail.isEmpty then msg else detail

/-- The first message of the verification and of `cudaFree`, if there is one. -/
def lateDetail (os : CudaAnswers) (mismatch : Option Nat) : ByteString :=
  let detail := match mismatch with
    | some i => text "D2H result did not match CPU reference at element " ++ decimal i
    | none => []
  match os.freeOut with
  | some why => failDetail detail (text "cudaFree failed: " ++ why)
  | none => detail

/-- `run_cuda_validation` after the result was copied back: it is compared with
the reference, the buffers are freed, and the memory is looked at again. -/
def finishValidation (log : DeviceLog) (os : CudaAnswers) (dIn dOut : DevicePtr) (free : UInt64)
    (r : CudaValidationResult) : DeviceLog × CudaValidationResult :=
  let mismatch := firstMismatch os.hostOut 0 kElements
  let r := { r with verifyOk := mismatch.isNone }
  let log := cudaFree (cudaFree log dIn) dOut
  let detail := lateDetail os mismatch
  match os.memInfoAfter with
  | .error why =>
    (log, { r with detail := failDetail detail (text "cudaMemGetInfo(after) failed: " ++ why) })
  | .ok (freeAfter, totalAfter) =>
    let delta := freeAfter.toInt64 - free.toInt64
    let restored := decide (delta.abs ≤ kMaxJustifiedDelta)
    let ok := r.allocOk && r.h2dOk && r.kernelOk && r.syncOk && r.d2hOk && r.verifyOk && restored
    (log, { r with
      afterFree := freeAfter
      afterUsed := totalAfter - freeAfter
      deltaFree := delta
      memoryBaselineRestored := restored
      ok := ok
      detail :=
        if ok then
          text "CUDA validation OK: alloc, H2D, kernel, sync, D2H, CPU verify, free; mem delta "
            ++ (decimalInt64 delta ++ text " bytes (bounded).")
        else detail })

/-- `run_cuda_validation`. -/
def runCudaValidation (log : DeviceLog) (os : CudaAnswers) : DeviceLog × CudaValidationResult :=
  let r : CudaValidationResult := { elements := kElements.toUInt64 }
  match os.setDevice with
  | some why => (log, { r with detail := text "cudaSetDevice failed: " ++ why })
  | none =>
  match os.memInfo with
  | .error why => (log, { r with detail := text "cudaMemGetInfo(meminfo) failed: " ++ why })
  | .ok (free, total) =>
  let r := { r with baselineFree := free, baselineUsed := total - free }
  match cudaMalloc log os.mallocIn with
  | (.error why, log) => (log, { r with detail := text "cudaMalloc(d_in) failed: " ++ why })
  | (.ok dIn, log) =>
  let r := { r with allocOk := true }
  match cudaMalloc log os.mallocOut with
  | (.error why, log) =>
    (cudaFree log dIn, { r with detail := text "cudaMalloc(d_out) failed: " ++ why })
  | (.ok dOut, log) =>
  let log := log ++ uses dIn [.copyHostToDevice]
  match os.copyIn with
  | some why =>
    (cudaFree (cudaFree log dIn) dOut,
      { r with detail := text "cudaMemcpy H2D failed: " ++ why })
  | none =>
  let r := { r with h2dOk := true }
  let log := log ++ uses dIn [.readByKernel] ++ uses dOut [.writtenByKernel]
  match os.launch with
  | some why =>
    (cudaFree (cudaFree log dIn) dOut,
      { r with detail := text "kernel launch failed: " ++ why })
  | none =>
  let r := { r with kernelOk := true }
  match os.synchronize with
  | some why =>
    (cudaFree (cudaFree log dIn) dOut,
      { r with detail := text "cudaDeviceSynchronize failed: " ++ why })
  | none =>
  let r := { r with syncOk := true }
  let log := log ++ uses dOut [.copyDeviceToHost]
  match os.copyOut with
  | some why =>
    (cudaFree (cudaFree log dIn) dOut,
      { r with detail := text "cudaMemcpy D2H failed: " ++ why })
  | none => finishValidation log os dIn dOut free { r with d2hOk := true }

/-! ## What a validation comes to -/

/-- The flags that the health of a device is judged by. -/
def CudaValidationResult.core (r : CudaValidationResult) : Bool :=
  r.allocOk && r.kernelOk && r.syncOk && (r.d2hOk && r.verifyOk)

/-- The value is within the tolerance of the reference of the element, or it is
a NaN. -/
def Matches (value : Float32) (i : Nat) : Prop :=
  value.isNaN = true ∨ (value - cpuReference i).abs ≤ 1e-5

namespace CudaAnswers

/-- Every call up to the copy of the result succeeded. -/
structure Ran (os : CudaAnswers) (log : DeviceLog) : Prop where
  setDevice : os.setDevice = none
  memInfo : ∃ free total, os.memInfo = .ok (free, total)
  mallocIn : ∃ dIn, (cudaMalloc log os.mallocIn).1 = .ok dIn
  mallocOut : ∃ dOut, (cudaMalloc (cudaMalloc log os.mallocIn).2 os.mallocOut).1 = .ok dOut
  copyIn : os.copyIn = none
  launch : os.launch = none
  synchronize : os.synchronize = none
  copyOut : os.copyOut = none

/-- And every element of the result passes the test. -/
structure Passed (os : CudaAnswers) (log : DeviceLog) : Prop extends os.Ran log where
  elements : ∀ i, i < kElements → Matches (os.hostOut i) i

/-- The memory is within the allowance of what it was. -/
def Restored (os : CudaAnswers) : Prop :=
  ∃ free total freeAfter totalAfter, os.memInfo = .ok (free, total) ∧
    os.memInfoAfter = .ok (freeAfter, totalAfter) ∧
    (freeAfter.toInt64 - free.toInt64).abs ≤ kMaxJustifiedDelta

end CudaAnswers

/-! ## The test -/

theorem cpuReference_mod (i : Nat) : cpuReference i = cpuReference (i % 97) := by
  rw [cpuReference, cpuReference, hostIn, hostIn, Nat.mod_mod]

/-- The references are small odd numbers, without any rounding. -/
theorem cpuReference_eq (i : Nat) : cpuReference i = (2 * (i % 97) + 1).toUInt32.toFloat32 := by
  have hall : ∀ r < 97, cpuReference r = (2 * r + 1).toUInt32.toFloat32 := by decide +kernel
  rw [cpuReference_mod, hall _ (Nat.mod_lt i (by decide))]

theorem isFinite_cpuReference (i : Nat) : (cpuReference i).isFinite = true := by
  have hall : ∀ r < 97, (cpuReference r).isFinite = true := by decide +kernel
  rw [cpuReference_mod]
  exact hall _ (Nat.mod_lt i (by decide))

/-- The CPU agrees with itself. -/
theorem matches_cpuReference (i : Nat) : Matches (cpuReference i) i := by
  have hall : ∀ r < 97, (cpuReference r - cpuReference r).abs ≤ 1e-5 := by decide +kernel
  refine Or.inr ?_
  rw [cpuReference_mod]
  exact hall _ (Nat.mod_lt i (by decide))

/-- What the test lets through. -/
theorem mismatches_eq_false {hostOut : Nat → Float32} {i : Nat} :
    mismatches hostOut i = false ↔ Matches (hostOut i) i := by
  have htolerance : (1e-5 : Float32).isNaN = false := by decide +kernel
  unfold mismatches
  rw [decide_eq_false_iff_not, gt_iff_lt, Float32.not_lt_iff, htolerance, Float32.isNaN_abs,
    Float32.isNaN_sub _ (isFinite_cpuReference i)]
  simp [Matches]

theorem firstMismatch_eq_none {hostOut : Nat → Float32} {i n : Nat} :
    firstMismatch hostOut i n = none ↔
      ∀ j, i ≤ j → j < i + n → mismatches hostOut j = false := by
  induction n generalizing i with
  | zero =>
    refine iff_of_true rfl fun j hij hj => ?_
    omega
  | succ n ih =>
    rw [firstMismatch]
    cases hi : mismatches hostOut i with
    | true =>
      refine iff_of_false (by simp) fun h => ?_
      have hsame := h i (Nat.le_refl i) (by omega)
      rw [hi] at hsame
      cases hsame
    | false =>
      rw [if_neg (by simp), ih]
      constructor
      · intro h j hij hj
        rcases Nat.eq_or_lt_of_le hij with rfl | hlt
        · exact hi
        · exact h j hlt (by omega)
      · intro h j hij hj
        exact h j (by omega) (by omega)

/-! ## Every call -/

theorem text_append_ne_nil {s : String} (h : text s ≠ []) (why : ByteString) :
    text s ++ why ≠ [] :=
  List.append_ne_nil_of_left_ne_nil h why

theorem failDetail_ne_nil {detail msg : ByteString} (h : msg ≠ []) :
    failDetail detail msg ≠ [] := by
  unfold failDetail
  split
  · exact h
  · next hdetail => exact fun hnil => hdetail (List.isEmpty_iff.mpr hnil)

section Run

variable {log : DeviceLog} {held : List DevicePtr}

theorem cudaMalloc_cases (ho : Owned log held) (answer : Except ByteString DevicePtr) :
    (∃ why, cudaMalloc log answer = (.error why, log)) ∨
      ∃ p, cudaMalloc log answer = (.ok p, log ++ [.issued p]) ∧
        Owned (log ++ [.issued p]) (p :: held) := by
  cases answer with
  | error why => exact Or.inl ⟨why, rfl⟩
  | ok p =>
    unfold cudaMalloc
    dsimp only
    split
    · exact Or.inl ⟨_, rfl⟩
    · next hfree => exact Or.inr ⟨p, rfl, ho.issue hfree⟩

theorem owned_cudaFree_both {dIn dOut : DevicePtr} (ho : Owned log (dOut :: dIn :: held)) :
    Owned (cudaFree (cudaFree log dIn) dOut) held :=
  (ho.of_perm (List.Perm.swap dIn dOut held)).release_cons.release_cons

/-- A run has stopped at a call that failed, with a message and with every
buffer freed, or it has come to its last part. -/
inductive ValidationExit (os : CudaAnswers) (log : DeviceLog) (held : List DevicePtr) :
    DeviceLog × CudaValidationResult → Prop
  | stopped (after : DeviceLog) (r : CudaValidationResult) (ho : Owned after held)
      (hran : ¬os.Ran log) (hok : r.ok = false) (hcore : r.core = false)
      (hdetail : r.detail ≠ []) : ValidationExit os log held (after, r)
  | finished (before : DeviceLog) (dIn dOut : DevicePtr) (free total : UInt64)
      (r : CudaValidationResult) (ho : Owned before (dOut :: dIn :: held)) (hran : os.Ran log)
      (hinfo : os.memInfo = .ok (free, total))
      (hflags : r.allocOk = true ∧ r.h2dOk = true ∧ r.kernelOk = true ∧ r.syncOk = true ∧
        r.d2hOk = true) (hok : r.ok = false) :
      ValidationExit os log held (finishValidation before os dIn dOut free r)

theorem runCudaValidation_exit (ho : Owned log held) (os : CudaAnswers) :
    ValidationExit os log held (runCudaValidation log os) := by
  unfold runCudaValidation
  dsimp only
  cases hset : os.setDevice with
  | some why =>
    refine .stopped _ _ ho (fun h => ?_) rfl rfl (text_append_ne_nil (by decide) why)
    cases hset.symm.trans h.setDevice
  | none =>
  cases hinfo : os.memInfo with
  | error why =>
    refine .stopped _ _ ho (fun h => ?_) rfl rfl (text_append_ne_nil (by decide) why)
    obtain ⟨free, total, hok⟩ := h.memInfo
    cases hinfo.symm.trans hok
  | ok info =>
  obtain ⟨free, total⟩ := info
  dsimp only
  rcases cudaMalloc_cases ho os.mallocIn with ⟨why, hin⟩ | ⟨dIn, hin, hoIn⟩
  · rw [hin]
    refine .stopped _ _ ho (fun h => ?_) rfl rfl (text_append_ne_nil (by decide) why)
    obtain ⟨dIn, hok⟩ := h.mallocIn
    rw [hin] at hok
    cases hok
  rw [hin]
  dsimp only
  rcases cudaMalloc_cases hoIn os.mallocOut with ⟨why, hout⟩ | ⟨dOut, hout, hoOut⟩
  · rw [hout]
    refine .stopped _ _ hoIn.release_cons (fun h => ?_) rfl rfl
      (text_append_ne_nil (by decide) why)
    obtain ⟨dOut, hok⟩ := h.mallocOut
    rw [hin, hout] at hok
    cases hok
  rw [hout]
  dsimp only
  have hcopied := hoOut.uses (h := dIn) (List.mem_cons_of_mem _ List.mem_cons_self)
    [.copyHostToDevice]
  cases hcopyIn : os.copyIn with
  | some why =>
    refine .stopped _ _ (owned_cudaFree_both hcopied) (fun h => ?_) rfl rfl
      (text_append_ne_nil (by decide) why)
    cases hcopyIn.symm.trans h.copyIn
  | none =>
  have hran := (hcopied.uses (h := dIn) (List.mem_cons_of_mem _ List.mem_cons_self)
    [.readByKernel]).uses (h := dOut) List.mem_cons_self [.writtenByKernel]
  cases hlaunch : os.launch with
  | some why =>
    refine .stopped _ _ (owned_cudaFree_both hran) (fun h => ?_) rfl rfl
      (text_append_ne_nil (by decide) why)
    cases hlaunch.symm.trans h.launch
  | none =>
  cases hsync : os.synchronize with
  | some why =>
    refine .stopped _ _ (owned_cudaFree_both hran) (fun h => ?_) rfl rfl
      (text_append_ne_nil (by decide) why)
    cases hsync.symm.trans h.synchronize
  | none =>
  have hback := hran.uses (h := dOut) List.mem_cons_self [.copyDeviceToHost]
  cases hcopyOut : os.copyOut with
  | some why =>
    refine .stopped _ _ (owned_cudaFree_both hback) (fun h => ?_) rfl rfl
      (text_append_ne_nil (by decide) why)
    cases hcopyOut.symm.trans h.copyOut
  | none =>
    refine .finished _ dIn dOut free total _ hback ?_ hinfo ⟨rfl, rfl, rfl, rfl, rfl⟩ rfl
    exact ⟨hset, ⟨free, total, hinfo⟩, ⟨dIn, by rw [hin]⟩, ⟨dOut, by rw [hin, hout]⟩, hcopyIn,
      hlaunch, hsync, hcopyOut⟩

/-! ## The last part -/

section Finish

variable {os : CudaAnswers} {dIn dOut : DevicePtr} {free : UInt64} {r : CudaValidationResult}

/-- The memory is within the allowance of `free`. -/
def CudaAnswers.RestoredFrom (os : CudaAnswers) (free : UInt64) : Prop :=
  ∃ freeAfter totalAfter, os.memInfoAfter = .ok (freeAfter, totalAfter) ∧
    (freeAfter.toInt64 - free.toInt64).abs ≤ kMaxJustifiedDelta

theorem CudaAnswers.restored_iff {total : UInt64} (hinfo : os.memInfo = .ok (free, total)) :
    os.Restored ↔ os.RestoredFrom free := by
  constructor
  · rintro ⟨free', total', freeAfter, totalAfter, hbefore, hafter, hdelta⟩
    cases hinfo.symm.trans hbefore
    exact ⟨freeAfter, totalAfter, hafter, hdelta⟩
  · rintro ⟨freeAfter, totalAfter, hafter, hdelta⟩
    exact ⟨free, total, freeAfter, totalAfter, hinfo, hafter, hdelta⟩

theorem finishValidation_log :
    (finishValidation log os dIn dOut free r).1 = cudaFree (cudaFree log dIn) dOut := by
  unfold finishValidation
  generalize firstMismatch os.hostOut 0 kElements = mismatch
  dsimp only
  split <;> rfl

variable (hflags : r.allocOk = true ∧ r.h2dOk = true ∧ r.kernelOk = true ∧ r.syncOk = true ∧
  r.d2hOk = true)

include hflags in
theorem finishValidation_core :
    (finishValidation log os dIn dOut free r).2.core = true ↔
      firstMismatch os.hostOut 0 kElements = none := by
  obtain ⟨halloc, -, hkernel, hsync, hd2h⟩ := hflags
  unfold finishValidation
  generalize firstMismatch os.hostOut 0 kElements = mismatch
  dsimp only
  split <;> simp [CudaValidationResult.core, halloc, hkernel, hsync, hd2h]

include hflags in
theorem finishValidation_ok (hok : r.ok = false) :
    (finishValidation log os dIn dOut free r).2.ok = true ↔
      firstMismatch os.hostOut 0 kElements = none ∧ os.RestoredFrom free := by
  obtain ⟨halloc, hh2d, hkernel, hsync, hd2h⟩ := hflags
  unfold finishValidation CudaAnswers.RestoredFrom
  generalize firstMismatch os.hostOut 0 kElements = mismatch
  dsimp only
  cases os.memInfoAfter with
  | error why => simp [hok]
  | ok info => simp [halloc, hh2d, hkernel, hsync, hd2h, Prod.ext_iff]

theorem lateDetail_eq_nil {mismatch : Option Nat} :
    lateDetail os mismatch = [] ↔ mismatch = none ∧ os.freeOut = none := by
  unfold lateDetail
  cases os.freeOut with
  | some why =>
    exact iff_of_false (failDetail_ne_nil (text_append_ne_nil (by decide) why)) (by simp)
  | none =>
    cases mismatch with
    | some i => exact iff_of_false (text_append_ne_nil (by decide) _) (by simp)
    | none => simp

include hflags in
/-- `detail` stays empty when nothing failed but the memory is not back. -/
theorem finishValidation_detail :
    (finishValidation log os dIn dOut free r).2.detail = [] ↔
      firstMismatch os.hostOut 0 kElements = none ∧ os.freeOut = none ∧
        (∃ after, os.memInfoAfter = .ok after) ∧ ¬os.RestoredFrom free := by
  obtain ⟨halloc, hh2d, hkernel, hsync, hd2h⟩ := hflags
  unfold finishValidation
  generalize firstMismatch os.hostOut 0 kElements = mismatch
  dsimp only
  cases hafter : os.memInfoAfter with
  | error why =>
    refine iff_of_false (failDetail_ne_nil (text_append_ne_nil (by decide) why)) ?_
    rintro ⟨-, -, ⟨after, h⟩, -⟩
    cases h
  | ok after =>
    obtain ⟨freeAfter, totalAfter⟩ := after
    have hrestored : os.RestoredFrom free ↔
        (freeAfter.toInt64 - free.toInt64).abs ≤ kMaxJustifiedDelta := by
      simp [CudaAnswers.RestoredFrom, hafter]
    simp only [halloc, hh2d, hkernel, hsync, hd2h, Bool.and_true, Bool.true_and, Bool.and_eq_true,
      Option.isNone_iff_eq_none, decide_eq_true_eq, hrestored]
    split
    · next hok =>
      refine iff_of_false (text_append_ne_nil (by decide) _) ?_
      rintro ⟨-, -, -, hnot⟩
      exact hnot hok.2
    · next hnot =>
      rw [lateDetail_eq_nil]
      constructor
      · rintro ⟨hsame, hfreed⟩
        exact ⟨hsame, hfreed, ⟨_, rfl⟩, fun hback => hnot ⟨hsame, hback⟩⟩
      · rintro ⟨hsame, hfreed, -, -⟩
        exact ⟨hsame, hfreed⟩

end Finish

/-! ## Every exit -/

theorem CudaAnswers.passed_iff {os : CudaAnswers} (hran : os.Ran log) :
    os.Passed log ↔ firstMismatch os.hostOut 0 kElements = none := by
  rw [firstMismatch_eq_none]
  constructor
  · intro h j _ hj
    exact mismatches_eq_false.mpr (h.elements j (by omega))
  · intro h
    exact ⟨hran, fun i hi => mismatches_eq_false.mp (h i (Nat.zero_le i) (by omega))⟩

namespace ValidationExit

variable {os : CudaAnswers} {out : DeviceLog × CudaValidationResult}

theorem freed (h : ValidationExit os log held out) : Owned out.1 held := by
  cases h with
  | stopped after r ho hran hok hcore hdetail => exact ho
  | finished before dIn dOut free total r ho hran hinfo hflags hok =>
    rw [finishValidation_log]
    exact owned_cudaFree_both ho

theorem core_iff (h : ValidationExit os log held out) :
    out.2.core = true ↔ os.Passed log := by
  cases h with
  | stopped after r ho hran hok hcore hdetail =>
    refine iff_of_false ?_ fun h => hran h.toRan
    rw [hcore]
    exact Bool.false_ne_true
  | finished before dIn dOut free total r ho hran hinfo hflags hok =>
    rw [CudaAnswers.passed_iff hran]
    exact finishValidation_core hflags

theorem ok_iff (h : ValidationExit os log held out) :
    out.2.ok = true ↔ os.Passed log ∧ os.Restored := by
  cases h with
  | stopped after r ho hran hok hcore hdetail =>
    refine iff_of_false ?_ fun h => hran h.1.toRan
    rw [hok]
    exact Bool.false_ne_true
  | finished before dIn dOut free total r ho hran hinfo hflags hok =>
    rw [CudaAnswers.passed_iff hran, CudaAnswers.restored_iff hinfo]
    exact finishValidation_ok hflags hok

theorem detail_iff (h : ValidationExit os log held out) :
    out.2.detail = [] ↔ os.Passed log ∧ os.freeOut = none ∧
      (∃ after, os.memInfoAfter = .ok after) ∧ ¬os.Restored := by
  cases h with
  | stopped after r ho hran hok hcore hdetail =>
    exact iff_of_false hdetail fun h => hran h.1.toRan
  | finished before dIn dOut free total r ho hran hinfo hflags hok =>
    rw [CudaAnswers.passed_iff hran, CudaAnswers.restored_iff hinfo]
    exact finishValidation_detail hflags

end ValidationExit

/-- What a validation comes to, whatever the calls answer and whatever bits come
back.  The buffers that it allocated are freed, each once and with nothing done
to it afterwards.  The flags say whether the calls up to the copy back
succeeded and every element matches the reference or is a NaN, `ok` says that
the memory came back as well, and `detail` is empty exactly when the memory is
the one thing that is wrong. -/
theorem runCudaValidation_exact (ho : Owned log held) (os : CudaAnswers) :
    Owned (runCudaValidation log os).1 held ∧
      ((runCudaValidation log os).2.core = true ↔ os.Passed log) ∧
      ((runCudaValidation log os).2.ok = true ↔ os.Passed log ∧ os.Restored) ∧
      ((runCudaValidation log os).2.detail = [] ↔
        os.Passed log ∧ os.freeOut = none ∧ (∃ after, os.memInfoAfter = .ok after) ∧
          ¬os.Restored) :=
  have hexit := runCudaValidation_exit ho os
  ⟨hexit.freed, hexit.core_iff, hexit.ok_iff, hexit.detail_iff⟩

end Run

/-! ## A device that keeps some memory -/

/-- One element of the result is a NaN. -/
def sampleHostOut (i : Nat) : Float32 := if i = 5 then .ofBits 0x7FC00000 else cpuReference i

/-- Every call succeeds and the result passes the test, but 17 MiB stay in
use. -/
def sampleCudaAnswers : CudaAnswers where
  setDevice := none
  memInfo := .ok (1024 * 1024 * 1024, 2048 * 1024 * 1024)
  mallocIn := .ok 4096
  mallocOut := .ok 8192
  copyIn := none
  launch := none
  synchronize := none
  copyOut := none
  hostOut := sampleHostOut
  freeOut := none
  memInfoAfter := .ok (1007 * 1024 * 1024, 2048 * 1024 * 1024)

theorem matches_sampleHostOut (i : Nat) : Matches (sampleHostOut i) i := by
  unfold sampleHostOut
  split
  · exact Or.inl (by decide +kernel)
  · exact matches_cpuReference i

theorem sampleCudaAnswers_passed : sampleCudaAnswers.Passed [] where
  setDevice := rfl
  memInfo := ⟨_, _, rfl⟩
  mallocIn := ⟨4096, rfl⟩
  mallocOut := ⟨8192, rfl⟩
  copyIn := rfl
  launch := rfl
  synchronize := rfl
  copyOut := rfl
  elements := fun i _ => matches_sampleHostOut i

theorem sampleCudaAnswers_not_restored : ¬sampleCudaAnswers.Restored := by
  have hinfo : sampleCudaAnswers.memInfo = .ok (1024 * 1024 * 1024, 2048 * 1024 * 1024) := rfl
  rw [CudaAnswers.restored_iff hinfo]
  rintro ⟨freeAfter, totalAfter, hafter, hdelta⟩
  cases hafter
  exact absurd hdelta (by decide)

/-- The device passed, with a NaN in its result.  The verdict is that it did not,
and no reason is given. -/
theorem sampleCuda_unexplained :
    (runCudaValidation [] sampleCudaAnswers).2.core = true ∧
      (runCudaValidation [] sampleCudaAnswers).2.ok ≠ true ∧
      (runCudaValidation [] sampleCudaAnswers).2.detail = [] := by
  obtain ⟨-, hcore, hok, hdetail⟩ := runCudaValidation_exact Owned.nil sampleCudaAnswers
  exact ⟨hcore.mpr sampleCudaAnswers_passed, fun h => sampleCudaAnswers_not_restored (hok.mp h).2,
    hdetail.mpr ⟨sampleCudaAnswers_passed, rfl, ⟨_, rfl⟩, sampleCudaAnswers_not_restored⟩⟩

end GpuFleet
