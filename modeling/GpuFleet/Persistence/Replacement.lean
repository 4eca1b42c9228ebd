import GpuFleet.Persistence.Load

/-!
# Is the target replaced in one step?

`save_snapshot` writes a temporary file and renames it over the target.  When
the rename fails it removes the target and renames once more, so that there is
a moment in which the target is gone.

`FileOutcomes.contents` is what the calls of a save leave in the target, one
after the other.  It does not mention a disk, and `saveSnapshot_contents` says
that it is what the save does.
-/

namespace GpuFleet

/-- The temporary file is complete after the calls that write it. -/
def FileOutcomes.Complete (io : FileOutcomes) (size : Nat) : Prop :=
  io.opened = true ∧ io.written = size ∧ io.flushed = true ∧ io.closed = true

instance (io : FileOutcomes) (size : Nat) : Decidable (io.Complete size) :=
  inferInstanceAs (Decidable (_ ∧ _ ∧ _ ∧ _))

/-- The save gets as far as the `remove` of the target, and it succeeds. -/
def FileOutcomes.RemovesTarget (io : FileOutcomes) (size : Nat) : Prop :=
  io.Complete size ∧ io.renamed = false ∧ io.removedTarget = true

instance (io : FileOutcomes) (size : Nat) : Decidable (io.RemovesTarget size) :=
  inferInstanceAs (Decidable (_ ∧ _ ∧ _))

/-- What is in the target after each of the last calls. -/
def FileOutcomes.replaceContents (io : FileOutcomes) (before : Option ByteString)
    (image : ByteString) : List (Option ByteString) :=
  if io.renamed then [some image]
  else
    let cleared := if io.removedTarget then none else before
    if io.renamedAgain then [before, cleared, some image]
    else [before, cleared, cleared, cleared]

/-- What is in the target after each call of a save. -/
def FileOutcomes.contents (io : FileOutcomes) (before : Option ByteString)
    (image : ByteString) : List (Option ByteString) :=
  if io.opened = false then [before]
  else if io.Complete image.length then
    [before, before, before, before] ++ io.replaceContents before image
  else [before, before, before, before, before]

/-- Whether the save takes an error branch. -/
def FileOutcomes.Fails (io : FileOutcomes) (size : Nat) : Prop :=
  ¬io.Complete size ∨ (io.renamed = false ∧ io.renamedAgain = false)

section Contents

variable {disk : Disk} {path : ByteString}

theorem write_tmp (content : ByteString) :
    (disk.write (path ++ text ".tmp") content) path = disk path :=
  if_neg (tmp_ne path)

theorem removeFile_tmp (removed : Bool) :
    (removeFile disk (path ++ text ".tmp") removed) path = disk path := by
  cases removed with
  | true => exact if_neg (tmp_ne path)
  | false => rfl

theorem removeFile_target (removed : Bool) :
    (removeFile disk path removed) path = if removed then none else disk path := by
  cases removed with
  | true => exact if_pos rfl
  | false => rfl

theorem removeFile_target_tmp (removed : Bool) :
    (removeFile disk path removed) (path ++ text ".tmp") = disk (path ++ text ".tmp") := by
  cases removed with
  | true => exact if_neg (tmp_ne path).symm
  | false => rfl

theorem rename_tmp {content : Option ByteString} (h : disk (path ++ text ".tmp") = content) :
    (disk.rename (path ++ text ".tmp") path) path = content :=
  (if_pos rfl).trans h

theorem replaceFile_contents {image : ByteString}
    (htmp : disk (path ++ text ".tmp") = some image) (io : FileOutcomes) :
    (replaceFile disk (path ++ text ".tmp") path io).disks.map (fun d => d path)
        = io.replaceContents (disk path) image ∧
      ((replaceFile disk (path ++ text ".tmp") path io).result = .ok () ↔
        ¬(io.renamed = false ∧ io.renamedAgain = false)) := by
  unfold replaceFile FileOutcomes.replaceContents
  cases hrenamed : io.renamed with
  | true =>
    refine ⟨?_, iff_of_true rfl (fun h => Bool.noConfusion h.1)⟩
    exact congrArg (fun content => [content]) (rename_tmp htmp)
  | false =>
    have hcleared : (removeFile disk path io.removedTarget) path
        = if io.removedTarget then none else disk path := removeFile_target io.removedTarget
    have hkept : (removeFile disk path io.removedTarget) (path ++ text ".tmp") = some image :=
      (removeFile_target_tmp io.removedTarget).trans htmp
    cases hagain : io.renamedAgain with
    | true =>
      refine ⟨?_, iff_of_true rfl (fun h => Bool.noConfusion h.2)⟩
      simp only [Bool.false_eq_true, if_false, if_true, List.map_cons, List.map_nil, hcleared,
        rename_tmp hkept]
    | false =>
      refine ⟨?_, iff_of_false (fun h => by cases h) (fun h => h ⟨rfl, rfl⟩)⟩
      simp only [Bool.false_eq_true, if_false, List.map_cons, List.map_nil, hcleared,
        removeFile_tmp]

/-- The calls of a save, as far as the target is concerned. -/
theorem saveSnapshot_contents (disk : Disk) (path : ByteString) (s : StateSnapshot)
    (io : FileOutcomes) :
    (saveSnapshot disk path s io).disks.map (fun d => d path)
        = io.contents (disk path) (saveImage s) ∧
      ((saveSnapshot disk path s io).result = .ok () ↔ ¬io.Fails (saveImage s).length) := by
  unfold saveSnapshot FileOutcomes.contents FileOutcomes.Fails
  cases hopened : io.opened with
  | false =>
    refine ⟨rfl, iff_of_false (fun h => by cases h) (fun h => h (Or.inl ?_))⟩
    intro hcomplete
    exact Bool.noConfusion (hopened.symm.trans hcomplete.1)
  | true =>
    by_cases hcomplete : io.Complete (saveImage s).length
    · obtain ⟨-, hwritten, hflushed, hclosed⟩ := id hcomplete
      have htmp : (disk.write (path ++ text ".tmp") (saveImage s)) (path ++ text ".tmp")
          = some (saveImage s) := if_pos rfl
      obtain ⟨hdisks, hresult⟩ := replaceFile_contents htmp io
      rw [write_tmp] at hdisks
      simp only [hwritten, hflushed, hclosed, List.take_length, Bool.not_true, Bool.false_eq_true,
        if_false, if_true, ne_eq, not_true_eq_false, decide_false, Bool.or_false, List.map_append,
        List.map_cons, List.map_nil, write_tmp, hdisks, hresult, reduceCtorEq, true_and, hcomplete,
        false_or]
    · have hbad : (decide (io.written ≠ (saveImage s).length) || !io.flushed || !io.closed)
          = true := by
        simp only [FileOutcomes.Complete, hopened, true_and] at hcomplete
        by_contra hgood
        simp only [Bool.or_eq_true, decide_eq_true_eq, Bool.not_eq_true', not_or, not_not,
          Bool.not_eq_false] at hgood
        exact hcomplete ⟨hgood.1.1, hgood.1.2, hgood.2⟩
      simp only [Bool.not_true, Bool.false_eq_true, if_false, if_pos hbad, if_neg hcomplete,
        reduceCtorEq]
      refine ⟨?_, iff_of_false (fun h => by cases h) (fun h => h (Or.inl hcomplete))⟩
      split <;>
        simp only [List.cons_append, List.nil_append, List.map_cons, List.map_nil, write_tmp,
          removeFile_tmp]

end Contents

/-! ## Crashes -/

/-- Whenever the process stops, the target has its content from before or the
whole image, and it has its content from before when the save fails. -/
def SaveRun.Atomic (run : SaveRun) (before : Disk) (path image : ByteString) : Prop :=
  (∀ calls, run.diskAfter before calls path = before path ∨
    run.diskAfter before calls path = some image) ∧
  ∀ err, run.result = .error err → run.disk before path = before path

theorem SaveRun.diskAfter_path (run : SaveRun) (before : Disk) (calls : Nat) (path : ByteString) :
    run.diskAfter before calls path
      = ((run.disks.map fun d => d path).take calls).getLast?.getD (before path) := by
  rw [diskAfter, ← List.map_take, List.getLast?_map]
  cases (run.disks.take calls).getLast? with
  | none => rfl
  | some disk => rfl

/-- Something holds at every crash point if it holds before the save and after
each of its calls. -/
theorem forall_take_getLast? {α : Type} {l : List α} {a : α} {P : α → Prop} :
    (∀ n, P ((l.take n).getLast?.getD a)) ↔ P a ∧ ∀ x ∈ l, P x := by
  refine ⟨fun h => ⟨?_, ?_⟩, ?_⟩
  · have hzero := h 0
    rwa [List.take_zero] at hzero
  · intro x hx
    obtain ⟨i, hi, rfl⟩ := List.getElem_of_mem hx
    have hlast := h (i + 1)
    rwa [List.take_add_one, List.getElem?_eq_getElem hi, Option.toList_some,
      List.getLast?_concat] at hlast
  · rintro ⟨ha, hall⟩ n
    cases hlast : (l.take n).getLast? with
    | none => exact ha
    | some x => exact hall x (List.mem_of_mem_take (List.mem_of_getLast? hlast))

/-- The save as far as the target is concerned: what is in it before and after
each call, and whether the save fails. -/
theorem saveSnapshot_atomic_iff (disk : Disk) (path : ByteString) (s : StateSnapshot)
    (io : FileOutcomes) :
    (saveSnapshot disk path s io).Atomic disk path (saveImage s) ↔
      (∀ c ∈ io.contents (disk path) (saveImage s), c = disk path ∨ c = some (saveImage s)) ∧
      (io.Fails (saveImage s).length →
        (io.contents (disk path) (saveImage s)).getLast?.getD (disk path) = disk path) := by
  obtain ⟨hdisks, hresult⟩ := saveSnapshot_contents disk path s io
  have hfails : (∃ err, (saveSnapshot disk path s io).result = .error err) ↔
      io.Fails (saveImage s).length := by
    rw [← not_iff_not, ← hresult]
    cases (saveSnapshot disk path s io).result with
    | ok u => exact iff_of_true (fun ⟨err, h⟩ => by cases h) rfl
    | error err => exact iff_of_false (fun h => h ⟨err, rfl⟩) (fun h => by cases h)
  have hfinal : (saveSnapshot disk path s io).disk disk path
      = (io.contents (disk path) (saveImage s)).getLast?.getD (disk path) := by
    rw [← SaveRun.diskAfter_length, SaveRun.diskAfter_path, hdisks, ← hdisks,
      List.take_of_length_le (by rw [List.length_map])]
  refine and_congr ?_ ?_
  · simp only [SaveRun.diskAfter_path, hdisks]
    rw [forall_take_getLast? (P := fun c => c = disk path ∨ c = some (saveImage s))]
    exact and_iff_right (Or.inl rfl)
  · rw [hfinal, ← hfails]
    exact ⟨fun h ⟨err, herr⟩ => h err herr, fun h err herr => h ⟨err, herr⟩⟩

theorem replaceContents_atomic_iff (io : FileOutcomes) (before : Option ByteString)
    (image : ByteString) :
    ((∀ c ∈ io.replaceContents before image, c = before ∨ c = some image) ∧
        (io.renamed = false ∧ io.renamedAgain = false →
          (io.replaceContents before image).getLast?.getD before = before)) ↔
      (io.renamed = false ∧ io.removedTarget = true → before = none) := by
  unfold FileOutcomes.replaceContents
  cases io.renamed with
  | true => simp
  | false =>
    -- the target is gone between the `remove` and the second rename
    cases before <;> cases io.removedTarget <;> cases io.renamedAgain <;> simp

/-- A save replaces the target in one step unless there is a target, the first
rename fails and the target can be removed. -/
theorem saveSnapshot_atomic (disk : Disk) (path : ByteString) (s : StateSnapshot)
    (io : FileOutcomes) :
    (saveSnapshot disk path s io).Atomic disk path (saveImage s) ↔
      (io.RemovesTarget (saveImage s).length → disk path = none) := by
  rw [saveSnapshot_atomic_iff]
  generalize saveImage s = image
  generalize disk path = before
  unfold FileOutcomes.RemovesTarget FileOutcomes.Fails
  by_cases hcomplete : io.Complete image.length
  · have hcontents : io.contents before image
        = [before, before, before, before] ++ io.replaceContents before image := by
      rw [FileOutcomes.contents, if_neg (by rw [hcomplete.1]; exact Bool.noConfusion),
        if_pos hcomplete]
    have hlast : (io.contents before image).getLast?.getD before
        = (io.replaceContents before image).getLast?.getD before := by
      rw [hcontents, List.getLast?_append]
      cases (io.replaceContents before image).getLast? <;> rfl
    have hall : (∀ c ∈ io.contents before image, c = before ∨ c = some image) ↔
        ∀ c ∈ io.replaceContents before image, c = before ∨ c = some image := by
      simp [hcontents]
    have hreplace := replaceContents_atomic_iff io before image
    rw [hlast, hall]
    simp only [hcomplete, not_true_eq_false, false_or, true_and, hreplace]
  · have hcontents : ∀ c ∈ io.contents before image, c = before := by
      unfold FileOutcomes.contents
      rw [if_neg hcomplete]
      split <;> simp
    refine iff_of_true ⟨fun c hc => Or.inl (hcontents c hc), fun _ => ?_⟩
      (fun h => absurd h.1 hcomplete)
    cases hlast : (io.contents before image).getLast? with
    | none => rfl
    | some c => exact hcontents c (List.mem_of_getLast? hlast)

/-- A file that is there is gone between the second and the third of the last
calls, and a process that stops then has lost it. -/
theorem saveSnapshot_not_atomic :
    ¬(saveSnapshot (fun _ => some [1]) (text "state") {}
        { written := (saveImage {}).length, renamed := false }).Atomic
      (fun _ => some [1]) (text "state") (saveImage {}) := by
  intro h
  have hgone := h.1 6
  revert hgone
  decide +kernel

end GpuFleet
