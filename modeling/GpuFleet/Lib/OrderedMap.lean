import Mathlib.Data.List.Sort
import Mathlib.Tactic.Common

/-!
# Ordered maps with equality on keys

`Std.ExtTreeMap` states its lemmas through the comparison function.  Where
the comparison decides equality, as it does for every key type of a
`std::map` in practice, the lookup lemmas read better with an equality, and
these are the forms used by the proofs about stores.
-/

namespace OrderedMap

open Std

variable {κ ν : Type} [Ord κ] [TransOrd κ] [LawfulEqOrd κ] [DecidableEq κ]
  {m : ExtTreeMap κ ν}

theorem getElem?_insert (m : ExtTreeMap κ ν) (k a : κ) (v : ν) :
    (m.insert k v)[a]? = if k = a then some v else m[a]? := by
  rw [ExtTreeMap.getElem?_insert]
  simp only [LawfulEqOrd.compare_eq_iff_eq]

theorem getElem?_modify (m : ExtTreeMap κ ν) (k a : κ) (f : ν → ν) :
    (m.modify k f)[a]? = if k = a then m[a]?.map f else m[a]? := by
  rw [ExtTreeMap.getElem?_modify]
  simp only [LawfulEqOrd.compare_eq_iff_eq]
  split
  · next h => rw [h]
  · rfl

@[simp] theorem getElem?_insert_same (m : ExtTreeMap κ ν) (k : κ) (v : ν) :
    (m.insert k v)[k]? = some v := by
  rw [getElem?_insert, if_pos rfl]

theorem getElem?_insert_of_ne {k a : κ} (h : k ≠ a) (v : ν) :
    (m.insert k v)[a]? = m[a]? := by
  rw [getElem?_insert, if_neg h]

@[simp] theorem getElem?_modify_same (m : ExtTreeMap κ ν) (k : κ) (f : ν → ν) :
    (m.modify k f)[k]? = m[k]?.map f := by
  rw [getElem?_modify, if_pos rfl]

/-- A value that a function fixes is not changed by a `modify`. -/
theorem modify_eq_self {k : κ} {f : ν → ν} (h : ∀ v, m[k]? = some v → f v = v) :
    m.modify k f = m := by
  apply ExtTreeMap.ext_getElem?
  intro a
  rw [getElem?_modify]
  split
  · next he =>
    subst he
    cases hv : m[k]? with
    | none => rfl
    | some v => rw [Option.map_some, h v hv]
  · rfl

/-- An `insert` over the value that is there is a `modify`. -/
theorem insert_eq_modify {k : κ} {v : ν} (h : m[k]? = some v) (f : ν → ν) :
    m.insert k (f v) = m.modify k f := by
  apply ExtTreeMap.ext_getElem?
  intro a
  rw [getElem?_insert, getElem?_modify]
  by_cases hk : k = a
  · subst hk
    rw [if_pos rfl, if_pos rfl, h, Option.map_some]
  · rw [if_neg hk, if_neg hk]

/-- A `modify` does nothing exactly when the function fixes the value. -/
theorem modify_eq_self_iff {k : κ} {f : ν → ν} :
    m.modify k f = m ↔ ∀ v, m[k]? = some v → f v = v := by
  constructor
  · intro h v hv
    have hmap : m[k]?.map f = m[k]? := by
      rw [← getElem?_modify_same, h]
    rw [hv, Option.map_some] at hmap
    exact Option.some.inj hmap
  · exact modify_eq_self

/-- A loop of `modify` over a list of keys, for a change that is done once:
it changes the listed keys and no other. -/
theorem getElem?_foldl_modify (f : ν → ν) (hf : ∀ v, f (f v) = f v) (ks : List κ) (a : κ) :
    (ks.foldl (fun m k => m.modify k f) m)[a]? = if a ∈ ks then m[a]?.map f else m[a]? := by
  induction ks generalizing m with
  | nil => simp
  | cons k ks ih =>
    rw [List.foldl_cons, ih, getElem?_modify]
    by_cases hk : k = a
    · subst hk
      rw [if_pos rfl, if_pos List.mem_cons_self]
      split
      · -- The key comes again, and the second pass does nothing new.
        rw [Option.map_map]
        congr 1
        funext v
        exact hf v
      · rfl
    · have hne : a ≠ k := fun he => hk he.symm
      simp only [if_neg hk, List.mem_cons, hne, false_or]

/-- Such a loop does nothing exactly when the change fixes every listed
value. -/
theorem foldl_modify_eq_self_iff (f : ν → ν) (hf : ∀ v, f (f v) = f v) (ks : List κ) :
    ks.foldl (fun m k => m.modify k f) m = m ↔
      ∀ k ∈ ks, ∀ v, m[k]? = some v → f v = v := by
  constructor
  · intro h k hk v hv
    have hmap := getElem?_foldl_modify (m := m) f hf ks k
    rw [h, if_pos hk, hv, Option.map_some] at hmap
    exact (Option.some.inj hmap).symm
  · intro h
    apply ExtTreeMap.ext_getElem?
    intro a
    rw [getElem?_foldl_modify f hf]
    by_cases ha : a ∈ ks
    · rw [if_pos ha]
      cases hv : m[a]? with
      | none => rfl
      | some v => rw [Option.map_some, h a ha v hv]
    · rw [if_neg ha]

/-! ## Entries -/

omit [DecidableEq κ] in
theorem mem_toList {k : κ} {v : ν} : (k, v) ∈ m.toList ↔ m[k]? = some v :=
  ExtTreeMap.mem_toList_iff_getElem?_eq_some

omit [DecidableEq κ] in
/-- Every key has one entry. -/
theorem key_ne_of_toList {before after : List (κ × ν)} {x : κ × ν}
    (h : m.toList = before ++ x :: after) :
    (∀ e ∈ before, e.1 ≠ x.1) ∧ ∀ e ∈ after, e.1 ≠ x.1 := by
  have hdistinct := m.distinct_keys_toList
  rw [h, List.pairwise_append, List.pairwise_cons] at hdistinct
  obtain ⟨_, ⟨hafter, _⟩, hbefore⟩ := hdistinct
  constructor
  · intro e he hkey
    exact hbefore e he x List.mem_cons_self (LawfulEqOrd.compare_eq_iff_eq.mpr hkey)
  · intro e he hkey
    exact hafter e he (LawfulEqOrd.compare_eq_iff_eq.mpr hkey.symm)

theorem getElem?_foldl_insert {l : List (κ × ν)} {a : κ} (h : ∀ e ∈ l, e.1 ≠ a) :
    (l.foldl (fun m e => m.insert e.1 e.2) m)[a]? = m[a]? := by
  induction l generalizing m with
  | nil => rfl
  | cons e l ih =>
    rw [List.foldl_cons, ih fun e' he' => h e' (List.mem_cons_of_mem e he'),
      getElem?_insert_of_ne (h e List.mem_cons_self)]

/-- A map is put together from its entries. -/
theorem foldl_insert_toList (m : ExtTreeMap κ ν) :
    m.toList.foldl (fun m e => m.insert e.1 e.2) ∅ = m := by
  apply ExtTreeMap.ext_getElem?
  intro a
  cases hv : m[a]? with
  | none =>
    rw [getElem?_foldl_insert]
    · exact ExtTreeMap.getElem?_empty
    · intro e he hkey
      subst hkey
      rw [mem_toList.mp he] at hv
      cases hv
  | some v =>
    obtain ⟨before, after, hsplit⟩ := List.append_of_mem (mem_toList.mpr hv)
    rw [hsplit, List.foldl_append, List.foldl_cons,
      getElem?_foldl_insert (key_ne_of_toList hsplit).2, getElem?_insert_same]

/-- An entry is new for the map of the entries before it. -/
theorem getElem?_foldl_insert_before {before after : List (κ × ν)} {x : κ × ν}
    (h : m.toList = before ++ x :: after) :
    (before.foldl (fun m e => m.insert e.1 e.2) (∅ : ExtTreeMap κ ν))[x.1]? = none := by
  rw [getElem?_foldl_insert (key_ne_of_toList h).1]
  exact ExtTreeMap.getElem?_empty

/-- The map of some entries with distinct keys has these entries. -/
theorem getElem?_foldl_insert_iff {l : List (κ × ν)} (h : l.Pairwise fun a b => a.1 ≠ b.1)
    {k : κ} {v : ν} :
    (l.foldl (fun m e => m.insert e.1 e.2) (∅ : ExtTreeMap κ ν))[k]? = some v ↔ (k, v) ∈ l := by
  have hentry : ∀ e ∈ l,
      (l.foldl (fun m e => m.insert e.1 e.2) (∅ : ExtTreeMap κ ν))[e.1]? = some e.2 := by
    intro e he
    obtain ⟨before, after, rfl⟩ := List.append_of_mem he
    rw [List.pairwise_append, List.pairwise_cons] at h
    rw [List.foldl_append, List.foldl_cons,
      getElem?_foldl_insert fun e' he' => (h.2.1.1 e' he').symm, getElem?_insert_same]
  constructor
  · intro hget
    by_cases hkey : ∃ e ∈ l, e.1 = k
    · obtain ⟨e, he, rfl⟩ := hkey
      rw [hentry e he] at hget
      obtain rfl := Option.some.inj hget
      exact he
    · rw [getElem?_foldl_insert fun e he hk => hkey ⟨e, he, hk⟩, ExtTreeMap.getElem?_empty] at hget
      cases hget
  · exact hentry (k, v)

/-- Entries in the order of their keys are the entries of their map, in that
order. -/
theorem toList_foldl_insert {l : List (κ × ν)}
    (h : l.Pairwise fun a b => compare a.1 b.1 = .lt) :
    (l.foldl (fun m e => m.insert e.1 e.2) (∅ : ExtTreeMap κ ν)).toList = l := by
  have hdistinct : l.Pairwise fun a b => a.1 ≠ b.1 := h.imp fun {a b} hlt heq => by
    rw [heq, ReflOrd.compare_self] at hlt
    cases hlt
  have hirrefl : Std.Irrefl fun a b : κ × ν => compare a.1 b.1 = .lt := ⟨fun a hlt => by
    rw [ReflOrd.compare_self] at hlt
    cases hlt⟩
  have hantisymm : Std.Antisymm fun a b : κ × ν => compare a.1 b.1 = .lt :=
    ⟨fun a b hlt hgt => absurd hgt (OrientedCmp.not_lt_of_lt hlt)⟩
  refine List.Pairwise.eq_of_mem_iff ExtTreeMap.ordered_keys_toList h ?_
  rintro ⟨k, v⟩
  rw [mem_toList]
  exact getElem?_foldl_insert_iff hdistinct

omit [LawfulEqOrd κ] [DecidableEq κ] in
theorem contains_eq_false {k : κ} (h : m[k]? = none) : m.contains k = false := by
  rw [ExtTreeMap.contains_eq_isSome_getElem?, h]
  rfl

omit [DecidableEq κ] in
theorem insertIfNew_eq_insert {k : κ} (h : m[k]? = none) (v : ν) :
    m.insertIfNew k v = m.insert k v := by
  have hnot : k ∉ m := by
    rw [ExtTreeMap.mem_iff_contains, contains_eq_false h]
    exact Bool.false_ne_true
  apply ExtTreeMap.ext_getElem?
  intro a
  rw [ExtTreeMap.getElem?_insertIfNew, ExtTreeMap.getElem?_insert]
  by_cases hcmp : compare k a = .eq
  · rw [if_pos ⟨hcmp, hnot⟩, if_pos hcmp]
  · rw [if_neg fun hc => hcmp hc.1, if_neg hcmp]

omit [DecidableEq κ] in
theorem insertIfNew_eq_self {k : κ} {v : ν} (h : m[k]? = some v) (v' : ν) :
    m.insertIfNew k v' = m := by
  have hmem : k ∈ m := by
    rw [ExtTreeMap.mem_iff_contains, ExtTreeMap.contains_eq_isSome_getElem?, h]
    rfl
  apply ExtTreeMap.ext_getElem?
  intro a
  rw [ExtTreeMap.getElem?_insertIfNew, if_neg fun hc => hc.2 hmem]

/-! ## Counting entries -/

omit [DecidableEq κ] in
theorem nodup_toList (m : ExtTreeMap κ ν) : m.toList.Nodup := by
  refine m.distinct_keys_toList.imp ?_
  rintro a b hne rfl
  exact hne ReflOrd.compare_self

/-- An insertion puts one entry in front of those with other keys. -/
theorem toList_insert_perm (m : ExtTreeMap κ ν) (k : κ) (v : ν) :
    (m.insert k v).toList.Perm ((k, v) :: m.toList.filter fun e => e.1 ≠ k) := by
  have hrest : ((k, v) :: m.toList.filter fun e => e.1 ≠ k).Nodup := by
    refine List.nodup_cons.mpr ⟨?_, (nodup_toList m).filter _⟩
    simp
  rw [List.perm_ext_iff_of_nodup (nodup_toList _) hrest]
  rintro ⟨a, x⟩
  rw [mem_toList, getElem?_insert, List.mem_cons, List.mem_filter, mem_toList, Prod.mk.injEq,
    decide_eq_true_iff]
  by_cases ha : k = a
  · subst ha
    rw [if_pos rfl, Option.some.injEq]
    simp [eq_comm]
  · rw [if_neg ha]
    have hne : a ≠ k := fun he => ha he.symm
    simp [hne]

/-- The number of entries that satisfy `p`, apart from the one of a key. -/
def countOthers (m : ExtTreeMap κ ν) (k : κ) (p : κ × ν → Bool) : Nat :=
  (m.toList.filter fun e => e.1 ≠ k).countP p

theorem countP_insert (m : ExtTreeMap κ ν) (k : κ) (v : ν) (p : κ × ν → Bool) :
    (m.insert k v).toList.countP p = countOthers m k p + if p (k, v) then 1 else 0 := by
  rw [(toList_insert_perm m k v).countP_eq, List.countP_cons, countOthers]

theorem countP_of_some {k : κ} {v : ν} (h : m[k]? = some v) (p : κ × ν → Bool) :
    m.toList.countP p = countOthers m k p + if p (k, v) then 1 else 0 := by
  have hsame : m.insert k v = m := by
    apply ExtTreeMap.ext_getElem?
    intro a
    rw [getElem?_insert]
    split
    · next he =>
      rw [← he, h]
    · rfl
  rw [← countP_insert, hsame]

theorem others_of_none {k : κ} (h : m[k]? = none) :
    (m.toList.filter fun e => e.1 ≠ k) = m.toList := by
  rw [List.filter_eq_self]
  rintro ⟨a, v⟩ hmem
  rw [decide_eq_true_iff]
  rintro rfl
  rw [mem_toList, h] at hmem
  cases hmem

theorem countP_of_none {k : κ} (h : m[k]? = none) (p : κ × ν → Bool) :
    m.toList.countP p = countOthers m k p := by
  rw [countOthers, others_of_none h]

end OrderedMap
