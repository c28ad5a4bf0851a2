import Mathlib

/-! Ordered maps whose values are sets, read as finite relations, and the list
of entries of an ordered map. `insertAt` is `map[key].insert(value)`: it creates
the set of a key that is not there yet. -/

namespace RmwOpendds.Library

open Std

/-- The comparison of a linear order is transitive; the instance keeps this proof
out of the definitions on maps. -/
instance transOrdOfLinearOrder {α : Type*} [LinearOrder α] : TransOrd α := inferInstance

abbrev SetMap (κ ν : Type*) [Ord κ] [Ord ν] := ExtTreeMap κ (ExtTreeSet ν)

namespace SetMap

variable {κ ν : Type*} [Ord κ] [TransOrd κ] [Ord ν] [TransOrd ν]

def setAt (m : SetMap κ ν) (k : κ) : ExtTreeSet ν := ExtTreeMap.getD m k ∅

def insertAt (m : SetMap κ ν) (k : κ) (v : ν) : SetMap κ ν :=
  ExtTreeMap.insert m k ((setAt m k).insert v)

/-- `map[key].insert(s.begin(), s.end())` -/
def insertAll (m : SetMap κ ν) (k : κ) (s : ExtTreeSet ν) : SetMap κ ν :=
  ExtTreeMap.insert m k (setAt m k ∪ s)

def Holds (m : SetMap κ ν) (k : κ) (v : ν) : Prop := ∃ s : ExtTreeSet ν, m[k]? = some s ∧ v ∈ s

def NoEmpty (m : SetMap κ ν) : Prop := ∀ (k : κ) (s : ExtTreeSet ν), m[k]? = some s → s ≠ ∅

omit [TransOrd ν] in
theorem setAt_eq (m : SetMap κ ν) (k : κ) : setAt m k = m[k]?.getD ∅ :=
  ExtTreeMap.getD_eq_getD_getElem?

theorem mem_setAt {m : SetMap κ ν} {k : κ} {v : ν} : v ∈ setAt m k ↔ Holds m k v := by
  rw [setAt_eq, Holds]
  cases m[k]? <;> simp

@[simp] theorem not_holds_empty (k : κ) (v : ν) : ¬ Holds (∅ : SetMap κ ν) k v := by
  simp [Holds]

omit [TransOrd ν] in
theorem noEmpty_empty : NoEmpty (∅ : SetMap κ ν) := by simp [NoEmpty]

variable [LawfulEqOrd κ] [LawfulEqOrd ν] [DecidableEq κ]

omit [LawfulEqOrd ν] in
theorem getElem?_insertAt (m : SetMap κ ν) (k k' : κ) (v : ν) :
    (insertAt m k v)[k']? = if k = k' then some ((setAt m k).insert v) else m[k']? := by
  simp [insertAt, ExtTreeMap.getElem?_insert, LawfulEqCmp.compare_eq_iff_eq]

omit [LawfulEqOrd ν] in
theorem setAt_insertAt (m : SetMap κ ν) (k k' : κ) (v : ν) :
    setAt (insertAt m k v) k' = if k = k' then (setAt m k).insert v else setAt m k' := by
  rw [setAt_eq, getElem?_insertAt]
  split
  · rfl
  · exact (setAt_eq m k').symm

omit [LawfulEqOrd ν] [DecidableEq κ] in
theorem mem_insertAt {m : SetMap κ ν} {k k' : κ} {v : ν} :
    k' ∈ insertAt m k v ↔ k = k' ∨ k' ∈ m := by
  simp [insertAt, ExtTreeMap.mem_insert, LawfulEqCmp.compare_eq_iff_eq]

theorem holds_insertAt {m : SetMap κ ν} {k k' : κ} {v v' : ν} :
    Holds (insertAt m k v) k' v' ↔ (k = k' ∧ v = v') ∨ Holds m k' v' := by
  rw [← mem_setAt, setAt_insertAt, ← mem_setAt]
  by_cases h : k = k'
  · subst h
    simp [ExtTreeSet.mem_insert, LawfulEqCmp.compare_eq_iff_eq]
  · simp [h]

omit [LawfulEqOrd ν] in
theorem noEmpty_insertAt {m : SetMap κ ν} (h : NoEmpty m) (k : κ) (v : ν) :
    NoEmpty (insertAt m k v) := by
  intro k' s hs
  rw [getElem?_insertAt] at hs
  split at hs
  · rintro rfl
    have hv : v ∈ (setAt m k).insert v := ExtTreeSet.mem_insert_self
    rw [Option.some.inj hs] at hv
    exact ExtTreeSet.not_mem_empty hv
  · exact h k' s hs

omit [LawfulEqOrd ν] in
theorem holds_insertAll {m : SetMap κ ν} {k k' : κ} {s : ExtTreeSet ν} {v : ν} :
    Holds (insertAll m k s) k' v ↔ (k = k' ∧ v ∈ s) ∨ Holds m k' v := by
  rw [← mem_setAt, setAt_eq, insertAll, ExtTreeMap.getElem?_insert, ← mem_setAt]
  by_cases h : k = k'
  · subst h
    simp [ExtTreeSet.mem_union_iff, or_comm]
  · simp [h, LawfulEqCmp.compare_eq_iff_eq, setAt_eq]

omit [LawfulEqOrd κ] [DecidableEq κ] in
theorem noEmpty_insertAll {m : SetMap κ ν} (h : NoEmpty m) (k : κ) {s : ExtTreeSet ν}
    (ne : s ≠ ∅) : NoEmpty (insertAll m k s) := by
  intro k' s' hs
  rw [insertAll, ExtTreeMap.getElem?_insert] at hs
  split at hs
  · rintro rfl
    refine ne (ExtTreeSet.ext_mem fun v => ?_)
    have none : v ∉ setAt m k ∪ s := by
      rw [Option.some.inj hs]
      exact ExtTreeSet.not_mem_empty
    rw [ExtTreeSet.mem_union_iff, not_or] at none
    exact iff_of_false none.2 ExtTreeSet.not_mem_empty
  · exact h k' s' hs

omit [LawfulEqOrd κ] [DecidableEq κ] in
theorem NoEmpty.exists_mem {m : SetMap κ ν} (h : NoEmpty m) {k : κ} {s : ExtTreeSet ν}
    (slot : m[k]? = some s) : ∃ v, v ∈ s := by
  by_contra none
  refine h k s slot (ExtTreeSet.ext_mem fun v => ?_)
  exact iff_of_false (not_exists.mp none v) ExtTreeSet.not_mem_empty

omit [DecidableEq κ] in
/-- Without empty sets, a map of sets is the relation it holds. -/
theorem ext_holds {m m' : SetMap κ ν} (h : NoEmpty m) (h' : NoEmpty m')
    (same : ∀ k v, Holds m k v ↔ Holds m' k v) : m = m' := by
  have sets : ∀ k, setAt m k = setAt m' k := fun k =>
    ExtTreeSet.ext_mem fun v => by rw [mem_setAt, mem_setAt, same]
  apply ExtTreeMap.ext_getElem?
  intro k
  have hk := sets k
  rw [setAt_eq, setAt_eq] at hk
  cases hm : m[k]? with
  | none =>
    cases hm' : m'[k]? with
    | none => rfl
    | some s' =>
      rw [hm, hm'] at hk
      exact absurd hk.symm (h' k s' hm')
  | some s =>
    cases hm' : m'[k]? with
    | none =>
      rw [hm, hm'] at hk
      exact absurd hk (h k s hm)
    | some s' =>
      rw [hm, hm'] at hk
      exact congrArg some hk

theorem insertAt_comm (m : SetMap κ ν) (k k' : κ) (v v' : ν) :
    insertAt (insertAt m k v) k' v' = insertAt (insertAt m k' v') k v := by
  apply ExtTreeMap.ext_getElem?
  intro j
  simp only [getElem?_insertAt, setAt_insertAt]
  by_cases hk : k = k'
  · subst hk
    by_cases hj : k = j
    · simp only [hj, if_true, Option.some.injEq]
      exact ExtTreeSet.ext_mem fun x => by simp only [ExtTreeSet.mem_insert]; tauto
    · simp [hj]
  · by_cases hj : k = j
    · subst hj
      simp [Ne.symm hk]
    · simp [hj, hk]

end SetMap

namespace OrderedMap

variable {κ ν : Type*} [Ord κ] [TransOrd κ]

theorem nodup_toList (m : ExtTreeMap κ ν) : m.toList.Nodup := by
  have keys : (m.toList.map Prod.fst).Nodup := by
    rw [ExtTreeMap.map_fst_toList_eq_keys]
    exact ExtTreeMap.nodup_keys
  exact keys.of_map

theorem nodup_toList_set {ν : Type*} [Ord ν] [TransOrd ν] (s : ExtTreeSet ν) : s.toList.Nodup :=
  ExtTreeSet.distinct_toList.imp fun differ same => differ (by rw [same, ReflOrd.compare_self])

theorem countP_toList_congr [LawfulEqOrd κ] {m m' : ExtTreeMap κ ν} {p : κ × ν → Bool}
    (same : ∀ k v, p (k, v) = true → (m[k]? = some v ↔ m'[k]? = some v)) :
    m.toList.countP p = m'.toList.countP p := by
  rw [List.countP_eq_length_filter, List.countP_eq_length_filter]
  refine List.Perm.length_eq ?_
  rw [List.perm_ext_iff_of_nodup ((nodup_toList m).filter p) ((nodup_toList m').filter p)]
  rintro ⟨k, v⟩
  simp only [List.mem_filter, ExtTreeMap.mem_toList_iff_getElem?_eq_some]
  exact and_congr_left (same k v)

structure Lists [LawfulEqOrd κ] (m : ExtTreeMap κ ν) (l : List (κ × ν)) : Prop where
  nodup : (l.map Prod.fst).Nodup
  mem_iff : ∀ k v, m[k]? = some v ↔ (k, v) ∈ l

namespace Lists

variable [LawfulEqOrd κ] {m m' : ExtTreeMap κ ν} {l l' : List (κ × ν)} {k : κ} {v : ν}

theorem toList_perm (lists : Lists m l) : m.toList.Perm l := by
  rw [List.perm_ext_iff_of_nodup (nodup_toList m) lists.nodup.of_map]
  rintro ⟨k, v⟩
  rw [ExtTreeMap.mem_toList_iff_getElem?_eq_some, lists.mem_iff]

theorem perm (lists : Lists m l) (same : l.Perm l') : Lists m l' where
  nodup := (same.map Prod.fst).nodup_iff.mp lists.nodup
  mem_iff := fun k v => (lists.mem_iff k v).trans same.mem_iff

theorem empty : Lists (∅ : ExtTreeMap κ ν) [] := ⟨List.nodup_nil, by simp⟩

theorem getElem?_eq_none (lists : Lists m l) (fresh : k ∉ l.map Prod.fst) : m[k]? = none := by
  cases lookup : m[k]? with
  | none => rfl
  | some v =>
    have member := (lists.mem_iff k v).mp lookup
    exact absurd (List.mem_map.mpr ⟨_, member, rfl⟩) fresh

variable [DecidableEq κ]

theorem cons (lists : Lists m l) (fresh : k ∉ l.map Prod.fst)
    (added : ∀ k', m'[k']? = if k = k' then some v else m[k']?) : Lists m' ((k, v) :: l) where
  nodup := List.nodup_cons.mpr ⟨fresh, lists.nodup⟩
  mem_iff := fun k' v' => by
    rw [added]
    split
    · rename_i same
      subst same
      have absent : (k, v') ∉ l := fun member => fresh (List.mem_map.mpr ⟨_, member, rfl⟩)
      simp [absent, eq_comm]
    · rename_i other
      have apart : (k', v') ≠ (k, v) := fun same => other (congrArg Prod.fst same).symm
      simp [lists.mem_iff, apart]

theorem tail (lists : Lists m ((k, v) :: l))
    (erased : ∀ k', m'[k']? = if k = k' then none else m[k']?) : Lists m' l where
  nodup := (List.nodup_cons.mp lists.nodup).2
  mem_iff := fun k' v' => by
    rw [erased]
    split
    · rename_i same
      subst same
      have absent : (k, v') ∉ l := fun member =>
        (List.nodup_cons.mp lists.nodup).1 (List.mem_map.mpr ⟨_, member, rfl⟩)
      simp [absent]
    · rename_i other
      have apart : (k', v') ≠ (k, v) := fun same => other (congrArg Prod.fst same).symm
      simp [lists.mem_iff, apart]

end Lists

theorem getD_insertIfNew [LawfulEqOrd κ] [DecidableEq κ] (m : ExtTreeMap κ ν) (k k' : κ)
    (v v' : ν) : (m.insertIfNew k v).getD k' v' = if k = k' then m.getD k v else m.getD k' v' := by
  rw [ExtTreeMap.getD_insertIfNew]
  by_cases same : k = k'
  · subst same
    by_cases member : k ∈ m
    · rw [ExtTreeMap.mem_iff_isSome_getElem?, Option.isSome_iff_exists] at member
      obtain ⟨found, lookup⟩ := member
      simp [ExtTreeMap.getD_eq_getD_getElem?, lookup, ExtTreeMap.mem_iff_isSome_getElem?]
    · simp [member, ExtTreeMap.getD_eq_fallback member]
  · simp [same, LawfulEqCmp.compare_eq_iff_eq]

end OrderedMap

/-- A loop whose passes leave a fact alone or bring it about ends with the fact if
it began with it or some pass brings it about. -/
theorem foldl_adds {σ α : Type*} (P : σ → Prop) (adds : α → Prop) {step : σ → α → σ}
    (law : ∀ s x, P (step s x) ↔ adds x ∨ P s) (xs : List α) (s : σ) :
    P (xs.foldl step s) ↔ (∃ x ∈ xs, adds x) ∨ P s := by
  induction xs generalizing s with
  | nil => simp
  | cons x xs ih => rw [List.foldl_cons, ih, law, List.exists_mem_cons_iff, or_left_comm, or_assoc]

end RmwOpendds.Library
