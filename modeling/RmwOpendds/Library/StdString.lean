import Mathlib

/-! `std::string` searching, on lists. A missing occurrence (`npos`) is `none`.
`rfind` reports the last occurrence, `find` the first one, as positions. -/

namespace RmwOpendds.Library

abbrev StdString := List Char

namespace StdString

variable {α : Type*} [DecidableEq α]

def find (sub : List α) : List α → Option Nat
  | [] => if sub = [] then some 0 else none
  | c :: s => if sub.isPrefixOf (c :: s) then some 0 else (find sub s).map (· + 1)

def rfind (sub : List α) : List α → Option Nat
  | [] => if sub = [] then some 0 else none
  | c :: s =>
    match rfind sub s with
    | some i => some (i + 1)
    | none => if sub.isPrefixOf (c :: s) then some 0 else none

/-- `s.substr(pos, n)` for `pos` within `s` -/
def substr (s : List α) (pos n : Nat) : List α := (s.drop pos).take n

/-- `a - b` on `size_t`, which wraps below zero -/
def sizeSub (a b : Nat) : Nat := if b ≤ a then a - b else a + 2 ^ 64 - b

theorem sizeSub_of_le {a b : Nat} (h : b ≤ a) : sizeSub a b = a - b := if_pos h

@[simp] theorem sizeSub_add_right (n k : Nat) : sizeSub (n + k) k = n := by
  rw [sizeSub_of_le (Nat.le_add_left k n), Nat.add_sub_cancel]

@[simp] theorem sizeSub_add_left (k n : Nat) : sizeSub (k + n) k = n := by
  rw [Nat.add_comm, sizeSub_add_right]

omit [DecidableEq α] in
theorem substr_left (s t : List α) : substr (s ++ t) 0 s.length = s := by
  rw [substr, List.drop_zero, List.take_left]

omit [DecidableEq α] in
theorem substr_between (s t u : List α) : substr (s ++ t ++ u) s.length t.length = t := by
  rw [substr, List.append_assoc, List.drop_left, List.take_left]

theorem rfind_isSome {sub s : List α} : (rfind sub s).isSome ↔ sub <:+: s := by
  induction s with
  | nil => by_cases h : sub = [] <;> simp [rfind, h]
  | cons c s ih =>
    rw [rfind, List.infix_cons_iff, ← ih]
    cases rfind sub s with
    | some i => simp
    | none => by_cases h : sub <+: c :: s <;> simp [h]

theorem rfind_eq_none {sub s : List α} : rfind sub s = none ↔ ¬ sub <:+: s := by
  rw [← rfind_isSome, Option.not_isSome_iff_eq_none]

theorem rfind_append_self {sub : List α} (ne : sub ≠ []) (s : List α) :
    rfind sub (s ++ sub) = some s.length := by
  induction s with
  | nil =>
    cases sub with
    | nil => exact absurd rfl ne
    | cons c sub =>
      have short : rfind (c :: sub) sub = none := by
        rw [rfind_eq_none]
        intro h
        exact absurd h.length_le (by simp)
      simp [rfind, short]
  | cons c s ih => rw [List.cons_append, rfind, ih, List.length_cons]

theorem find_append_le (pre sub post : List α) :
    ∃ i ≤ pre.length, find sub (pre ++ sub ++ post) = some i := by
  induction pre with
  | nil =>
    refine ⟨0, le_rfl, ?_⟩
    cases h : sub ++ post with
    | nil => simp_all [find]
    | cons c s =>
      have hp : sub <+: c :: s := h ▸ List.prefix_append sub post
      simp [find, h, hp]
  | cons c pre ih =>
    obtain ⟨i, hi, hfind⟩ := ih
    by_cases hp : sub <+: c :: (pre ++ sub ++ post)
    · refine ⟨0, Nat.zero_le _, ?_⟩
      simp only [List.cons_append, find, List.isPrefixOf_iff_prefix.mpr hp, if_true]
    · refine ⟨i + 1, Nat.succ_le_succ hi, ?_⟩
      have hb : sub.isPrefixOf (c :: (pre ++ sub ++ post)) = false := by
        rw [← Bool.not_eq_true, List.isPrefixOf_iff_prefix]
        exact hp
      simp only [List.cons_append, find, hb, Bool.false_eq_true, if_false, hfind,
        Option.map_some]

theorem find_eq_none {sub s : List α} (absent : ¬ sub <:+: s) : find sub s = none := by
  induction s with
  | nil => simpa [find] using absent
  | cons c s ih =>
    rw [List.infix_cons_iff, not_or] at absent
    simp [find, absent.1, ih absent.2]

theorem find_isSome {sub s : List α} : (find sub s).isSome ↔ sub <:+: s := by
  constructor
  · intro found
    by_contra absent
    rw [find_eq_none absent] at found
    cases found
  · rintro ⟨pre, post, rfl⟩
    obtain ⟨i, -, found⟩ := find_append_le pre sub post
    rw [found, Option.isSome_some]

theorem append_of_find {sub s : List α} {i : ℕ} (found : find sub s = some i) :
    ∃ pre rest, s = pre ++ sub ++ rest ∧ pre.length = i := by
  induction s generalizing i with
  | nil =>
    obtain ⟨rfl, rfl⟩ : sub = [] ∧ 0 = i := by simpa [find] using found
    exact ⟨[], [], rfl, rfl⟩
  | cons c s ih =>
    rw [find] at found
    split at found
    · rename_i here
      obtain ⟨rest, whole⟩ := List.isPrefixOf_iff_prefix.mp here
      exact ⟨[], rest, whole.symm, Option.some.inj found⟩
    · obtain ⟨j, later, rfl⟩ := Option.map_eq_some_iff.mp found
      obtain ⟨pre, rest, rfl, rfl⟩ := ih later
      exact ⟨c :: pre, rest, rfl, rfl⟩

theorem find_append_of_fresh {c : α} {pre : List α} (fresh : c ∉ pre) (sub post : List α) :
    find (c :: sub) (pre ++ c :: sub ++ post) = some pre.length := by
  induction pre with
  | nil => simp [find]
  | cons d pre ih =>
    rw [List.mem_cons, not_or] at fresh
    have later := ih fresh.2
    simp only [List.cons_append, List.append_assoc] at later ⊢
    simp [find, fresh.1, later]

theorem prefix_drop_of_rfind {sub s : List α} {i : ℕ} (found : rfind sub s = some i) :
    i ≤ s.length ∧ sub <+: s.drop i := by
  induction s generalizing i with
  | nil =>
    obtain ⟨rfl, rfl⟩ : sub = [] ∧ 0 = i := by simpa [rfind] using found
    simp
  | cons c s ih =>
    rw [rfind] at found
    cases later : rfind sub s with
    | some j =>
      rw [later] at found
      obtain rfl : j + 1 = i := Option.some.inj found
      obtain ⟨le, occurs⟩ := ih later
      exact ⟨Nat.succ_le_succ le, occurs⟩
    | none =>
      rw [later] at found
      obtain ⟨here, rfl⟩ : sub <+: c :: s ∧ 0 = i := by simpa using found
      exact ⟨Nat.zero_le _, here⟩

theorem append_of_rfind {sub s : List α} {i : ℕ} (found : rfind sub s = some i) :
    ∃ stem rest, s = stem ++ sub ++ rest ∧ stem.length = i := by
  obtain ⟨le, rest, occurs⟩ := prefix_drop_of_rfind found
  refine ⟨s.take i, rest, ?_, List.length_take_of_le le⟩
  rw [List.append_assoc, occurs, List.take_append_drop]

theorem rfind_append_of_some {sub t : List α} {k : ℕ} (found : rfind sub t = some k)
    (s : List α) : rfind sub (s ++ t) = some (s.length + k) := by
  induction s with
  | nil => rw [List.nil_append, found, List.length_nil, Nat.zero_add]
  | cons c s ih =>
    rw [List.cons_append, rfind, ih, List.length_cons, Nat.add_right_comm]

theorem le_rfind_iff {sub s t : List α} {i : ℕ} (found : rfind sub (s ++ t) = some i) :
    s.length ≤ i ↔ sub <:+: t := by
  constructor
  · intro behind
    obtain ⟨stem, rest, whole, rfl⟩ := append_of_rfind found
    rw [List.append_assoc] at whole
    obtain ⟨mid, rfl, rfl⟩ | ⟨mid, rfl, cut⟩ := List.append_eq_append_iff.mp whole
    · exact ⟨mid, rest, List.append_assoc _ _ _⟩
    · obtain rfl : mid = [] := by
        simpa [List.length_append] using behind
      exact ⟨[], rest, cut⟩
  · intro occurs
    obtain ⟨k, later⟩ := Option.isSome_iff_exists.mp (rfind_isSome.mpr occurs)
    rw [rfind_append_of_some later] at found
    obtain rfl := Option.some.inj found
    exact Nat.le_add_right _ _

theorem suffix_of_rfind {sub s : List α} {i : ℕ} (found : rfind sub s = some i)
    (ending : sizeSub (sizeSub s.length i) sub.length = 0) : sub <:+ s := by
  obtain ⟨le, occurs⟩ := prefix_drop_of_rfind found
  have fits := occurs.length_le
  rw [List.length_drop] at fits
  rw [sizeSub_of_le le, sizeSub_of_le fits] at ending
  have whole : sub = s.drop i := occurs.eq_of_length (by rw [List.length_drop]; omega)
  rw [whole]
  exact List.drop_suffix i s

omit [DecidableEq α] in
/-- A string that cannot straddle the seam of `s ++ t` occurs in one of the two. -/
theorem infix_append_of_no_straddle {sub s t : List α}
    (seam : ∀ k, 0 < k → k < sub.length → ¬ (sub.take k <:+ s ∧ sub.drop k <+: t)) :
    sub <:+: s ++ t ↔ sub <:+: s ∨ sub <:+: t := by
  constructor
  · rw [List.infix_append_iff_ne_nil]
    rintro (h | h | ⟨u, v, hu, hv, rfl, hs, ht⟩)
    · exact .inl h
    · exact .inr h
    · refine absurd ?_ (seam u.length (List.length_pos_iff.mpr hu) ?_)
      · simpa using ⟨hs, ht⟩
      · have := List.length_pos_iff.mpr hv
        simp only [List.length_append]
        omega
  · rintro (h | h)
    · exact List.infix_append_of_infix_left h
    · exact List.infix_append_of_infix_right h

omit [DecidableEq α] in
/-- A string that shares no part with either end occurs in the middle or nowhere. -/
theorem infix_between {sub left right : List α}
    (hleft : ¬ sub <:+: left ∧ ∀ k < sub.length, 0 < k → ¬ sub.take k <:+ left)
    (hright : ¬ sub <:+: right ∧ ∀ k < sub.length, 0 < k → ¬ sub.drop k <+: right)
    (middle : List α) : sub <:+: left ++ middle ++ right ↔ sub <:+: middle := by
  have seam : sub <:+: left ++ middle ↔ sub <:+: left ∨ sub <:+: middle :=
    infix_append_of_no_straddle fun k pos lt h => hleft.2 k lt pos h.1
  have seam' : sub <:+: left ++ middle ++ right ↔ sub <:+: left ++ middle ∨ sub <:+: right :=
    infix_append_of_no_straddle fun k pos lt h => hright.2 k lt pos h.2
  rw [seam', seam, or_iff_left hright.1, or_iff_right hleft.1]

omit [DecidableEq α] in
theorem infix_append_of_fresh_last {init t : List α} {c : α} (fresh : c ∉ t) (s : List α) :
    init ++ [c] <:+: s ++ t ↔ init ++ [c] <:+: s := by
  have absent : ∀ tail, tail ++ [c] <:+: t → False := fun tail occurs =>
    fresh (occurs.subset (List.mem_append_right tail (List.mem_singleton_self c)))
  rw [infix_append_of_no_straddle, or_iff_left (absent init)]
  rintro k - short ⟨-, front⟩
  rw [List.length_append, List.length_singleton] at short
  rw [List.drop_append_of_le_length (by omega)] at front
  exact absent _ front.isInfix

omit [DecidableEq α] in
/-- Two texts are cut alike at the first occurrence of a character. -/
theorem append_cons_inj_of_fresh {c : α} {s s' t t' : List α} (fresh : c ∉ s) (fresh' : c ∉ s')
    (same : s ++ c :: t = s' ++ c :: t') : s = s' ∧ t = t' := by
  rcases List.append_eq_append_iff.mp same with ⟨mid, rfl, rest⟩ | ⟨mid, rfl, rest⟩
  · cases mid with
    | nil => exact ⟨(List.append_nil s).symm, (List.cons.inj rest).2⟩
    | cons d mid =>
      obtain ⟨rfl, -⟩ := List.cons.inj rest
      exact absurd (List.mem_append_right s List.mem_cons_self) fresh'
  · cases mid with
    | nil => exact ⟨List.append_nil s', (List.cons.inj rest).2.symm⟩
    | cons d mid =>
      obtain ⟨rfl, -⟩ := List.cons.inj rest
      exact absurd (List.mem_append_right s' List.mem_cons_self) fresh

end StdString
end RmwOpendds.Library
