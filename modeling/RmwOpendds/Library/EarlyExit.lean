import Mathlib.Data.List.TakeWhile

/-! A loop that rewrites an array in place and returns at the first entry it fails
on: the entries before that one are rewritten, that one and those after it are
left as they were. -/

namespace RmwOpendds.Library

variable {α : Type*} (fails : α → Prop) [DecidablePred fails]

def passed (entries : List α) : List α := entries.takeWhile fun x => ¬ fails x

def rewriteUntil (rewrite : α → α) : List α → List α
  | [] => []
  | x :: xs => if fails x then x :: xs else rewrite x :: rewriteUntil rewrite xs

variable {fails}

theorem passed_cons_of_fails {x : α} (h : fails x) (xs : List α) : passed fails (x :: xs) = [] :=
  List.takeWhile_cons_of_neg (by simpa using h)

theorem passed_cons_of_not_fails {x : α} (h : ¬ fails x) (xs : List α) :
    passed fails (x :: xs) = x :: passed fails xs :=
  List.takeWhile_cons_of_pos (by simpa using h)

theorem not_fails_of_mem_passed {x : α} {entries : List α} (h : x ∈ passed fails entries) :
    ¬ fails x := by
  simpa using List.mem_takeWhile_imp h

theorem passed_eq_self {entries : List α} (fine : ∀ x ∈ entries, ¬ fails x) :
    passed fails entries = entries :=
  List.takeWhile_eq_self_iff.mpr fun x member => by simpa using fine x member

theorem rewriteUntil_of_forall {rewrite : α → α} {entries : List α}
    (fine : ∀ x ∈ entries, ¬ fails x) :
    rewriteUntil fails rewrite entries = entries.map rewrite := by
  induction entries with
  | nil => rfl
  | cons x xs ih =>
    rw [rewriteUntil, if_neg (fine x List.mem_cons_self),
      ih fun y member => fine y (List.mem_cons_of_mem _ member), List.map_cons]

theorem map_rewriteUntil_of_forall {rewrite : α → α} {array : Option (List α)}
    (fine : ∀ x ∈ array.getD [], ¬ fails x) :
    array.map (rewriteUntil fails rewrite) = array.map (·.map rewrite) := by
  cases array with
  | none => rfl
  | some entries => exact congrArg some (rewriteUntil_of_forall fine)

theorem rewriteUntil_eq_self_iff {rewrite : α → α} {entries : List α} :
    rewriteUntil fails rewrite entries = entries ↔ ∀ x ∈ passed fails entries, rewrite x = x := by
  induction entries with
  | nil => simp [rewriteUntil, passed]
  | cons x xs ih =>
    by_cases h : fails x
    · simp [rewriteUntil, passed_cons_of_fails h, h]
    · simp [rewriteUntil, passed_cons_of_not_fails h, h, ih]

theorem map_rewriteUntil_eq_self_iff {rewrite : α → α} {array : Option (List α)} :
    array.map (rewriteUntil fails rewrite) = array ↔
      ∀ x ∈ passed fails (array.getD []), rewrite x = x := by
  cases array with
  | none => simp [passed]
  | some entries =>
    rw [Option.map_some, Option.some_inj, rewriteUntil_eq_self_iff, Option.getD_some]

end RmwOpendds.Library
