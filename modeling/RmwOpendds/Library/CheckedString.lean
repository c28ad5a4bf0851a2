import RmwOpendds.Library.StdString

/-! The operations on strings and sizes that are not defined for every argument, as
computations that stop at the first fault. Where they succeed, they agree with the
operations that go on with whatever value is there. -/

namespace RmwOpendds.Library

/-- `outOfRange` is thrown, `badIndex` is undefined, and `wrapped` is a difference of
sizes below zero. -/
inductive Fault where
  | outOfRange | badIndex | wrapped
  deriving DecidableEq, Repr

abbrev Checked := Except Fault

namespace Checked

/-- `a - b` on `size_t` -/
def sub (a b : ℕ) : Checked ℕ := if b ≤ a then pure (a - b) else throw .wrapped

section Strings

variable {α : Type}

/-- `s.at(i)` -/
def charAt (s : List α) (i : ℕ) : Checked α :=
  match s[i]? with
  | some c => pure c
  | none => throw .outOfRange

/-- `s[i]` of a character that exists -/
def index (s : List α) (i : ℕ) : Checked α :=
  match s[i]? with
  | some c => pure c
  | none => throw .badIndex

/-- `s.substr(pos, n)` -/
def substr (s : List α) (pos n : ℕ) : Checked (List α) :=
  if pos ≤ s.length then pure (StdString.substr s pos n) else throw .outOfRange

/-- `s.substr(pos)` -/
def substrFrom (s : List α) (pos : ℕ) : Checked (List α) :=
  if pos ≤ s.length then pure (s.drop pos) else throw .outOfRange

theorem charAt_eq {s : List α} {i : ℕ} {c : α} (there : s[i]? = some c) :
    charAt s i = pure c := by
  rw [charAt, there]

theorem index_eq {s : List α} {i : ℕ} {c : α} (there : s[i]? = some c) :
    index s i = pure c := by
  rw [index, there]

theorem substr_eq {s : List α} {pos : ℕ} (inside : pos ≤ s.length) (n : ℕ) :
    substr s pos n = pure (StdString.substr s pos n) := if_pos inside

theorem substrFrom_eq {s : List α} {pos : ℕ} (inside : pos ≤ s.length) :
    substrFrom s pos = pure (s.drop pos) := if_pos inside

end Strings

theorem sub_eq {a b : ℕ} (le : b ≤ a) : sub a b = pure (StdString.sizeSub a b) := by
  rw [sub, if_pos le, StdString.sizeSub_of_le le]

theorem sub_eq_wrapped {a b : ℕ} (lt : a < b) : sub a b = throw .wrapped :=
  if_neg (not_le.mpr lt)

end Checked
end RmwOpendds.Library
