import Mathlib.Data.List.Basic

/-! A search through a list that ends at the first element with an answer, under
permutations of the list. -/

namespace RmwOpendds.Library

variable {α β : Type*} {f : α → Option β} {l l' : List α}

theorem findSome?_perm (perm : l.Perm l')
    (agree : ∀ a ∈ l, ∀ b ∈ l, ∀ x y, f a = some x → f b = some y → x = y) :
    l'.findSome? f = l.findSome? f := by
  cases found : l.findSome? f with
  | none =>
    rw [List.findSome?_eq_none_iff] at found ⊢
    exact fun a member => found a (perm.mem_iff.mpr member)
  | some x =>
    obtain ⟨a, member, answer⟩ := List.exists_of_findSome?_eq_some found
    have some_answer : (l'.findSome? f).isSome :=
      List.findSome?_isSome_iff.mpr ⟨a, perm.mem_iff.mp member, answer ▸ rfl⟩
    obtain ⟨y, found'⟩ := Option.isSome_iff_exists.mp some_answer
    obtain ⟨b, member', answer'⟩ := List.exists_of_findSome?_eq_some found'
    rw [found', agree a member b (perm.mem_iff.mpr member') x y answer answer']

theorem exists_perm_findSome? {a : α} {x : β} (member : a ∈ l) (answer : f a = some x) :
    ∃ l', l.Perm l' ∧ l'.findSome? f = some x := by
  obtain ⟨front, rest, rfl⟩ := List.append_of_mem member
  exact ⟨a :: (front ++ rest), List.perm_middle, by rw [List.findSome?_cons, answer]⟩

end RmwOpendds.Library
