import Mathlib.Data.List.Basic

/-! Two words with a separator between them. Where no part at the end of the separator is
also at its front, two ways to cut a text differ by a whole separator. -/

namespace RmwOpendds.Library.Separator

variable {α : Type*} {sep a b a' b' : List α}

def Unbordered (sep : List α) : Prop := ∀ k < sep.length, 0 < k → ¬ sep.drop k <+: sep

theorem extends_of_length_lt (unbordered : Unbordered sep)
    (same : a ++ sep ++ b = a' ++ sep ++ b') (shorter : a.length < a'.length) :
    ∃ w, a' = a ++ sep ++ w ∧ b = w ++ sep ++ b' := by
  rw [List.append_assoc, List.append_assoc] at same
  obtain ⟨mid, rfl, rest⟩ | ⟨mid, rfl, -⟩ := List.append_eq_append_iff.mp same
  · obtain ⟨w, rfl, tail⟩ | ⟨excess, split, tail⟩ := List.append_eq_append_iff.mp rest
    · exact ⟨w, (List.append_assoc _ _ _).symm, by rw [tail, List.append_assoc]⟩
    · cases excess with
      | nil =>
        rw [List.append_nil] at split
        exact ⟨[], by rw [List.append_nil, split], by simpa using tail.symm⟩
      | cons c excess =>
        have front : c :: excess <+: sep := by
          refine List.prefix_of_prefix_length_le ⟨b, tail.symm⟩ (List.prefix_append sep b') ?_
          rw [split, List.length_append]
          exact Nat.le_add_left _ _
        have part : sep.drop mid.length = c :: excess := by
          conv_lhs => rw [split]
          exact List.drop_left
        rw [List.length_append] at shorter
        have inside : mid.length < sep.length := by
          rw [split, List.length_append, List.length_cons]
          omega
        exact absurd (part ▸ front) (unbordered mid.length inside (by omega))
  · rw [List.length_append] at shorter
    omega

theorem join_eq_iff (unbordered : Unbordered sep) :
    a ++ sep ++ b = a' ++ sep ++ b' ↔ (a = a' ∧ b = b') ∨
      (∃ w, a' = a ++ sep ++ w ∧ b = w ++ sep ++ b') ∨
      ∃ w, a = a' ++ sep ++ w ∧ b' = w ++ sep ++ b := by
  constructor
  · intro same
    obtain shorter | equal | longer := Nat.lt_trichotomy a.length a'.length
    · exact .inr (.inl (extends_of_length_lt unbordered same shorter))
    · rw [List.append_assoc, List.append_assoc] at same
      obtain ⟨rfl, rest⟩ := List.append_inj same equal
      exact .inl ⟨rfl, List.append_cancel_left rest⟩
    · exact .inr (.inr (extends_of_length_lt unbordered same.symm longer))
  · rintro (⟨rfl, rfl⟩ | ⟨w, rfl, rfl⟩ | ⟨w, rfl, rfl⟩)
    · rfl
    · simp only [List.append_assoc]
    · simp only [List.append_assoc]

theorem infix_tail (nonempty : a ≠ []) (w : List α) : sep <:+: (a ++ sep ++ w).tail := by
  obtain ⟨c, front, rfl⟩ := List.exists_cons_of_ne_nil nonempty
  exact ⟨front, w, rfl⟩

theorem infix_dropLast (nonempty : b ≠ []) (w : List α) : sep <:+: (w ++ sep ++ b).dropLast := by
  rw [List.dropLast_append_of_ne_nil nonempty]
  exact ⟨w, b.dropLast, rfl⟩

theorem join_unique (unbordered : Unbordered sep) (first : ¬ sep <:+: a.tail)
    (second : ¬ sep <:+: b.dropLast) (nonempty : a' ≠ []) (nonempty' : b' ≠ [])
    (same : a' ++ sep ++ b' = a ++ sep ++ b) : a' = a ∧ b' = b := by
  obtain equal | ⟨w, rfl, -⟩ | ⟨w, -, rfl⟩ := (join_eq_iff unbordered).mp same
  · exact equal
  · exact absurd (infix_tail nonempty w) first
  · exact absurd (infix_dropLast nonempty' w) second

/-- A separator inside one of the words gives another way to cut the text. -/
theorem exists_other_join (inside : sep <:+: a.tail ∨ sep <:+: b.dropLast) (nonempty : a ≠ [])
    (nonempty' : b ≠ []) (separates : sep ≠ []) :
    ∃ a' b', a' ≠ [] ∧ b' ≠ [] ∧ a' ++ sep ++ b' = a ++ sep ++ b ∧ a' ≠ a := by
  obtain ⟨u, v, cut⟩ | ⟨u, v, cut⟩ := inside
  · obtain ⟨c, tail, rfl⟩ := List.exists_cons_of_ne_nil nonempty
    obtain rfl : u ++ sep ++ v = tail := cut
    refine ⟨c :: u, v ++ sep ++ b, by simp, by simp [separates], by simp, fun same => ?_⟩
    have sizes := congrArg List.length same
    have := List.length_pos_iff.mpr separates
    simp only [List.length_cons, List.length_append] at sizes
    omega
  · have whole := List.dropLast_append_getLast nonempty'
    rw [← cut] at whole
    generalize b.getLast nonempty' = last at whole
    subst whole
    refine ⟨a ++ sep ++ u, v ++ [last], by simp [nonempty], by simp, ?_, fun same => ?_⟩
    · simp only [List.append_assoc]
    · have sizes := congrArg List.length same
      have := List.length_pos_iff.mpr separates
      simp only [List.length_append] at sizes
      omega

end RmwOpendds.Library.Separator
