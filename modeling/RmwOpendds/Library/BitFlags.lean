import Mathlib.Data.List.Basic

/-! Masks of flags. Each flag has a mask of its own; a mask collects the flags that are
on, and an intersection with the mask of one flag tells whether that one is. -/

namespace RmwOpendds.Library.BitFlags

variable {α : Type*} (bit : α → UInt32) (on : α → Bool)

def collect (base : UInt32) (flags : List α) : UInt32 :=
  flags.foldl (fun mask a => if on a then mask ||| bit a else mask) base

theorem or_and (x y z : UInt32) : (x ||| y) &&& z = x &&& z ||| y &&& z := by
  apply UInt32.toBitVec_inj.mp
  simp only [UInt32.toBitVec_and, UInt32.toBitVec_or, BitVec.and_or_distrib_right]

theorem and_or_absorb (x z : UInt32) : x &&& z ||| z = z := by
  apply UInt32.toBitVec_inj.mp
  simp only [UInt32.toBitVec_or, UInt32.toBitVec_and]
  ext i
  simp

theorem or_self_and (x z : UInt32) : (x ||| z) &&& z = z := by
  rw [or_and, UInt32.and_self, and_or_absorb]

theorem or_and_of_set {x z : UInt32} (set : x &&& z = z) (y : UInt32) : (x ||| y) &&& z = z := by
  rw [or_and, set, UInt32.or_comm, and_or_absorb]

variable {bit on}

theorem collect_and_of_disjoint {flags : List α} {x : α} (base : UInt32)
    (disjoint : ∀ a ∈ flags, on a → bit a &&& bit x = 0) :
    collect bit on base flags &&& bit x = base &&& bit x := by
  induction flags generalizing base with
  | nil => rfl
  | cons a flags ih =>
    have rest := ih (if on a then base ||| bit a else base)
      fun b member => disjoint b (List.mem_cons_of_mem a member)
    rw [collect, List.foldl_cons, ← collect, rest]
    split
    · rw [or_and, disjoint a List.mem_cons_self ‹_›, UInt32.or_zero]
    · rfl

/-- A base that does not meet the mask, and other flags that do not either: the
intersection is empty exactly if the flag is off. -/
theorem collect_and_ne_zero {flags : List α} {x : α} {base : UInt32} (member : x ∈ flags)
    (nonzero : bit x ≠ 0) (apart : base &&& bit x = 0)
    (disjoint : ∀ a ∈ flags, a ≠ x → bit a &&& bit x = 0) :
    collect bit on base flags &&& bit x ≠ 0 ↔ on x := by
  constructor
  · intro met
    by_contra off
    refine met ((collect_and_of_disjoint base fun a listed lit => ?_).trans apart)
    refine disjoint a listed fun same => off (same ▸ lit)
  · intro lit
    -- whatever stands before the flag, its mask is set there and stays set
    have stays : ∀ mask (rest : List α), mask &&& bit x = bit x →
        collect bit on mask rest &&& bit x = bit x := by
      intro mask rest set
      induction rest generalizing mask with
      | nil => exact set
      | cons a rest ih =>
        rw [collect, List.foldl_cons, ← collect]
        refine ih _ ?_
        split
        · exact or_and_of_set set _
        · exact set
    obtain ⟨before, after, rfl⟩ := List.append_of_mem member
    rw [collect, List.foldl_append, List.foldl_cons, if_pos lit, ← collect,
      stays _ after (or_self_and _ _)]
    exact nonzero

end RmwOpendds.Library.BitFlags
