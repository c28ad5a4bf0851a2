import Mathlib

/-! A 64-bit unsigned value stored in a signed 32-bit field and read back.
Everything is stated on the values as integers. -/

namespace RmwOpendds.Library

theorem toInt_narrow (n : UInt64) :
    n.toUInt32.toInt32.toInt =
      if n.toNat % 2 ^ 32 < 2 ^ 31 then (n.toNat % 2 ^ 32 : ℤ)
      else (n.toNat % 2 ^ 32 : ℤ) - 2 ^ 32 := by
  have word : n.toUInt32.toInt32.toInt = n.toUInt32.toBitVec.toInt := rfl
  have low : n.toUInt32.toBitVec.toNat = n.toNat % 2 ^ 32 := by simp
  rw [word, BitVec.toInt_eq_toNat_cond, low]
  split_ifs <;> omega

theorem narrow_nonneg_iff (n : UInt64) :
    0 ≤ n.toUInt32.toInt32.toInt ↔ n.toNat % 2 ^ 32 < 2 ^ 31 := by
  rw [toInt_narrow]
  split_ifs <;> omega

theorem toNat_widen {d : Int32} (nonneg : 0 ≤ d.toInt) :
    (d.toInt64.toUInt64.toNat : ℤ) = d.toInt := by
  have upper : d.toInt < 2 ^ 31 := d.toInt_lt
  have word : d.toInt64.toInt = d.toInt := Int32.toInt_toInt64 d
  have same : d.toInt64.toUInt64.toNat = d.toInt64.toBitVec.toNat := rfl
  have signed : d.toInt64.toInt = d.toInt64.toBitVec.toInt := rfl
  rw [signed, BitVec.toInt_eq_toNat_cond] at word
  rw [same]
  split_ifs at word <;> omega

end RmwOpendds.Library
