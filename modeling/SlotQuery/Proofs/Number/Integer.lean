import Mathlib.Algebra.Group.Nat.Defs
import Mathlib.Tactic.Common
import SlotQuery.Number.Integer

/-!
# Reckoning in 64 bits

A sum or a difference of 64-bit integers is the one of the integers, as long as 64 bits can hold it
(`toInt_add_of_fits`, `toInt_sub_of_fits`).  A number of rows counts as the largest integer if it is
larger than that (`toInt_saturated`), and as itself otherwise (`saturated_of_le`).
-/

namespace SlotQuery.Number

theorem toInt_maxValue : Int64.maxValue.toInt = 9223372036854775807 := rfl

theorem toInt_minValue : Int64.minValue.toInt = -9223372036854775808 := rfl

/-- An integer that 64 bits can hold is not wrapped round. -/
theorem bmod_of_fits {x : Int} (h : FitsInt64 x) : x.bmod (2 ^ 64) = x := by
  obtain ⟨hlow, hhigh⟩ := h
  rw [toInt_minValue] at hlow
  rw [toInt_maxValue] at hhigh
  exact Int.bmod_eq_of_le (by omega) (by omega)

theorem toInt_add_of_fits {a b : Int64} (h : FitsInt64 (a.toInt + b.toInt)) :
    (a + b).toInt = a.toInt + b.toInt := by
  rw [Int64.toInt_add, bmod_of_fits h]

theorem toInt_sub_of_fits {a b : Int64} (h : FitsInt64 (a.toInt - b.toInt)) :
    (a - b).toInt = a.toInt - b.toInt := by
  rw [Int64.toInt_sub, bmod_of_fits h]

/-- As many steps up as keep below the largest integer are taken without wrapping. -/
theorem toInt_add_ofNat {first : Int64} {count : Nat}
    (h : first.toInt + count ≤ Int64.maxValue.toInt) :
    (first + Int64.ofNat count).toInt = first.toInt + count := by
  have hlow := first.le_toInt
  have hfits : FitsInt64 (first.toInt + count) := ⟨by rw [toInt_minValue]; omega, h⟩
  rw [Int64.toInt_add, Int64.toInt_ofNat', Int.add_bmod_bmod]
  exact bmod_of_fits hfits

/-- The last of so many integers in a row. -/
theorem toInt_add_ofNat_sub_one {first : Int64} {count : Nat} (hcount : 0 < count)
    (h : first.toInt + count ≤ Int64.maxValue.toInt) :
    (first + Int64.ofNat count - 1).toInt = first.toInt + count - 1 := by
  have hlow := first.le_toInt
  have hmin := toInt_minValue
  have hend := toInt_add_ofNat h
  rw [toInt_sub_of_fits, hend, Int64.toInt_one]
  rw [hend, Int64.toInt_one, FitsInt64]
  omega

/-- A count is kept as a 64-bit integer as far as it goes. -/
theorem toInt_saturated (count : Nat) :
    (saturated count).toInt = min (count : Int) Int64.maxValue.toInt := by
  rw [saturated, toInt_maxValue]
  exact Int64.toInt_ofInt_of_le (by omega) (by omega)

theorem toInt_saturated_of_le {count : Nat} (h : (count : Int) ≤ Int64.maxValue.toInt) :
    (saturated count).toInt = count := by
  rw [toInt_saturated, Int.min_eq_left h]

/-- A count that 64 bits can hold is not cut. -/
theorem saturated_of_le {count : Nat} (h : (count : Int) ≤ Int64.maxValue.toInt) :
    saturated count = Int64.ofNat count := by
  refine Int64.toInt_inj.mp ?_
  rw [toInt_saturated_of_le h, Int64.toInt_ofNat_of_lt]
  rw [toInt_maxValue] at h
  omega

/-- More than one, also after the cut. -/
theorem one_lt_saturated {count : Nat} : 1 < saturated count ↔ 1 < count := by
  have hvalue := toInt_saturated count
  have hmax := toInt_maxValue
  rw [Int64.lt_iff_toInt_lt, hvalue, Int64.toInt_one]
  omega

end SlotQuery.Number
