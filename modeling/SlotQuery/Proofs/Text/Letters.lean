/-!
# Small letters

Names and words are compared in small letters.  The ASCII rule moves the capital letters up by 32
and leaves every other character alone (`toLower_cases`), so little else becomes a given character.
-/

namespace SlotQuery.Text

/-- A character is its own small letter, or it is one of the capital letters. -/
theorem toLower_cases (c : Char) :
    c.toLower = c ∨ 65 ≤ c.val.toNat ∧ c.val.toNat ≤ 90 ∧
      c.toLower.val.toNat = c.val.toNat + 32 := by
  by_cases hcapital : c.val ≥ 'A'.val ∧ c.val ≤ 'Z'.val
  · right
    have hA : 65 ≤ c.val.toNat := hcapital.1
    have hZ : c.val.toNat ≤ 90 := hcapital.2
    have hlower : c.toLower.val = c.val + ('a'.val - 'A'.val) :=
      congrArg Char.val (dif_pos hcapital)
    have hshift : ('a'.val - 'A'.val).toNat = 32 := by decide
    refine ⟨hA, hZ, ?_⟩
    rw [hlower, UInt32.toNat_add, hshift]
    omega
  · exact .inl (dif_neg hcapital)

/-- Only a letter becomes a letter. -/
theorem isAlpha_of_toLower {c : Char} (h : c.toLower.isAlpha = true) : c.isAlpha = true := by
  rcases toLower_cases c with hsame | ⟨hA, hZ, -⟩
  · rwa [hsame] at h
  · refine Bool.or_eq_true_iff.mpr (.inl (decide_eq_true ⟨?_, ?_⟩))
    · exact UInt32.le_iff_toNat_le.mpr hA
    · exact UInt32.le_iff_toNat_le.mpr hZ

/-- A digit has no small form of its own. -/
theorem toLower_of_isDigit {c : Char} (h : c.isDigit = true) : c.toLower = c := by
  have hnine : c.val ≤ '9'.val := (Bool.and_eq_true_iff.mp h).2 |> of_decide_eq_true
  have hcode : c.val.toNat ≤ 57 := hnine
  rcases toLower_cases c with hsame | ⟨hA, -⟩
  · exact hsame
  · omega

/-- Only NUL becomes NUL. -/
theorem eq_nul_of_toLower {c : Char} (h : c.toLower = '\x00') : c = '\x00' := by
  rcases toLower_cases c with hsame | ⟨hA, -, hcode⟩
  · exact hsame.symm.trans h
  · have hnul : c.toLower.val.toNat = 0 := by rw [h]; rfl
    omega

/-- Only a small letter and its capital become the small letter. -/
theorem eq_of_toLower_eq {c small : Char} (capital : Char)
    (hshift : small.val.toNat = capital.val.toNat + 32) (h : c.toLower = small) :
    c = small ∨ c = capital := by
  rcases toLower_cases c with hsame | ⟨-, -, hcode⟩
  · exact .inl (hsame.symm.trans h)
  · rw [h] at hcode
    exact .inr (Char.ext (UInt32.toNat_inj.mp (by omega)))

/-- Beyond ASCII nothing changes. -/
theorem toLower_of_le {c : Char} (h : 128 ≤ c.toNat) : c.toLower = c := by
  rcases toLower_cases c with hsame | ⟨-, hZ, -⟩
  · exact hsame
  · have hcode : 128 ≤ c.val.toNat := h
    omega

end SlotQuery.Text
