import SlotQuery.Number.FloatText

/-!
# The characters that numbers are written with

Integers and doubles are written with ASCII letters and digits, the minus sign and the point, and
nothing else (`numeral_decimal`, `numeral_floatText`).  This holds of every number, the
infinite ones and the one that is none included.
-/

namespace SlotQuery.Number

/-- The character can stand in the text of a number. -/
def isNumeral (c : Char) : Bool :=
  c.isAlphanum || c = '-' || c = '.'

/-- The text is written with the characters of numbers only. -/
def Numeral (s : String) : Prop :=
  ∀ c ∈ s.toList, isNumeral c

instance (s : String) : Decidable (Numeral s) :=
  List.decidableBAll (fun c => isNumeral c) s.toList

/-- Two numerals in a row are made of the same characters. -/
theorem Numeral.append {s t : String} (hs : Numeral s) (ht : Numeral t) : Numeral (s ++ t) := by
  intro c hc
  rw [String.toList_append, List.mem_append] at hc
  rcases hc with hc | hc
  · exact hs c hc
  · exact ht c hc

/-- A text of characters of a numeral is one. -/
theorem Numeral.ofList_subset {s : String} (hs : Numeral s) {cs : List Char}
    (hsub : cs ⊆ s.toList) : Numeral (String.ofList cs) := by
  intro c hc
  rw [String.toList_ofList] at hc
  exact hs c (hsub hc)

/-- Zeros are characters of a numeral. -/
theorem numeral_zeros (n : Nat) : Numeral (String.ofList (List.replicate n '0')) := by
  intro c hc
  rw [String.toList_ofList] at hc
  rw [List.eq_of_mem_replicate hc]
  rfl

theorem numeral_toString_nat (n : Nat) : Numeral (toString n) := by
  intro c hc
  rw [Nat.toString_eq_ofList_toDigits, String.toList_ofList] at hc
  have hdigit := Nat.isDigit_of_mem_toDigits (by decide) (by decide) hc
  simp [isNumeral, Char.isAlphanum, hdigit]

/-- An integer is written by characters of a numeral. -/
theorem numeral_toString_int (i : Int) : Numeral (toString i) := by
  cases i with
  | ofNat n => exact numeral_toString_nat n
  | negSucc n => exact Numeral.append (s := "-") (by decide) (numeral_toString_nat (n + 1))

theorem numeral_decimal (i : Int64) : Numeral (decimal i) :=
  numeral_toString_int i.toInt

/-- Integers are written with digits and the minus sign alone. -/
theorem isDigit_or_minus_of_mem_decimal {i : Int64} {c : Char} (hc : c ∈ (decimal i).toList) :
    c.isDigit = true ∨ c = '-' := by
  have hnat : ∀ n : Nat, c ∈ (toString n).toList → c.isDigit = true := by
    intro n hn
    rw [Nat.toString_eq_ofList_toDigits, String.toList_ofList] at hn
    exact Nat.isDigit_of_mem_toDigits (by decide) (by decide) hn
  unfold decimal at hc
  cases h : i.toInt with
  | ofNat n =>
      rw [h] at hc
      exact .inl (hnat n hc)
  | negSucc n =>
      rw [h] at hc
      have hminus : c ∈ ("-" ++ toString (n + 1)).toList := hc
      rw [String.toList_append, List.mem_append] at hminus
      rcases hminus with hminus | hdigits
      · exact .inr (List.mem_singleton.mp hminus)
      · exact .inl (hnat (n + 1) hdigits)

/-- A double that is written out is made of these characters if its digits and its end are. -/
theorem numeral_positionalText {tail digits : String} (htail : Numeral tail)
    (hdigits : Numeral digits) (exponent : Int) :
    Numeral (positionalText tail digits exponent) := by
  unfold positionalText
  by_cases hwhole : 0 ≤ exponent
  · simp only [hwhole, if_true]
    exact (hdigits.append (numeral_zeros _)).append htail
  · simp only [hwhole, if_false]
    by_cases hpoint : -exponent < (digits.length : Int)
    · simp only [hpoint, if_true]
      have hfront := hdigits.ofList_subset (List.take_subset ((digits.length + exponent).toNat) _)
      have hback := hdigits.ofList_subset (List.drop_subset ((digits.length + exponent).toNat) _)
      exact (hfront.append (by decide)).append hback
    · simp only [hpoint, if_false]
      exact (Numeral.append (s := "0.") (by decide) (numeral_zeros _)).append hdigits

/-- The text of a double is made of the characters of numerals. -/
theorem numeral_floatText (x : Binary64) : Numeral (floatText x) := by
  unfold floatText FloatFormat.render
  cases x.kind with
  | nan =>
      have hname : Numeral "NaN" := by decide
      exact hname
  | infinite => cases x.isNegative <;> decide
  | finite m q =>
      have hsign : Numeral (if x.isNegative then "-" else "") := by
        cases x.isNegative <;> decide
      exact hsign.append
        (numeral_positionalText (by decide) (numeral_toString_nat _) _)

end SlotQuery.Number
