import Mathlib.Data.List.Basic
import Mathlib.Data.List.Induction
import Mathlib.Tactic.SplitIfs
import SlotQuery.Number.Integer

/-!
# The decimal text of an integer

`Spelled n cs` says without any printing what the decimal text of an integer looks like: digits with
no zero in front, after a minus sign if the integer is less than zero.  Every integer has exactly
one such text, the one that it is printed with (`spelled_iff`).  Reading a text and printing what
was read is therefore a test for being such a text, which is how `ofDecimal?` decides it
(`ofDecimal?_eq_some_iff`).
-/

namespace SlotQuery.Number

/-- Decimal digits with no zero in front, but for zero itself. -/
structure Plain (ds : List Char) : Prop where
  nonempty : ds ≠ []
  digits : ∀ d ∈ ds, d.isDigit = true
  leading : ds.head? = some '0' → ds = ['0']

/-- The text is the decimal text of the integer. -/
inductive Spelled : Int → List Char → Prop
  | nonneg {ds : List Char} (hds : Plain ds) : Spelled (ofDigits ds) ds
  | neg {ds : List Char} (hds : Plain ds) (hzero : ds ≠ ['0']) :
      Spelled (-(ofDigits ds : Int)) ('-' :: ds)

/-- One more digit at the end makes the number ten times as large and adds the digit. -/
theorem ofDigits_concat (ds : List Char) (d : Char) :
    ofDigits (ds ++ [d]) = ofDigits ds * 10 + (d.toNat - '0'.toNat) := by
  rw [ofDigits, List.foldl_append]
  rfl

/-- A digit is the digit of its value, which is less than ten. -/
theorem digitChar_of_isDigit {d : Char} (hd : d.isDigit = true) :
    d.toNat - '0'.toNat < 10 ∧ Nat.digitChar (d.toNat - '0'.toNat) = d := by
  obtain ⟨hlow, hhigh⟩ := Char.isDigit_iff_toNat.mp hd
  have hzero : '0'.toNat = 48 := rfl
  have hnine : '9'.toNat = 57 := rfl
  have hvalue : d.toNat - '0'.toNat < 10 := by omega
  refine ⟨hvalue, ?_⟩
  have hcode : (Nat.digitChar (d.toNat - '0'.toNat)).toNat = d.toNat := by
    rw [Nat.toNat_digitChar_of_lt_ten hvalue]
    omega
  rw [← Char.ofNat_toNat (Nat.digitChar _), hcode, Char.ofNat_toNat]

/-- Digits with no zero in front are the digits of their value. -/
theorem toDigits_ofDigits {ds : List Char} (h : Plain ds) : Nat.toDigits 10 (ofDigits ds) = ds := by
  induction ds using List.reverseRecOn with
  | nil => exact absurd rfl h.nonempty
  | append_singleton front d ih =>
      obtain ⟨hvalue, hchar⟩ :=
        digitChar_of_isDigit (h.digits d (List.mem_append_right _ List.mem_cons_self))
      rw [ofDigits_concat]
      by_cases hfront : front = []
      · subst hfront
        rw [show ofDigits [] = 0 from rfl, Nat.zero_mul, Nat.zero_add,
          Nat.toDigits_of_lt_base hvalue, hchar, List.nil_append]
      have hhead : (front ++ [d]).head? = front.head? := List.head?_append_of_ne_nil front hfront
      -- A zero in front would be the whole text, which has a digit behind it.
      have hnonzero : front.head? ≠ some '0' := by
        intro hzero
        have hlength := congrArg List.length (h.leading (hhead.trans hzero))
        rw [List.length_append, List.length_singleton, List.length_singleton] at hlength
        exact hfront (List.length_eq_zero_iff.mp (by omega))
      have hplain : Plain front :=
        ⟨hfront, fun c hc => h.digits c (List.mem_append_left _ hc), fun hzero =>
          absurd hzero hnonzero⟩
      have hpos : ofDigits front ≠ 0 := by
        intro hzero
        have hdigits := ih hplain
        rw [hzero, Nat.toDigits_zero] at hdigits
        rw [← hdigits] at hnonzero
        exact hnonzero rfl
      have hbase : 10 ≤ ofDigits front * 10 + (d.toNat - '0'.toNat) := by omega
      have hfirst : (ofDigits front * 10 + (d.toNat - '0'.toNat)) / 10 = ofDigits front := by omega
      have hlast : (ofDigits front * 10 + (d.toNat - '0'.toNat)) % 10 = d.toNat - '0'.toNat := by
        omega
      rw [Nat.toDigits_of_base_le (by decide) hbase, hfirst, hlast, ih hplain, hchar]

/-- A number is read back from its digits. -/
theorem ofDigits_toDigits (n : Nat) : ofDigits (Nat.toDigits 10 n) = n := by
  induction n using Nat.strongRecOn with
  | ind n ih =>
      by_cases hsmall : n < 10
      · rw [Nat.toDigits_of_lt_base hsmall, ← List.nil_append [_], ofDigits_concat,
          Nat.toNat_digitChar_of_lt_ten hsmall]
        simp [ofDigits]
      · have hbase : 10 ≤ n := Nat.le_of_not_lt hsmall
        have hdigit : n % 10 < 10 := Nat.mod_lt n (by decide)
        have hzero : '0'.toNat = 48 := rfl
        rw [Nat.toDigits_of_base_le (by decide) hbase, ofDigits_concat, ih (n / 10) (by omega),
          Nat.toNat_digitChar_of_lt_ten hdigit]
        omega

/-- Only the digits of zero begin with a zero. -/
theorem head?_toDigits_of_ne_zero {n : Nat} (hn : n ≠ 0) :
    (Nat.toDigits 10 n).head? ≠ some '0' := by
  induction n using Nat.strongRecOn with
  | ind n ih =>
      by_cases hsmall : n < 10
      · rw [Nat.toDigits_of_lt_base hsmall, List.head?_singleton]
        intro hzero
        exact hn (Nat.digitChar_eq_zero.mp (Option.some.inj hzero))
      · have hbase : 10 ≤ n := Nat.le_of_not_lt hsmall
        rw [Nat.toDigits_of_base_le (by decide) hbase,
          List.head?_append_of_ne_nil _ Nat.toDigits_ne_nil]
        exact ih (n / 10) (by omega) (by omega)

/-- A number has digits without a zero in front. -/
theorem plain_toDigits (n : Nat) : Plain (Nat.toDigits 10 n) where
  nonempty := Nat.toDigits_ne_nil
  digits _ hd := Nat.isDigit_of_mem_toDigits (by decide) (by decide) hd
  leading hzero := by
    by_cases hn : n = 0
    · rw [hn, Nat.toDigits_zero]
    · exact absurd hzero (head?_toDigits_of_ne_zero hn)

/-- Only one zero is read as zero. -/
theorem ofDigits_ne_zero {ds : List Char} (h : Plain ds) (hzero : ds ≠ ['0']) :
    ofDigits ds ≠ 0 := by
  intro hvalue
  have hdigits := toDigits_ofDigits h
  rw [hvalue, Nat.toDigits_zero] at hdigits
  exact hzero hdigits.symm

/-- A natural number is written by its digits. -/
theorem toList_toString_ofNat (n : Nat) :
    (toString (n : Int)).toList = Nat.toDigits 10 n := by
  rw [show toString (n : Int) = toString n from rfl, Nat.toString_eq_ofList_toDigits,
    String.toList_ofList]

/-- A negative integer is written by a minus and the digits of its opposite. -/
theorem toList_toString_neg {n : Nat} (hn : n ≠ 0) :
    (toString (-(n : Int))).toList = '-' :: Nat.toDigits 10 n := by
  obtain ⟨m, rfl⟩ := Nat.exists_eq_succ_of_ne_zero hn
  have hminus : toString (-((m + 1 : Nat) : Int)) = "-" ++ toString (m + 1) := rfl
  rw [hminus, String.toList_append, Nat.toString_eq_ofList_toDigits, String.toList_ofList,
    String.toList_ofList, List.singleton_append]

/-- The decimal text of an integer is the one that it is printed with. -/
theorem spelled_iff {n : Int} {cs : List Char} : Spelled n cs ↔ cs = (toString n).toList := by
  constructor
  · rintro (hds | ⟨hds, hzero⟩)
    · rw [toList_toString_ofNat, toDigits_ofDigits hds]
    · rw [toList_toString_neg (ofDigits_ne_zero hds hzero), toDigits_ofDigits hds]
  · rintro rfl
    obtain ⟨m, rfl | rfl⟩ := n.eq_nat_or_neg
    · have hspelled := Spelled.nonneg (plain_toDigits m)
      rwa [ofDigits_toDigits, ← toList_toString_ofNat] at hspelled
    · by_cases hm : m = 0
      · subst hm
        exact Spelled.nonneg (plain_toDigits 0)
      · have hzero : Nat.toDigits 10 m ≠ ['0'] := by
          intro h
          exact head?_toDigits_of_ne_zero hm (by rw [h]; rfl)
        have hspelled := Spelled.neg (plain_toDigits m) hzero
        rwa [ofDigits_toDigits, ← toList_toString_neg hm] at hspelled

/-- An integer is read back from any text that spells it. -/
theorem Spelled.readInt? {n : Int} {cs : List Char} (h : Spelled n cs) :
    readInt? cs = some n := by
  have hnat : ∀ {ds}, Plain ds → readNat? ds = some (ofDigits ds) := fun hds =>
    if_pos ⟨hds.nonempty, List.all_eq_true.mpr hds.digits⟩
  cases h with
  | neg hds =>
      rw [Number.readInt?, hnat hds]
      rfl
  | nonneg hds =>
      have hminus : ∀ ds, cs ≠ '-' :: ds := by
        rintro ds rfl
        exact absurd (hds.digits '-' List.mem_cons_self) (by decide)
      rw [Number.readInt?, hnat hds]
      · rfl
      · exact hminus

theorem fitsInt64_toInt (i : Int64) : FitsInt64 i.toInt :=
  ⟨Int64.minValue_le_toInt i, Int64.toInt_le i⟩

/-- A text is read as an integer exactly if it is the decimal text of the integer. -/
theorem ofDecimal?_eq_some_iff {s : String} {i : Int64} :
    ofDecimal? s = some i ↔ Spelled i.toInt s.toList := by
  rw [spelled_iff]
  constructor
  · intro h
    obtain ⟨n, -, hn⟩ := Option.bind_eq_some_iff.mp h
    obtain ⟨w, -, hw⟩ := Option.bind_eq_some_iff.mp hn
    split_ifs at hw with hsame
    rw [← Option.some.inj hw, ← hsame, decimal]
  · intro htext
    have hread := (spelled_iff.mpr htext).readInt?
    have hdecimal : decimal i = s := String.toList_inj.mp htext.symm
    rw [ofDecimal?, hread, Option.bind_some, toInt64?, if_pos (fitsInt64_toInt i),
      Int64.ofInt_toInt, Option.bind_some, if_pos hdecimal]

theorem spelled_decimal (i : Int64) : Spelled i.toInt (decimal i).toList :=
  spelled_iff.mpr rfl

end SlotQuery.Number
