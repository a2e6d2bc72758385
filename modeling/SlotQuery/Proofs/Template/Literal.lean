import Mathlib.Tactic.SplitIfs
import SlotQuery.Proofs.Number.Decimal
import SlotQuery.Proofs.Text.Letters
import SlotQuery.Template.Prepared

/-!
# How a literal is classified

A literal becomes a number only if it is the very text of that number, so a parameter always stands
for the text it came from.  The two texts that are written into the statement are told apart from
these: the empty one, and the word `null` in any letter case.  `Literal.ofText_cases` says which of
the three becomes of a text, and `Literal.ofText_exact` for which texts each kind of literal stands.
-/

namespace SlotQuery.Template

open Number (Spelled decimal floatText ofDecimal?)

/-- The first letter of the word is no digit, no sign and no point, so it is read as no number. -/
theorem exists_head_of_isNullWord {t : String} (h : isNullWord t = true) :
    ∃ c cs, t.toList = c :: cs ∧ (c = 'n' ∨ c = 'N') := by
  have hlower : t.toList.map Char.toLower = ['n', 'u', 'l', 'l'] := of_decide_eq_true h
  obtain ⟨c, cs, ht, hc, -⟩ := List.map_eq_cons_iff.mp hlower
  exact ⟨c, cs, ht, Text.eq_of_toLower_eq 'N' rfl hc⟩

/-- A word for null is no integer. -/
theorem ofDecimal?_of_isNullWord {t : String} (h : isNullWord t = true) : ofDecimal? t = none := by
  obtain ⟨c, cs, ht, hc⟩ := exists_head_of_isNullWord h
  have hread : Number.readInt? t.toList = none := by
    rw [ht]
    rcases hc with rfl | rfl <;> rfl
  rw [ofDecimal?, hread, Option.bind_none]

/-- A word for null is no double. -/
theorem floatLiteral?_of_isNullWord {t : String} (h : isNullWord t = true) :
    floatLiteral? t = none := by
  have hlower : t.toList.map Char.toLower = ['n', 'u', 'l', 'l'] := of_decide_eq_true h
  obtain ⟨c, cs, ht, hc⟩ := exists_head_of_isNullWord h
  have hword : String.ofList ((c :: cs).map Char.toLower) = "null" := by
    rw [← ht, hlower]
  have hsign : Number.readFloat? t =
      if String.ofList ((c :: cs).map Char.toLower) = "inf" ∨
          String.ofList ((c :: cs).map Char.toLower) = "infinity" then
        some (Number.Binary64.infinity false)
      else if String.ofList ((c :: cs).map Char.toLower) = "nan" then
        some (Number.Binary64.nan false)
      else Number.readMagnitude? false (c :: cs) := by
    rw [Number.readFloat?, ht]
    rcases hc with rfl | rfl <;> rfl
  have hmagnitude : Number.readMagnitude? false (c :: cs) = none := by
    rcases hc with rfl | rfl <;> rfl
  rw [floatLiteral?, hsign, hword, if_neg (by decide), if_neg (by decide), hmagnitude,
    Option.bind_none]

/-- The text is read as the finite double that is printed with it. -/
def Rendered (x : Number.Binary64) (t : String) : Prop :=
  Number.readFloat? t = some x ∧ x.isFinite ∧ floatText x = t

/-- A literal is a double exactly if it is how that double is written. -/
theorem floatLiteral?_eq_some_iff {t : String} {x : Number.Binary64} :
    floatLiteral? t = some x ↔ Rendered x t := by
  constructor
  · intro h
    obtain ⟨y, hread, hy⟩ := Option.bind_eq_some_iff.mp h
    split_ifs at hy with hsame
    obtain rfl : y = x := Option.some.inj hy
    exact ⟨hread, hsame⟩
  · rintro ⟨hread, hsame⟩
    rw [floatLiteral?, hread, Option.bind_some, if_pos hsame]

theorem decimal_of_ofDecimal? {t : String} {i : Int64} (h : ofDecimal? t = some i) :
    decimal i = t :=
  String.toList_inj.mp (Number.spelled_iff.mp (Number.ofDecimal?_eq_some_iff.mp h)).symm

theorem floatText_of_floatLiteral? {t : String} {x : Number.Binary64}
    (h : floatLiteral? t = some x) : floatText x = t :=
  (floatLiteral?_eq_some_iff.mp h).2.2

theorem ofDecimal?_eq_none_iff {t : String} :
    ofDecimal? t = none ↔ ∀ i : Int64, ¬ Spelled i.toInt t.toList := by
  simp only [Option.eq_none_iff_forall_ne_some, ne_eq, Number.ofDecimal?_eq_some_iff]

theorem floatLiteral?_eq_none_iff {t : String} :
    floatLiteral? t = none ↔ ∀ x, ¬ Rendered x t := by
  simp only [Option.eq_none_iff_forall_ne_some, ne_eq, floatLiteral?_eq_some_iff]

/-- A literal is a parameter with its own text, or the empty text, or the word `null`. -/
theorem Literal.ofText_cases (t : String) :
    (∃ p, ofText t = .bound p ∧ p.text = t ∧ isNullWord t = false) ∨
      (ofText t = .inline "''" ∧ t = "") ∨ (ofText t = .inline "NULL" ∧ isNullWord t = true) := by
  have hword : isNullWord t = true → ofDecimal? t = none ∧ floatLiteral? t = none := fun h =>
    ⟨ofDecimal?_of_isNullWord h, floatLiteral?_of_isNullWord h⟩
  unfold ofText
  cases hint : ofDecimal? t with
  | some i =>
      refine .inl ⟨.integer i, rfl, decimal_of_ofDecimal? hint, ?_⟩
      refine Bool.eq_false_iff.mpr fun h => ?_
      rw [(hword h).1] at hint
      cases hint
  | none =>
      cases hfloat : floatLiteral? t with
      | some x =>
          refine .inl ⟨.double x, rfl, floatText_of_floatLiteral? hfloat, ?_⟩
          refine Bool.eq_false_iff.mpr fun h => ?_
          rw [(hword h).2] at hfloat
          cases hfloat
      | none =>
          dsimp only
          split_ifs with hempty hnull
          · exact .inr (.inl ⟨rfl, hempty⟩)
          · exact .inr (.inr ⟨rfl, hnull⟩)
          · exact .inl ⟨.string t, rfl, rfl, Bool.eq_false_iff.mpr hnull⟩

/-- A literal is an integer exactly if it spells it. -/
theorem Literal.ofText_eq_integer_iff {t : String} {i : Int64} :
    ofText t = .bound (.integer i) ↔ Spelled i.toInt t.toList := by
  rw [← Number.ofDecimal?_eq_some_iff]
  constructor
  · intro h
    unfold ofText at h
    split at h
    · cases h
      assumption
    · cases h
    · split_ifs at h
      cases h
  · intro h
    simp only [ofText, h]

/-- A literal is a double exactly if it spells no integer and is how the double is written. -/
theorem Literal.ofText_eq_double_iff {t : String} {x : Number.Binary64} :
    ofText t = .bound (.double x) ↔
      (∀ i : Int64, ¬ Spelled i.toInt t.toList) ∧ Rendered x t := by
  rw [← ofDecimal?_eq_none_iff, ← floatLiteral?_eq_some_iff]
  constructor
  · intro h
    unfold ofText at h
    split at h
    · cases h
    · cases h
      exact ⟨by assumption, by assumption⟩
    · split_ifs at h
      cases h
  · rintro ⟨hint, hfloat⟩
    simp only [ofText, hint, hfloat]

/-- A text that stands for no number and is written into the statement is empty or the word. -/
theorem Literal.ofText_eq_inline_iff {t s : String} :
    ofText t = .inline s ↔ s = "''" ∧ t = "" ∨ s = "NULL" ∧ isNullWord t = true := by
  constructor
  · intro h
    obtain ⟨p, hp, -⟩ | ⟨hempty, ht⟩ | ⟨hnull, ht⟩ := ofText_cases t
    · rw [hp] at h
      cases h
    · rw [hempty] at h
      cases h
      exact .inl ⟨rfl, ht⟩
    · rw [hnull] at h
      cases h
      exact .inr ⟨rfl, ht⟩
  · rintro (⟨rfl, rfl⟩ | ⟨rfl, hword⟩)
    · rfl
    · obtain ⟨p, -, -, hp⟩ | ⟨-, ht⟩ | ⟨hnull, -⟩ := ofText_cases t
      · rw [hp] at hword
        cases hword
      · rw [ht] at hword
        cases hword
      · exact hnull

/-- A literal is a text exactly if it is nothing else. -/
theorem Literal.ofText_eq_string_iff {t s : String} :
    ofText t = .bound (.string s) ↔
      s = t ∧ (∀ i : Int64, ¬ Spelled i.toInt t.toList) ∧ (∀ x, ¬ Rendered x t) ∧ t ≠ "" ∧
        isNullWord t = false := by
  rw [← ofDecimal?_eq_none_iff, ← floatLiteral?_eq_none_iff]
  constructor
  · intro h
    unfold ofText at h
    split at h
    · cases h
    · cases h
    · split_ifs at h with hempty hnull
      cases h
      exact ⟨rfl, by assumption, by assumption, hempty, Bool.eq_false_iff.mpr hnull⟩
  · rintro ⟨rfl, hint, hfloat, hempty, hnull⟩
    simp only [ofText, hint, hfloat, if_neg hempty, hnull, Bool.false_eq_true, if_false]

/-- Each kind of literal stands for the texts of its own, and for no others.  Integers come before
doubles; a text that is empty, or spells `null` in ASCII letters of any case, is written into the
statement; whatever is left is a string.  So a parameter always shows the text that it came from,
and the text that an integer is printed with is that integer again. -/
theorem Literal.ofText_exact (t : String) :
    (∀ i : Int64, ofText t = .bound (.integer i) ↔ Spelled i.toInt t.toList) ∧
      (∀ s, ofText t = .inline s ↔
        s = "''" ∧ t = "" ∨ s = "NULL" ∧ t.toList.map Char.toLower = "null".toList) ∧
      (∀ x, ofText t = .bound (.double x) ↔
        (∀ i : Int64, ¬ Spelled i.toInt t.toList) ∧ Rendered x t) ∧
      (∀ s, ofText t = .bound (.string s) ↔
        s = t ∧ (∀ i : Int64, ¬ Spelled i.toInt t.toList) ∧ (∀ x, ¬ Rendered x t) ∧ t ≠ "" ∧
          t.toList.map Char.toLower ≠ "null".toList) ∧
      (∀ p, ofText t = .bound p → p.text = t) ∧
      ∀ i : Int64, ofText (decimal i) = .bound (.integer i) := by
  have hword : isNullWord t = true ↔ t.toList.map Char.toLower = "null".toList := decide_eq_true_iff
  have hother : isNullWord t = false ↔ t.toList.map Char.toLower ≠ "null".toList :=
    decide_eq_false_iff_not
  refine ⟨fun i => ofText_eq_integer_iff, fun s => ?inline, fun x => ofText_eq_double_iff,
    fun s => ?string, fun p hp => ?shown,
    fun i => ofText_eq_integer_iff.mpr (Number.spelled_decimal i)⟩
  case inline => rw [ofText_eq_inline_iff, hword]
  case string => rw [ofText_eq_string_iff, hother]
  case shown =>
    obtain ⟨q, hq, htext, -⟩ | ⟨hempty, -⟩ | ⟨hnull, -⟩ := ofText_cases t
    · rw [hq] at hp
      cases hp
      exact htext
    · rw [hempty] at hp
      cases hp
    · rw [hnull] at hp
      cases hp

example : Literal.ofText "-0" = .bound (.double (Number.Binary64.mk 0x8000000000000000)) := by
  decide +kernel

end SlotQuery.Template
