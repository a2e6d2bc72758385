import Mathlib.Data.List.TakeWhile
import SlotQuery.Json.Codec
import SlotQuery.Proofs.Number.Decimal

/-!
# JSON numerals read back

A numeral ends where a text stops that could go on with it.  What the reader makes of a whole text
is therefore what it makes of that text in front of anything that does not (`read?_append`).

Integers are read back outright (`exists_of_toString`).  A double is read by rounding twice, which
does not give every double back; `ReadsBack` is what it takes, a statement about the reader's
arithmetic alone.  That the text of a double is taken for no integer is not part of it: it has a
point or an exponent (`exists_mem_render`), and a numeral that is read without either has only
digits behind its sign (`digits_of_read?`).
-/

namespace SlotQuery.Json

open Number (Binary64 FloatFormat Plain ofDigits spelled_iff)

namespace Numeral

/-- What follows a numeral does not go on with it. -/
def Ends (rest : List Char) : Prop :=
  ∀ c, rest.head? = some c → c.isDigit = false ∧ c ≠ '.' ∧ c ≠ 'e' ∧ c ≠ 'E'

variable {cs rest behind ds : List Char} {n : Numeral}

theorem Ends.nil : Ends [] := fun _ h => nomatch h

/-- Where a numeral ends there is no digit to pass over. -/
theorem Ends.dropWhile (h : Ends behind) : behind.dropWhile Char.isDigit = behind := by
  cases behind with
  | nil => rfl
  | cons c cs => rw [List.dropWhile_cons_of_neg (Bool.eq_false_iff.mp (h c rfl).1)]

/-- Where a numeral ends there is no digit to take. -/
theorem Ends.takeWhile (h : Ends behind) : behind.takeWhile Char.isDigit = [] := by
  cases behind with
  | nil => rfl
  | cons c cs => rw [List.takeWhile_cons_of_neg (Bool.eq_false_iff.mp (h c rfl).1)]

/-- What does not start with a character does not start with it in front of something else. -/
theorem append_ne_cons {c : Char} (hcs : ∀ tail, cs ≠ c :: tail) (hbehind : behind.head? ≠ some c)
    (tail : List Char) : cs ++ behind ≠ c :: tail := by
  cases cs with
  | nil =>
      rintro rfl
      exact hbehind rfl
  | cons first cs =>
      intro h
      rw [List.cons_append, List.cons.injEq] at h
      exact hcs cs (by rw [h.1])

/-- Digits that are read stand in front, and there are some. -/
theorem eq_of_digits? (h : digits? cs = some (ds, rest)) :
    cs = ds ++ rest ∧ ds ≠ [] ∧ ∀ d ∈ ds, d.isDigit = true := by
  unfold digits? at h
  dsimp only at h
  split at h
  · cases h
  · next hds =>
      cases h
      exact ⟨List.takeWhile_append_dropWhile.symm, fun hnil => hds (List.isEmpty_iff.mpr hnil),
        fun d hd => List.mem_takeWhile_imp hd⟩

/-- Digits are read up to where they end, whatever follows. -/
theorem digits?_append (h : digits? cs = some (ds, rest)) (hends : Ends behind) :
    digits? (cs ++ behind) = some (ds, rest ++ behind) := by
  have htake : (cs ++ behind).takeWhile Char.isDigit = cs.takeWhile Char.isDigit := by
    rw [List.takeWhile_append, hends.takeWhile, List.append_nil]
    split_ifs with hlength
    · exact (List.takeWhile_prefix _).eq_of_length hlength |>.symm
    · rfl
  have hdrop : (cs ++ behind).dropWhile Char.isDigit = cs.dropWhile Char.isDigit ++ behind := by
    rw [List.dropWhile_append, hends.dropWhile]
    split_ifs with hempty
    · rw [List.isEmpty_iff.mp hempty, List.nil_append]
    · rfl
  unfold digits? at h ⊢
  rw [htake, hdrop]
  dsimp only at h ⊢
  split_ifs at h ⊢
  cases h
  rfl

/-- The digits before the point stand in front, and there are some. -/
theorem eq_of_whole? (h : whole? cs = some (ds, rest)) :
    cs = ds ++ rest ∧ ds ≠ [] ∧ ∀ d ∈ ds, d.isDigit = true := by
  unfold whole? at h
  split at h
  · cases h
    exact ⟨rfl, List.cons_ne_nil _ _, fun d hd => List.mem_singleton.mp hd ▸ rfl⟩
  · exact eq_of_digits? h

/-- The digits in front of a point are read alike, whatever follows where a numeral ends. -/
theorem whole?_append (h : whole? cs = some (ds, rest)) (hends : Ends behind) :
    whole? (cs ++ behind) = some (ds, rest ++ behind) := by
  unfold whole? at h
  split at h
  · cases h
    rfl
  · next hzero =>
      have hbehind : behind.head? ≠ some '0' := fun hhead => absurd (hends '0' hhead).1 (by decide)
      rw [whole?]
      · exact digits?_append h hends
      · exact append_ne_cons hzero hbehind

theorem fraction?_append {fraction : Option (List Char)}
    (h : fraction? cs = some (fraction, rest)) (hends : Ends behind) :
    fraction? (cs ++ behind) = some (fraction, rest ++ behind) := by
  unfold fraction? at h
  split at h
  · obtain ⟨⟨digits, after⟩, hdigits, ⟨⟩⟩ := Option.map_eq_some_iff.mp h
    rw [List.cons_append, fraction?, digits?_append hdigits hends]
    rfl
  · next hpoint =>
      cases h
      have hbehind : behind.head? ≠ some '.' := fun hhead => (hends '.' hhead).2.1 rfl
      rw [fraction?]
      exact append_ne_cons hpoint hbehind

theorem signed?_append {negative : Bool} {exponent : Option Int}
    (h : signed? negative cs = some (exponent, rest)) (hends : Ends behind) :
    signed? negative (cs ++ behind) = some (exponent, rest ++ behind) := by
  obtain ⟨⟨digits, after⟩, hdigits, ⟨⟩⟩ := Option.map_eq_some_iff.mp h
  rw [signed?, digits?_append hdigits hends]
  rfl

/-- The exponent behind its letter. -/
def unlettered? : List Char → Option (Option Int × List Char)
  | '+' :: ds => signed? false ds
  | '-' :: ds => signed? true ds
  | ds => signed? false ds

theorem unlettered?_append {exponent : Option Int}
    (h : unlettered? cs = some (exponent, rest)) (hends : Ends behind) :
    unlettered? (cs ++ behind) = some (exponent, rest ++ behind) := by
  unfold unlettered? at h
  split at h
  · exact signed?_append h hends
  · exact signed?_append h hends
  · next hplus hminus =>
      have hsigned := signed?_append h hends
      cases cs with
      | nil => cases h
      | cons c cs =>
          rw [List.cons_append] at hsigned ⊢
          rw [unlettered?]
          · exact hsigned
          · exact fun ds hds => hplus cs (by rw [(List.cons.inj hds).1])
          · exact fun ds hds => hminus cs (by rw [(List.cons.inj hds).1])

theorem exponent?_append {exponent : Option Int}
    (h : exponent? cs = some (exponent, rest)) (hends : Ends behind) :
    exponent? (cs ++ behind) = some (exponent, rest ++ behind) := by
  unfold exponent? at h
  split at h
  · exact unlettered?_append h hends
  · exact unlettered?_append h hends
  · next hlower hupper =>
      cases h
      rw [exponent?]
      · exact append_ne_cons hlower fun hhead => (hends 'e' hhead).2.2.1 rfl
      · exact append_ne_cons hupper fun hhead => (hends 'E' hhead).2.2.2 rfl

/-- Where no fraction and no exponent is read, nothing is. -/
theorem eq_of_fraction?_none (h : fraction? cs = some (none, rest)) : rest = cs := by
  unfold fraction? at h
  split at h
  · obtain ⟨⟨digits, after⟩, -, hsome⟩ := Option.map_eq_some_iff.mp h
    cases hsome
  · cases h
    rfl

/-- Where there is no exponent, nothing is read. -/
theorem eq_of_exponent?_none (h : exponent? cs = some (none, rest)) : rest = cs := by
  have hsigned : ∀ {negative ds}, signed? negative ds ≠ some (none, rest) := by
    intro negative ds hread
    obtain ⟨⟨digits, after⟩, -, hsome⟩ := Option.map_eq_some_iff.mp hread
    cases hsome
  unfold exponent? at h
  split at h
  · split at h <;> exact absurd h hsigned
  · split at h <;> exact absurd h hsigned
  · cases h
    rfl

/-- A numeral behind its sign is read from the front of a text. -/
def Unsigned (n : Numeral) (cs rest : List Char) : Prop :=
  ∃ afterWhole afterFraction, whole? cs = some (n.whole, afterWhole) ∧
    fraction? afterWhole = some (n.fraction, afterFraction) ∧
    exponent? afterFraction = some (n.exponent, rest)

/-- A numeral without a sign is one too in front of anything that ends it. -/
theorem Unsigned.append (h : Unsigned n cs rest) (hends : Ends behind) :
    Unsigned n (cs ++ behind) (rest ++ behind) := by
  obtain ⟨afterWhole, afterFraction, hwhole, hfraction, hexponent⟩ := h
  exact ⟨_, _, whole?_append hwhole hends, fraction?_append hfraction hends,
    exponent?_append hexponent hends⟩

/-- A numeral without a sign begins with a digit. -/
theorem Unsigned.eq_cons (h : Unsigned n cs rest) : ∃ d ds, cs = d :: ds ∧ d.isDigit = true := by
  obtain ⟨afterWhole, afterFraction, hwhole, -, -⟩ := h
  obtain ⟨rfl, hne, hdigits⟩ := eq_of_whole? hwhole
  obtain ⟨d, ds, hds⟩ := List.exists_cons_of_ne_nil hne
  exact ⟨d, ds ++ afterWhole, by rw [hds, List.cons_append], hdigits d (hds ▸ List.mem_cons_self)⟩

/-- Without fraction and exponent, there are only digits. -/
theorem Unsigned.digits (h : Unsigned n cs []) (hfraction : n.fraction = none)
    (hexponent : n.exponent = none) : ∀ c ∈ cs, c.isDigit = true := by
  obtain ⟨afterWhole, afterFraction, hwhole, hafter, hend⟩ := h
  rw [hfraction] at hafter
  rw [hexponent] at hend
  obtain ⟨rfl, -, hdigits⟩ := eq_of_whole? hwhole
  rwa [← eq_of_fraction?_none hafter, ← eq_of_exponent?_none hend, List.append_nil]

/-- Reads a numeral behind its sign. -/
def readUnsigned? (negative : Bool) (cs : List Char) : Option (Numeral × List Char) := do
  let (whole, cs) ← whole? cs
  let (fraction, cs) ← fraction? cs
  let (exponent, cs) ← exponent? cs
  return ({ negative, whole, fraction, exponent }, cs)

/-- The reader comes to a numeral exactly if the text in front has its form. -/
theorem readUnsigned?_eq_some_iff {negative : Bool} :
    readUnsigned? negative cs = some (n, rest) ↔ n.negative = negative ∧ Unsigned n cs rest := by
  simp only [readUnsigned?, Unsigned, Option.bind_eq_bind, Option.bind_eq_some_iff, Prod.exists,
    Option.pure_def]
  constructor
  · rintro ⟨whole, afterWhole, hwhole, fraction, afterFraction, hfraction, exponent, afterExponent,
      hexponent, ⟨⟩⟩
    exact ⟨rfl, afterWhole, afterFraction, hwhole, hfraction, hexponent⟩
  · rintro ⟨rfl, afterWhole, afterFraction, hwhole, hfraction, hexponent⟩
    exact ⟨_, _, hwhole, _, _, hfraction, _, _, hexponent, rfl⟩

theorem read?_minus : read? ('-' :: cs) = readUnsigned? true cs := rfl

/-- Without a minus in front, the whole text stands for the numeral. -/
theorem read?_of_ne_minus (hcs : ∀ tail, cs ≠ '-' :: tail) : read? cs = readUnsigned? false cs := by
  unfold read?
  split
  next hsign =>
    split at hsign
    · exact absurd rfl (hcs _)
    · cases hsign
      rfl

/-- A numeral is read behind its minus sign or from its first digit on. -/
theorem read?_eq_some_iff :
    read? cs = some (n, rest) ↔
      (n.negative = true ∧ ∃ body, cs = '-' :: body ∧ Unsigned n body rest) ∨
        (n.negative = false ∧ Unsigned n cs rest) := by
  by_cases hminus : ∃ body, cs = '-' :: body
  · obtain ⟨body, rfl⟩ := hminus
    rw [read?_minus, readUnsigned?_eq_some_iff]
    constructor
    · exact fun ⟨hnegative, hbody⟩ => .inl ⟨hnegative, body, rfl, hbody⟩
    · rintro (⟨hnegative, body', ⟨⟩, hbody⟩ | ⟨-, hbody⟩)
      · exact ⟨hnegative, hbody⟩
      · -- A sign is no digit.
        obtain ⟨d, ds, hds, hdigit⟩ := hbody.eq_cons
        rw [← (List.cons.inj hds).1] at hdigit
        exact absurd hdigit (by decide)
  · rw [read?_of_ne_minus fun tail h => hminus ⟨tail, h⟩, readUnsigned?_eq_some_iff]
    constructor
    · exact .inr
    · rintro (⟨-, body, hcs, -⟩ | h)
      · exact absurd ⟨body, hcs⟩ hminus
      · exact h

/-- What the reader makes of a whole text, it makes of that text in front of another. -/
theorem read?_append (h : read? cs = some (n, rest)) (hends : Ends behind) :
    read? (cs ++ behind) = some (n, rest ++ behind) := by
  rw [read?_eq_some_iff] at h ⊢
  rcases h with ⟨hnegative, body, rfl, hbody⟩ | ⟨hnegative, hbody⟩
  · exact .inl ⟨hnegative, body ++ behind, rfl, hbody.append hends⟩
  · exact .inr ⟨hnegative, hbody.append hends⟩

/-- A numeral starts with its sign or a digit. -/
theorem eq_cons_of_read? (h : read? cs = some (n, rest)) :
    ∃ c more, cs = c :: more ∧ (c = '-' ∨ c.isDigit = true) := by
  rcases read?_eq_some_iff.mp h with ⟨-, body, rfl, -⟩ | ⟨-, hbody⟩
  · exact ⟨'-', body, rfl, .inl rfl⟩
  · obtain ⟨d, ds, hds, hdigit⟩ := hbody.eq_cons
    exact ⟨d, ds, hds, .inr hdigit⟩

/-- A numeral without fraction and exponent is written with its sign and digits. -/
theorem digits_of_read? (h : read? cs = some (n, [])) (hfraction : n.fraction = none)
    (hexponent : n.exponent = none) : ∀ c ∈ cs, c = '-' ∨ c.isDigit = true := by
  rcases read?_eq_some_iff.mp h with ⟨-, body, rfl, hbody⟩ | ⟨-, hbody⟩
  · refine List.forall_mem_cons.mpr ⟨.inl rfl, fun c hc => .inr ?_⟩
    exact hbody.digits hfraction hexponent c hc
  · exact fun c hc => .inr (hbody.digits hfraction hexponent c hc)

/-- The digits that are written for a number are read as such to the last. -/
theorem whole?_plain (hds : Plain ds) : whole? ds = some (ds, []) := by
  unfold whole?
  split
  · next tail =>
      rw [hds.leading rfl, (List.cons.inj (hds.leading rfl)).2]
  · have htake : ds.takeWhile Char.isDigit = ds := List.takeWhile_eq_self_iff.mpr hds.digits
    have hdrop : ds.dropWhile Char.isDigit = [] := List.dropWhile_eq_nil_iff.mpr hds.digits
    rw [digits?, htake, hdrop]
    exact if_neg fun h => hds.nonempty (List.isEmpty_iff.mp h)

theorem unsigned_plain {negative : Bool} (hds : Plain ds) :
    Unsigned ⟨negative, ds, none, none⟩ ds [] :=
  ⟨[], [], whole?_plain hds, rfl, rfl⟩

/-- The text of an integer that 64 bits hold, signed or unsigned, is read as that integer. -/
theorem exists_of_toString {i : Int} (hlow : -(Nat.pow 2 63 : Int) ≤ i)
    (hhigh : i < (Nat.pow 2 64 : Int)) :
    ∃ n, read? (toString i).toList = some (n, []) ∧ n.value = .int i := by
  generalize hcs : (toString i).toList = cs
  cases spelled_iff.mpr hcs.symm with
  | nonneg hds =>
      refine ⟨⟨false, cs, none, none⟩, ?_, ?_⟩
      · exact read?_eq_some_iff.mpr (.inr ⟨rfl, unsigned_plain hds⟩)
      · have hlt : ofDigits cs < Nat.pow 2 64 := Int.ofNat_lt.mp hhigh
        simp only [value, Option.isSome_none, Bool.or_false, Bool.false_eq_true, if_false,
          if_pos hlt]
  | @neg ds hds hzero =>
      refine ⟨⟨true, ds, none, none⟩, ?_, ?_⟩
      · exact read?_eq_some_iff.mpr (.inl ⟨rfl, ds, rfl, unsigned_plain hds⟩)
      · have hfits : ¬ (ofDigits ds = 0 ∨ Nat.pow 2 63 < ofDigits ds) := by
          have := Number.ofDigits_ne_zero hds hzero
          omega
        simp only [value, Option.isSome_none, Bool.or_false, Bool.false_eq_true, if_false, if_true,
          if_neg hfits]

/-- The text of a double is a numeral that stands for that double. -/
def ReadsBack (x : Binary64) : Prop :=
  ∃ n, read? (FloatFormat.json.render x).toList = some (n, []) ∧ n.toFloat? = some x

/-- A number that is written out has a point. -/
theorem mem_positionalText (digits : String) (exponent : Int) :
    '.' ∈ (Number.positionalText ".0" digits exponent).toList := by
  unfold Number.positionalText
  dsimp only
  split_ifs
  all_goals simp only [String.toList_append, List.mem_append]
  · exact .inr (by decide)
  · exact .inl (.inr (by decide))
  · exact .inl (.inl (by decide))

/-- A number in scientific form has the letter of its exponent. -/
theorem mem_exponentText (digits : String) (order : Int) :
    'e' ∈ (Number.exponentText digits order).toList := by
  simp only [Number.exponentText, String.toList_append, List.mem_append]
  exact .inl (.inl (.inr (by decide)))

/-- What is finite has a sign, a mantissa and an exponent. -/
theorem exists_kind_eq_finite {x : Binary64} (hx : x.isFinite = true) :
    ∃ m q, x.kind = .finite m q := by
  have hfield : x.exponentField ≠ 2047 := of_decide_eq_true hx
  unfold Binary64.kind
  rw [if_neg hfield]
  split_ifs <;> exact ⟨_, _, rfl⟩

/-- The text of a finite double has a point or an exponent. -/
theorem exists_mem_render {x : Binary64} (hx : x.isFinite = true) :
    ∃ c ∈ (FloatFormat.json.render x).toList, c = '.' ∨ c = 'e' := by
  obtain ⟨m, q, hkind⟩ := exists_kind_eq_finite hx
  have hmagnitude : ∀ (positional : Bool) (digits : String) (exponent order : Int),
      ∃ c ∈ (if positional = true then Number.positionalText ".0" digits exponent
        else Number.exponentText digits order).toList, c = '.' ∨ c = 'e' := by
    intro positional digits exponent order
    cases positional with
    | true => exact ⟨'.', mem_positionalText digits exponent, .inl rfl⟩
    | false => exact ⟨'e', mem_exponentText digits order, .inr rfl⟩
  unfold FloatFormat.render
  rw [hkind]
  dsimp only [FloatFormat.json]
  rw [String.toList_append]
  obtain ⟨c, hc, htelling⟩ := hmagnitude _ _ _ _
  exact ⟨c, List.mem_append_right _ hc, htelling⟩

/-- A finite double that is read back is read as a double, and not as an integer. -/
theorem ReadsBack.exists {x : Binary64} (h : ReadsBack x) (hx : x.isFinite = true) :
    ∃ n, read? (FloatFormat.json.render x).toList = some (n, []) ∧ n.value = .float x := by
  obtain ⟨n, hread, hfloat⟩ := h
  refine ⟨n, hread, ?_⟩
  have hmarked : (n.fraction.isSome || n.exponent.isSome) = true := by
    by_contra hnone
    obtain ⟨hfraction, hexponent⟩ := Bool.or_eq_false_iff.mp (Bool.eq_false_iff.mpr hnone)
    obtain ⟨c, hc, htelling⟩ := exists_mem_render hx
    have hplain := digits_of_read? hread
      (Option.not_isSome_iff_eq_none.mp (by rw [hfraction]; decide))
      (Option.not_isSome_iff_eq_none.mp (by rw [hexponent]; decide)) c hc
    rcases htelling with rfl | rfl <;> exact absurd hplain (by decide)
  rw [value, hfloat]
  exact if_pos hmarked

end Numeral

end SlotQuery.Json
