import Mathlib.Data.List.Infix
import SlotQuery.Text.Search

/-!
# Where a token is found

`cut?` looks from left to right and so finds the first of the places where its token stands.
Here this is said without the search: `cut?_eq_some_iff` and `cut?_eq_none_iff` give what it
finds in terms of the ways to take the sequence apart, and `occursIn_iff` what it means that a
token occurs.

A search goes past a front that neither has the token in it nor ends in a part of it
(`skips_of_apart`), and then finds what it finds behind (`Skips`).

Tokens of two different letters cannot overlap themselves.  For these, `pair_infix_append` says
where they can stand in two sequences put together, and `cut?_pair_append` that the first one in
front of which there is none is the one that is found.  Writing another letter twice makes no
difference to them (`pair_infix_double`).
-/

namespace SlotQuery.Text

variable {α : Type} [DecidableEq α]

/-- A token is not found exactly if it stands nowhere. -/
theorem cut?_eq_none_iff {token xs : List α} : cut? token xs = none ↔ ¬ token <:+: xs := by
  induction xs with
  | nil =>
      cases token with
      | nil => simp [cut?, afterPrefix?]
      | cons t ts => simp [cut?, afterPrefix?]
  | cons x xs ih =>
      rw [List.infix_cons_iff, not_or, ← ih]
      rw [cut?]
      cases hstart : afterPrefix? token (x :: xs) with
      | some rest =>
          have hstarts : token <+: x :: xs := ⟨rest, (afterPrefix?_eq_some.mp hstart).symm⟩
          simp [hstarts]
      | none =>
          have hstarts : ¬ token <+: x :: xs := by
            rintro ⟨rest, hrest⟩
            rw [afterPrefix?_eq_some.mpr hrest.symm] at hstart
            cases hstart
          simp [hstarts]

theorem occursIn_iff {token xs : List α} : occursIn token xs = true ↔ token <:+: xs := by
  rw [occursIn, Option.isSome_iff_ne_none, Ne, cut?_eq_none_iff, not_not]

theorem occursIn_eq_false_iff {token xs : List α} :
    occursIn token xs = false ↔ ¬ token <:+: xs := by
  rw [← occursIn_iff, Bool.not_eq_true]

/-- There is no place for the token in front of the one that is found. -/
theorem length_le_of_cut? {token xs before rest : List α} (h : cut? token xs = some (before, rest))
    {b r : List α} (hxs : xs = b ++ token ++ r) : before.length ≤ b.length := by
  induction xs generalizing before b with
  | nil =>
      have hfound := eq_of_cut? h
      have : before = [] := by
        simpa using (List.append_eq_nil_iff.mp (List.append_eq_nil_iff.mp hfound.symm).1).1
      rw [this]
      exact Nat.zero_le _
  | cons x xs ih =>
      unfold cut? at h
      cases hstart : afterPrefix? token (x :: xs) with
      | some after =>
          rw [hstart] at h
          obtain ⟨rfl, -⟩ := Prod.mk.inj (Option.some.inj h)
          exact Nat.zero_le _
      | none =>
          rw [hstart] at h
          obtain ⟨⟨before', rest'⟩, hcut, heq⟩ := Option.map_eq_some_iff.mp h
          obtain ⟨rfl, rfl⟩ := Prod.mk.inj heq
          cases b with
          | nil =>
              rw [List.nil_append] at hxs
              rw [afterPrefix?_eq_some.mpr hxs] at hstart
              cases hstart
          | cons y b =>
              obtain ⟨rfl, htail⟩ := List.cons.inj hxs
              exact Nat.succ_le_succ (ih hcut htail)

/-- What is found is the first place of the token. -/
theorem cut?_eq_some_iff {token xs before rest : List α} :
    cut? token xs = some (before, rest) ↔
      xs = before ++ token ++ rest ∧
        ∀ b r, xs = b ++ token ++ r → before.length ≤ b.length := by
  constructor
  · exact fun h => ⟨eq_of_cut? h, fun b r => length_le_of_cut? h⟩
  · rintro ⟨hxs, hfirst⟩
    cases hcut : cut? token xs with
    | none => exact absurd ⟨before, rest, hxs.symm⟩ (cut?_eq_none_iff.mp hcut)
    | some found =>
        obtain ⟨b, r⟩ := found
        have hfound := eq_of_cut? hcut
        have hlength : b.length = before.length :=
          Nat.le_antisymm (length_le_of_cut? hcut hxs) (hfirst b r hfound)
        have hboth : b ++ (token ++ r) = before ++ (token ++ rest) := by
          rw [← List.append_assoc, ← List.append_assoc, ← hfound, hxs]
        obtain ⟨rfl, htail⟩ := List.append_inj hboth hlength
        rw [List.append_cancel_left htail]

/-- A token that stands at the front is found there. -/
theorem cut?_append_self (token rest : List α) : cut? token (token ++ rest) = some ([], rest) := by
  rw [cut?_eq_some_iff]
  exact ⟨rfl, fun b r _ => Nat.zero_le _⟩

/-- Whatever follows the front, a search for the token goes on behind it. -/
def Skips (token front : List α) : Prop :=
  ∀ xs, cut? token (front ++ xs) =
    (cut? token xs).map fun (before, rest) => (front ++ before, rest)

theorem Skips.nil (token : List α) : Skips token [] := by
  intro xs
  rw [List.nil_append]
  cases cut? token xs with
  | none => rfl
  | some found => rfl

/-- What skips a token in two parts skips it as a whole. -/
theorem Skips.append {token front front' : List α} (h : Skips token front)
    (h' : Skips token front') : Skips token (front ++ front') := by
  intro xs
  rw [List.append_assoc, h, h', Option.map_map]
  cases cut? token xs with
  | none => rfl
  | some found =>
      obtain ⟨before, rest⟩ := found
      exact congrArg (fun b => some (b, rest)) (List.append_assoc front front' before).symm

omit [DecidableEq α] in
/-- A place of the token ends before letters that it does not share, or begins behind them. -/
theorem prefix_or_prefix_of_apart {token gap mark xs b r : List α} (htoken : token ≠ [])
    (hmark : mark ≠ []) (hapart : ∀ c ∈ mark, c ∉ token)
    (h : gap ++ (mark ++ xs) = b ++ (token ++ r)) : b ++ token <+: gap ∨ gap ++ mark <+: b := by
  obtain ⟨t, ts, rfl⟩ := List.exists_cons_of_ne_nil htoken
  obtain ⟨c, cs, rfl⟩ := List.exists_cons_of_ne_nil hmark
  rcases List.append_eq_append_iff.mp h with ⟨as, rfl, has⟩ | ⟨as, rfl, has⟩
  · -- The place begins behind the gap, so it has to begin behind the letters too.
    rcases List.append_eq_append_iff.mp has with ⟨bs, rfl, -⟩ | ⟨bs, hbs, hxs⟩
    · exact .inr ((List.prefix_append_right_inj gap).mpr (List.prefix_append _ bs))
    · cases bs with
      | nil =>
          rw [List.append_nil] at hbs
          exact .inr (by rw [hbs])
      | cons x bs =>
          obtain ⟨rfl, -⟩ := List.cons.inj hxs
          have hmem : t ∈ c :: cs := by
            rw [hbs]
            exact List.mem_append_right as List.mem_cons_self
          exact absurd List.mem_cons_self (hapart t hmem)
  · -- The place begins within the gap, so it has to end there.
    rcases List.append_eq_append_iff.mp has with ⟨bs, rfl, -⟩ | ⟨bs, hbs, hxs⟩
    · exact .inl ((List.prefix_append_right_inj b).mpr (List.prefix_append _ bs))
    · cases bs with
      | nil =>
          rw [List.append_nil] at hbs
          exact .inl (by rw [hbs])
      | cons x bs =>
          obtain ⟨rfl, -⟩ := List.cons.inj hxs
          have hmem : c ∈ t :: ts := by
            rw [hbs]
            exact List.mem_append_right as List.mem_cons_self
          exact absurd hmem (hapart c List.mem_cons_self)

/-- A search goes past letters that the token does not share, and past whatever stands before them
without the token in it. -/
theorem skips_of_apart {token gap mark : List α} (htoken : token ≠ []) (hmark : mark ≠ [])
    (hapart : ∀ c ∈ mark, c ∉ token) (hgap : ¬ token <:+: gap) : Skips token (gap ++ mark) := by
  have hbehind : ∀ {xs b r : List α}, gap ++ mark ++ xs = b ++ token ++ r →
      ∃ b', b = gap ++ mark ++ b' := by
    intro xs b r h
    rw [List.append_assoc, List.append_assoc] at h
    rcases prefix_or_prefix_of_apart htoken hmark hapart h with hin | ⟨b', hb'⟩
    · exact absurd ((List.suffix_append b token).isInfix.trans hin.isInfix) hgap
    · exact ⟨b', hb'.symm⟩
  intro xs
  cases hcut : cut? token xs with
  | none =>
      rw [Option.map_none, cut?_eq_none_iff]
      rintro ⟨b, r, hbr⟩
      obtain ⟨b', rfl⟩ := hbehind hbr.symm
      rw [List.append_assoc _ b', List.append_assoc _ _ r] at hbr
      exact cut?_eq_none_iff.mp hcut ⟨b', r, List.append_cancel_left hbr⟩
  | some found =>
      obtain ⟨before, rest⟩ := found
      obtain ⟨hxs, hfirst⟩ := cut?_eq_some_iff.mp hcut
      rw [Option.map_some, cut?_eq_some_iff]
      refine ⟨by rw [hxs]; simp only [List.append_assoc], fun b r hb => ?_⟩
      obtain ⟨b', rfl⟩ := hbehind hb
      rw [List.append_assoc _ b', List.append_assoc _ _ r] at hb
      have hle := hfirst b' r (List.append_cancel_left hb)
      simp only [List.length_append]
      omega

omit [DecidableEq α] in
/-- A token of two letters stands in one of two sequences, or across their border. -/
theorem pair_infix_append {a b : α} {xs ys : List α} :
    [a, b] <:+: xs ++ ys ↔
      [a, b] <:+: xs ∨ [a, b] <:+: ys ∨ (xs.getLast? = some a ∧ ys.head? = some b) := by
  induction xs with
  | nil => simp
  | cons x xs ih =>
      rw [List.cons_append, List.infix_cons_iff, ih, List.infix_cons_iff]
      cases xs with
      | nil =>
          cases ys with
          | nil => simp
          | cons y ys => simp [List.cons_prefix_cons, @eq_comm _ x a, @eq_comm _ y b, or_comm]
      | cons x' xs => simp [List.cons_prefix_cons, or_assoc]

/-- The first place of a token of two different letters is the one with none in front of it. -/
theorem cut?_pair_append {a b : α} (hab : a ≠ b) {before rest : List α}
    (hbefore : ¬ [a, b] <:+: before) :
    cut? [a, b] (before ++ a :: b :: rest) = some (before, rest) := by
  rw [cut?_eq_some_iff]
  refine ⟨by simp, fun p r hp => ?_⟩
  by_contra hlt
  rw [Nat.not_le] at hlt
  -- An earlier place lies in `before`, or reaches over its end by one letter.
  have hinfix : [a, b] <:+: before ++ [a] := by
    have htake := congrArg (List.take (p.length + 2)) hp
    have hleft : List.take (p.length + 2) (before ++ a :: b :: rest) <+: before ++ [a] := by
      have hsplit := List.append_cons before a (b :: rest)
      have hlength : p.length + 2 ≤ (before ++ [a]).length := by
        rw [List.length_append, List.length_singleton]
        omega
      rw [hsplit, List.take_append_of_le_length hlength]
      exact List.take_prefix _ _
    have hright : List.take (p.length + 2) (p ++ [a, b] ++ r) = p ++ [a, b] :=
      List.take_left' (List.length_append ..)
    rw [htake, hright] at hleft
    exact (List.infix_append' p [a, b] []).trans (by simpa using hleft.isInfix)
  rcases pair_infix_append.mp hinfix with h | h | ⟨-, h⟩
  · exact hbefore h
  · simpa using h.length_le
  · exact hab (Option.some.inj h)

theorem replaceAll_cons (x : α) (image : List α) (y : α) (ys : List α) :
    replaceAll x image (y :: ys) = (if y = x then image else [y]) ++ replaceAll x image ys :=
  List.flatMap_cons

theorem replaceAll_append (x : α) (image ys zs : List α) :
    replaceAll x image (ys ++ zs) = replaceAll x image ys ++ replaceAll x image zs :=
  List.flatMap_append

/-- Where the element does not occur, nothing is replaced. -/
theorem replaceAll_of_not_mem {x : α} {ys : List α} (h : x ∉ ys) (image : List α) :
    replaceAll x image ys = ys := by
  induction ys with
  | nil => rfl
  | cons y ys ih =>
      rw [List.mem_cons, not_or] at h
      rw [replaceAll_cons, if_neg (Ne.symm h.1), ih h.2, List.singleton_append]

/-- Doubling one element brings no other to the front. -/
theorem head?_double {b x : α} (hb : b ≠ x) {xs : List α} :
    (replaceAll x [x, x] xs).head? = some b ↔ xs.head? = some b := by
  cases xs with
  | nil => rfl
  | cons y ys =>
      rw [replaceAll_cons]
      by_cases hy : y = x
      · simp [hy, hb.symm]
      · simp [hy]

/-- Writing another letter twice makes no token of two letters, and breaks none. -/
theorem pair_infix_double {a b x : α} (ha : a ≠ x) (hb : b ≠ x) {xs : List α} :
    [a, b] <:+: replaceAll x [x, x] xs ↔ [a, b] <:+: xs := by
  induction xs with
  | nil => rfl
  | cons y ys ih =>
      have hcons : y :: ys = [y] ++ ys := rfl
      have hletter : ¬ [a, b] <:+: [y] := fun h => absurd h.length_le (by simp)
      rw [replaceAll_cons, hcons, pair_infix_append, pair_infix_append, ih, head?_double hb]
      by_cases hy : y = x
      · have hdouble : ¬ [a, b] <:+: [x, x] := by
          intro h
          have hmem : a ∈ [x, x] := h.subset (by simp)
          simp only [List.mem_cons, List.not_mem_nil, or_false, or_self] at hmem
          exact ha hmem
        rw [hy] at hletter
        simp [hy, hdouble, hletter, ha.symm]
      · simp [hy, hletter]

end SlotQuery.Text
