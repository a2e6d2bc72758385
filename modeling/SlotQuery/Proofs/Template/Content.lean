import SlotQuery.Proofs.Template.Quoting

/-!
# What quoted runs say

A quoted run is one way to write a stretch of bytes: two quotes in it stand for one, and a backslash
stands for nothing but makes an ordinary byte of the one behind it, except between backticks.
`contentOf?` reads a run back, and takes it for complete only if it ends where its closing quote
does.

* `splitQuoted_of_content`: whatever is read back is a run of its own, wherever it stands.
* `contentOf?_doubled`: doubling the quotes is the way to write what has no backslash in it.
* `count_backslash_content`: it is no way to write a backslash, since a run has to hold two for each
  that it says.
* `splitQuoted_doubled_iff`: with backslashes in it, the run may not even end where it is meant to.
-/

namespace SlotQuery.Template

open Text

/-- What a run says, read from behind its opening quote.  A run that ends before its last byte, or
not at all, says nothing. -/
def contentOf? (quote : UInt8) : List UInt8 → Option (List UInt8)
  | [] => none
  | [b] => if b = quote then some [] else none
  | b :: c :: rest =>
    if b = 92 ∧ quote ≠ 96 then (contentOf? quote rest).map (c :: ·)
    else if b = quote then
      if c = quote then (contentOf? quote rest).map (quote :: ·) else none
    else (contentOf? quote (c :: rest)).map (b :: ·)

variable {q b : UInt8} {bs content run rest : List UInt8}

/-- A doubled quote stands for one quote. -/
theorem contentOf?_double (hq : q ≠ 92) (rest : List UInt8) :
    contentOf? q (q :: q :: rest) = (contentOf? q rest).map (q :: ·) := by
  have hescape : ¬ (q = 92 ∧ q ≠ 96) := fun h => hq h.1
  exact (if_neg hescape).trans ((if_pos rfl).trans (if_pos rfl))

/-- A byte that is neither the quote nor an escape stands for itself. -/
theorem contentOf?_cons (hb : b ≠ q) (hslash : q = 96 ∨ b ≠ 92) (rest : List UInt8) :
    contentOf? q (b :: rest) = (contentOf? q rest).map (b :: ·) := by
  have hescape : ¬ (b = 92 ∧ q ≠ 96) := by
    intro h
    exact hslash.elim h.2 fun hne => hne h.1
  cases rest with
  | nil => exact if_neg hb
  | cons c rest => exact (if_neg hescape).trans (if_neg hb)

/-- What is read back as a run is split off as one, whatever follows that is not its quote. -/
theorem splitQuoted_of_content (hq : q ≠ 92) (h : contentOf? q run = some content)
    (hrest : rest.head? ≠ some q) : splitQuoted q (run ++ rest) = (run, rest) := by
  fun_induction contentOf? q run generalizing content with
  | case1 => cases h
  | case2 => exact splitQuoted_end hq hrest
  | case3 => cases h
  | case4 b c run hescape ih =>
      obtain ⟨inner, hinner, -⟩ := Option.map_eq_some_iff.mp h
      obtain ⟨rfl, hne⟩ := hescape
      rw [List.cons_append, List.cons_append, splitQuoted_escape hne, ih hinner]
  | case5 run _ ih =>
      obtain ⟨inner, hinner, -⟩ := Option.map_eq_some_iff.mp h
      rw [List.cons_append, List.cons_append, splitQuoted_double hq, ih hinner]
  | case6 => cases h
  | case7 b c run hescape hb ih =>
      obtain ⟨inner, hinner, -⟩ := Option.map_eq_some_iff.mp h
      have hslash : q = 96 ∨ b ≠ 92 := by
        by_cases hquote : q = 96
        · exact .inl hquote
        · exact .inr fun hb => hescape ⟨hb, hquote⟩
      rw [List.cons_append, splitQuoted_cons hb hslash, ih hinner]

/-- What has its quotes doubled, and no backslash where that would mean something, is read back. -/
theorem contentOf?_replaceAll (hq : q ≠ 92) (h : q = 96 ∨ (92 : UInt8) ∉ bs) :
    contentOf? q (replaceAll q [q, q] bs ++ [q]) = some bs := by
  induction bs with
  | nil => exact if_pos rfl
  | cons b bs ih =>
      have hbs : q = 96 ∨ (92 : UInt8) ∉ bs := h.imp_right fun h hmem => h (.tail b hmem)
      rw [replaceAll_cons]
      by_cases hb : b = q
      · subst hb
        rw [if_pos rfl, List.append_assoc]
        show contentOf? b (b :: b :: (replaceAll b [b, b] bs ++ [b])) = _
        rw [contentOf?_double hq, ih hbs, Option.map_some]
      · have hslash : q = 96 ∨ b ≠ 92 := h.imp_right fun h hb => h (hb ▸ List.mem_cons_self)
        rw [if_neg hb, List.singleton_append, List.cons_append, contentOf?_cons hb hslash, ih hbs,
          Option.map_some]

theorem contentOf?_doubled (h : (92 : UInt8) ∉ bs) :
    contentOf? 39 (doubled bs ++ [39]) = some bs :=
  contentOf?_replaceAll (by decide) (.inr h)

/-- A run holds two backslashes for each that it says, and one for every other escape. -/
theorem count_backslash_content (hq : q ≠ 92) (hback : q ≠ 96)
    (h : contentOf? q run = some content) :
    2 * content.count 92 ≤ run.count 92 := by
  fun_induction contentOf? q run generalizing content with
  | case1 => cases h
  | case2 =>
      rw [← Option.some.inj h]
      exact Nat.zero_le _
  | case3 => cases h
  | case4 b c run hescape ih =>
      obtain ⟨inner, hinner, rfl⟩ := Option.map_eq_some_iff.mp h
      have hrest := ih hinner
      rw [hescape.1]
      simp only [List.count_cons]
      split <;> simp <;> omega
  | case5 run _ ih =>
      obtain ⟨inner, hinner, rfl⟩ := Option.map_eq_some_iff.mp h
      have hrest := ih hinner
      rw [List.count_cons_of_ne hq, List.count_cons_of_ne hq, List.count_cons_of_ne hq]
      exact hrest
  | case6 => cases h
  | case7 b c run hescape hb ih =>
      obtain ⟨inner, hinner, rfl⟩ := Option.map_eq_some_iff.mp h
      have hslash : b ≠ 92 := fun hb => hescape ⟨hb, hback⟩
      rw [List.count_cons_of_ne hslash, List.count_cons_of_ne hslash]
      exact ih hinner

/-- Doubling quotes brings no backslashes. -/
theorem count_backslash_doubled (bs : List UInt8) : (doubled bs).count 92 = bs.count 92 := by
  induction bs with
  | nil => rfl
  | cons b bs ih =>
      by_cases hb : b = 39
      · subst hb
        rw [doubled_quote]
        simpa using ih
      · rw [doubled_cons hb, List.count_cons, List.count_cons, ih]

/-- A text is read back from behind its doubled quotes exactly if there is no backslash in it. -/
theorem contentOf?_doubled_iff :
    contentOf? 39 (doubled bs ++ [39]) = some bs ↔ (92 : UInt8) ∉ bs := by
  constructor
  · intro h
    have hcount := count_backslash_content (by decide) (by decide) h
    rw [List.count_append, count_backslash_doubled] at hcount
    have hnone : bs.count 92 = 0 := by
      have hlast : [(39 : UInt8)].count 92 = 0 := by decide
      omega
    exact List.count_eq_zero.mp hnone
  · exact contentOf?_doubled

/-- A quoted run takes at least one byte. -/
theorem length_splitQuoted_lt (h : bs ≠ []) : (splitQuoted q bs).2.length < bs.length := by
  have hlength := congrArg List.length (splitQuoted_append q bs)
  have hrun : 0 < (splitQuoted q bs).1.length := by
    unfold splitQuoted
    split
    · exact absurd rfl h
    · exact Nat.one_pos
    · split_ifs <;> exact Nat.succ_pos _
  rw [List.length_append] at hlength
  omega

/-- A quote too many ends the run early, or hides its end. -/
theorem splitQuoted_quote_doubled (hrest : rest ≠ []) :
    (splitQuoted 39 (39 :: (doubled bs ++ 39 :: rest))).2 ≠ rest := by
  induction bs with
  | nil =>
      rw [doubled_nil, List.nil_append, splitQuoted_double (by decide)]
      intro h
      have hlt := length_splitQuoted_lt (q := 39) hrest
      rw [h] at hlt
      exact Nat.lt_irrefl _ hlt
  | cons b bs ih =>
      by_cases hb : b = 39
      · subst hb
        rw [doubled_quote, List.cons_append, List.cons_append, splitQuoted_double (by decide)]
        exact ih
      · rw [doubled_cons hb, List.cons_append]
        have hend : (b :: (doubled bs ++ 39 :: rest)).head? ≠ some 39 :=
          fun h => hb (Option.some.inj h)
        rw [splitQuoted_end (by decide) hend]
        intro h
        have hlength := congrArg List.length h
        simp only [List.length_cons, List.length_append] at hlength
        omega

/-- The run ends where it is meant to exactly if no backslash takes a quote or the end. -/
theorem splitQuoted_doubled_iff (hrest : rest ≠ []) (hquote : rest.head? ≠ some 39) :
    (splitQuoted 39 (doubled bs ++ 39 :: rest)).2 = rest ↔ sparesQuotes bs = true := by
  constructor
  · intro h
    fun_induction sparesQuotes bs with
    | case1 => rfl
    | case2 =>
        rw [doubled_cons (by decide), doubled_nil, List.singleton_append,
          splitQuoted_escape (by decide)] at h
        have hlt := length_splitQuoted_lt (q := 39) hrest
        rw [h] at hlt
        exact absurd hlt (Nat.lt_irrefl _)
    | case3 c bs ih =>
        rw [doubled_cons (by decide)] at h
        by_cases hc : c = 39
        · subst hc
          rw [doubled_quote, List.cons_append, List.cons_append, List.cons_append,
            splitQuoted_escape (by decide)] at h
          exact absurd h (splitQuoted_quote_doubled hrest)
        · rw [doubled_cons hc, List.cons_append, List.cons_append,
            splitQuoted_escape (by decide)] at h
          rw [bne_iff_ne.mpr hc, Bool.true_and]
          exact ih h
    | case4 b bs hlast hescape ih =>
        by_cases hb : b = 39
        · subst hb
          rw [doubled_quote, List.cons_append, List.cons_append,
            splitQuoted_double (by decide)] at h
          exact ih h
        · rw [doubled_cons hb, List.cons_append,
            splitQuoted_cons hb (.inr (ne_backslash hlast hescape))] at h
          exact ih h
  · intro h
    have hsplit := splitQuoted_doubled h hquote
    rw [List.append_assoc, List.singleton_append] at hsplit
    rw [hsplit]

/-- Doubling quotes leaves the first byte where it is. -/
theorem head?_doubled_cons (b : UInt8) (bs : List UInt8) :
    (doubled (b :: bs)).head? = some b := by
  by_cases hb : b = 39
  · rw [hb, doubled_quote, List.head?_cons]
  · rw [doubled_cons hb, List.head?_cons]

/-- A quote that is written once stands in front of no doubled quotes. -/
theorem quote_ne_doubled (hrest : rest.head? ≠ some 39) (b : UInt8) (bs tail : List UInt8) :
    39 :: rest ≠ doubled (b :: bs) ++ tail := by
  intro h
  have hb : b = 39 := by
    have hhead := congrArg List.head? h
    rw [List.head?_append_of_ne_nil _ (doubled_ne_nil b bs), head?_doubled_cons] at hhead
    exact (Option.some.inj hhead).symm
  subst hb
  rw [doubled_quote] at h
  exact hrest (congrArg List.head? (List.cons.inj h).2)

/-- Without regard to backslashes, a text can be told from what follows its closing quote. -/
theorem doubled_append_inj {cs after : List UInt8} (hrest : rest.head? ≠ some 39)
    (hafter : after.head? ≠ some 39)
    (h : doubled bs ++ 39 :: rest = doubled cs ++ 39 :: after) : bs = cs := by
  induction bs generalizing cs with
  | nil =>
      cases cs with
      | nil => rfl
      | cons c cs => exact absurd h (quote_ne_doubled hrest c cs _)
  | cons b bs ih =>
      cases cs with
      | nil => exact absurd h.symm (quote_ne_doubled hafter b bs _)
      | cons c cs =>
          have hhead := congrArg List.head? h
          rw [List.head?_append_of_ne_nil _ (doubled_ne_nil b bs), head?_doubled_cons,
            List.head?_append_of_ne_nil _ (doubled_ne_nil c cs), head?_doubled_cons] at hhead
          obtain rfl := Option.some.inj hhead
          by_cases hb : b = 39
          · subst hb
            rw [doubled_quote, doubled_quote] at h
            rw [ih (List.cons.inj (List.cons.inj h).2).2]
          · rw [doubled_cons hb, doubled_cons hb] at h
            rw [ih (List.cons.inj h).2]

end SlotQuery.Template
