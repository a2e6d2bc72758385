import SlotQuery.Proofs.Text.Search
import SlotQuery.Template.Prepared
import SlotQuery.Template.Secured

/-!
# Whether a secured cell is lifted out whole

A secured cell is a text between the markers of the template, and lifting is meant to get that
text back.  The leftmost closing marker decides whether it does: `Markers.ClosesAtEnd` says that
there is none before the end of the wrapped text.  The check for tokens that `secured` makes is
about the text alone and does not see the markers beside it, so it neither implies this nor
follows from it.

* `extract_wrap_iff`: a wrapped text comes back exactly if the closing marker closes at the end
  and no marker is part of the placeholder.
* `lifted_secured_iff`: the same of every cell that a statement binds.
-/

namespace SlotQuery

open Text

namespace Markers

theorem Usable.opening_ne_nil {m : Markers} (hm : m.Usable) : m.opening.toList ≠ [] :=
  fun h => hm.1 (String.toList_eq_nil_iff.mp h)

theorem Usable.closing_ne_nil {m : Markers} (hm : m.Usable) : m.closing.toList ≠ [] :=
  fun h => hm.2.1 (String.toList_eq_nil_iff.mp h)

/-- The closing marker stands at the end of the wrapped text and nowhere before. -/
def ClosesAtEnd (m : Markers) (inner : String) : Prop :=
  ∀ before after, (m.wrap inner).toList = before ++ m.closing.toList ++ after → after = []

theorem toList_wrap (m : Markers) (inner : String) :
    (m.wrap inner).toList = m.opening.toList ++ inner.toList ++ m.closing.toList := by
  rw [wrap, String.toList_append, String.toList_append]

/-- The closing marker closes at the end exactly if it is not found before. -/
theorem closesAtEnd_iff {m : Markers} {inner : String} :
    m.ClosesAtEnd inner ↔
      cut? m.closing.toList (m.wrap inner).toList =
        some (m.opening.toList ++ inner.toList, []) := by
  rw [cut?_eq_some_iff, toList_wrap, List.append_nil]
  constructor
  · intro h
    refine ⟨rfl, fun b r hb => ?_⟩
    have hr : r = [] := h b r (by rw [toList_wrap, hb])
    have hlength := congrArg List.length hb
    rw [hr, List.append_nil] at hlength
    simp only [List.length_append] at hlength ⊢
    omega
  · rintro ⟨-, hfirst⟩ b r hb
    rw [toList_wrap] at hb
    have hle := hfirst b r hb
    have hlength := congrArg List.length hb
    simp only [List.length_append] at hlength hle
    exact List.eq_nil_of_length_eq_zero (by omega)

instance (m : Markers) (inner : String) : Decidable (m.ClosesAtEnd inner) :=
  decidable_of_iff _ closesAtEnd_iff.symm

/-- A token that holds something is part of a text of one letter only if it is that text. -/
theorem tokenIn_placeholder_iff {m : Markers} (hm : m.Usable) :
    m.tokenIn Template.placeholder = false ↔
      m.opening ≠ Template.placeholder ∧ m.closing ≠ Template.placeholder := by
  have hone : ∀ token : String, token ≠ "" →
      (occursIn token.toList Template.placeholder.toList = false ↔
        token ≠ Template.placeholder) := by
    intro token htoken
    have hplaceholder : Template.placeholder.toList = ['?'] := rfl
    have hsame : token.toList = ['?'] ↔ token = Template.placeholder := by
      rw [← hplaceholder, String.toList_inj]
    have hne : token.toList ≠ [] := fun h => htoken (String.toList_inj.mp h)
    rw [occursIn_eq_false_iff, hplaceholder, List.infix_singleton_iff, not_or]
    exact (and_iff_right hne).trans (not_congr hsame)
  rw [tokenIn, Bool.or_eq_false_iff, hone m.opening hm.1, hone m.closing hm.2.1]

end Markers

namespace Template

/-- The first thing that lifting sees in a wrapped text is decided by its closing marker. -/
theorem Sight.of_wrap {m : Markers} {inner : String} {before after : List Char}
    (hcut : cut? m.closing.toList (m.wrap inner).toList = some (before, after)) :
    Sight.of m.opening.toList m.closing.toList (m.wrap inner).toList =
      if m.opening.toList.length ≤ before.length then
        .pair [] (before.drop m.opening.toList.length) after
      else .unmatched .opening 0 := by
  have hopening : cut? m.opening.toList (m.wrap inner).toList =
      some ([], inner.toList ++ m.closing.toList) := by
    rw [m.toList_wrap, List.append_assoc, cut?_append_self]
  simp only [Sight.of, hopening, hcut, List.length_nil, Nat.zero_add, Nat.not_lt_zero, if_false,
    width_nil]

/-- A step of lifting, as long as there is fuel. -/
theorem Run.of_succ (opening closing placeholder text : List Char) (fuel : Nat) :
    Run.of opening closing placeholder (fuel + 1) none text =
      match Sight.of opening closing text with
      | .nothing => ⟨text, [], .done⟩
      | .unmatched side offset => ⟨text, [], .unmatched side offset⟩
      | .pair before literal after =>
        let rest := Run.of opening closing placeholder fuel none (before ++ placeholder ++ after)
        { rest with lifted := ⟨width before, String.ofList literal⟩ :: rest.lifted } := by
  rw [Run.of]
  · rfl
  · exact fun h => nomatch h

/-- Where no marker is in sight, the run is done. -/
theorem Run.of_nothing {opening closing mark text : List Char} (fuel : Nat)
    (h : Sight.of opening closing text = .nothing) :
    Run.of opening closing mark fuel none text = ⟨text, [], .done⟩ := by
  cases fuel with
  | zero =>
      rw [Run.of, h]
      intro hlimit
      cases hlimit
  | succ fuel => rw [Run.of_succ, h]

/-- Where a marker is unmatched, the run stops with it. -/
theorem Run.of_unmatched {opening closing mark text : List Char} {side : Side} {offset : Nat}
    (fuel : Nat) (h : Sight.of opening closing text = .unmatched side offset) :
    Run.of opening closing mark fuel none text = ⟨text, [], .unmatched side offset⟩ := by
  cases fuel with
  | zero =>
      rw [Run.of, h]
      intro hlimit
      cases hlimit
  | succ fuel => rw [Run.of_succ, h]

/-- Where no token occurs, lifting ends at once. -/
theorem Run.of_tokenless {opening closing text : List Char} (hopening : ¬ opening <:+: text)
    (hclosing : ¬ closing <:+: text) (placeholder : List Char) (fuel : Nat) :
    Run.of opening closing placeholder fuel none text = ⟨text, [], .done⟩ := by
  refine Run.of_nothing fuel ?_
  rw [Sight.of, cut?_eq_none_iff.mpr hopening, cut?_eq_none_iff.mpr hclosing]

/-- A text without tokens has neither marker in it. -/
theorem not_infix_of_tokenIn {m : Markers} {text : String} (h : m.tokenIn text = false) :
    ¬ m.opening.toList <:+: text.toList ∧ ¬ m.closing.toList <:+: text.toList := by
  obtain ⟨hopening, hclosing⟩ := Bool.or_eq_false_iff.mp h
  exact ⟨occursIn_eq_false_iff.mp hopening, occursIn_eq_false_iff.mp hclosing⟩

/-- A wrapped text has characters. -/
theorem length_wrap_ne_zero {m : Markers} (hm : m.Usable) (inner : String) :
    (m.wrap inner).length ≠ 0 := by
  rw [← String.length_toList, m.toList_wrap]
  simp [hm.opening_ne_nil]

/-- A wrapped text has its closing marker somewhere. -/
theorem exists_cut?_wrap (m : Markers) (inner : String) :
    ∃ before after, cut? m.closing.toList (m.wrap inner).toList = some (before, after) := by
  cases hcut : cut? m.closing.toList (m.wrap inner).toList with
  | some found => exact ⟨found.1, found.2, rfl⟩
  | none =>
      refine absurd ?_ (cut?_eq_none_iff.mp hcut)
      rw [m.toList_wrap]
      exact (List.suffix_append _ _).isInfix

/-- What a run of lifting comes to if markers without a partner fail it. -/
def Run.strictly (run : Run) : Except Error Extraction :=
  match run.stop with
  | .unmatched side offset => .error (.unmatched side offset)
  | _ => .ok ⟨String.ofList run.text, run.lifted⟩

/-- What comes of a run of lifting, for markers and a placeholder that can be used. -/
theorem extract_eq {m : Markers} (hm : m.Usable) {mark : String} (hmark : m.tokenIn mark = false)
    (strict : Bool) (limit : Option Nat) (text : String) :
    extract m mark strict limit text =
      let run := Run.of m.opening.toList m.closing.toList mark.toList text.length limit text.toList
      if strict then run.strictly else .ok ⟨String.ofList run.text, run.lifted⟩ := by
  rw [extract, if_neg (not_not.mpr hm), hmark, if_neg Bool.false_ne_true]
  rcases Run.of m.opening.toList m.closing.toList mark.toList text.length limit text.toList with
    ⟨final, vs, stop⟩
  cases strict <;> cases stop <;> rfl

/-- Strict lifting of a text is its run, which has to come to a proper end. -/
theorem extract_strict {m : Markers} (hm : m.Usable) {mark : String}
    (hmark : m.tokenIn mark = false) (text : String) :
    extract m mark true none text =
      (Run.of m.opening.toList m.closing.toList mark.toList text.length none
        text.toList).strictly := by
  rw [extract_eq hm hmark]
  rfl

/-- A strict run that succeeds gives the run itself, which has met no unmatched marker. -/
theorem Run.of_strictly_eq_ok {run : Run} {e : Extraction} (h : run.strictly = .ok e) :
    e = ⟨String.ofList run.text, run.lifted⟩ ∧
      ∀ side offset, run.stop ≠ .unmatched side offset := by
  unfold Run.strictly at h
  cases hstop : run.stop with
  | unmatched side offset =>
      rw [hstop] at h
      cases h
  | done | limit | outOfFuel =>
      rw [hstop] at h
      exact ⟨(Except.ok.inj h).symm, fun side offset hunmatched => nomatch hunmatched⟩

theorem Run.lifted_of_strictly {run : Run} {e : Extraction} (h : run.strictly = .ok e) :
    run.lifted = e.lifted := by
  rw [(Run.of_strictly_eq_ok h).1]

/-- A wrapped text comes back whole exactly if its closing marker closes at the end, and no
marker is part of the placeholder that takes its place. -/
theorem extract_wrap_iff {m : Markers} (hm : m.Usable) (mark inner : String) :
    extract m mark true none (m.wrap inner) = .ok ⟨mark, [⟨0, inner⟩]⟩ ↔
      m.tokenIn mark = false ∧ m.ClosesAtEnd inner := by
  cases htoken : m.tokenIn mark with
  | true => simp [extract, hm, htoken]
  | false =>
      obtain ⟨hopening, hclosing⟩ := not_infix_of_tokenIn htoken
      obtain ⟨fuel, hfuel⟩ := Nat.exists_eq_succ_of_ne_zero (length_wrap_ne_zero hm inner)
      obtain ⟨before, after, hcut⟩ := exists_cut?_wrap m inner
      rw [extract_strict hm htoken, hfuel, Run.of_succ, Sight.of_wrap hcut, Markers.closesAtEnd_iff,
        hcut]
      by_cases hle : m.opening.toList.length ≤ before.length
      · rw [if_pos hle]
        constructor
        · intro h
          refine ⟨rfl, ?_⟩
          -- The literal is `inner`, so the closing marker that was found is the one at the end.
          have hliteral := (Lifted.mk.inj (List.cons.inj (Run.lifted_of_strictly h)).1).2
          have hlength := congrArg String.length hliteral
          rw [← String.length_toList, ← String.length_toList, String.toList_ofList,
            List.length_drop] at hlength
          have hbefore : before.length = (m.opening.toList ++ inner.toList).length := by
            rw [List.length_append]
            omega
          have hboth := eq_of_cut? hcut
          rw [m.toList_wrap, List.append_assoc before] at hboth
          obtain ⟨hfront, hback⟩ := List.append_inj hboth hbefore.symm
          have hafter : after = [] := by simpa using hback
          rw [hfront, hafter]
        · rintro ⟨-, h⟩
          obtain ⟨rfl, rfl⟩ := Prod.mk.inj (Option.some.inj h)
          simp only [List.nil_append, List.append_nil, List.drop_left, width_nil,
            Run.of_tokenless hopening hclosing, Run.strictly, String.ofList_toList]
      · rw [if_neg hle]
        constructor
        · intro h
          cases h
        · rintro ⟨-, h⟩
          obtain ⟨rfl, -⟩ := Prod.mk.inj (Option.some.inj h)
          exact absurd (by simp) hle

/-- The text of a cell that a statement binds; nulls, bytes and trusted statement text are written
into the statement as they are. -/
def boundText? (s : Settings) : Cell → Option String
  | .null => none
  | .int i => some (Number.decimal i)
  | .float x => some (Number.floatText x)
  | .bool b => some (bitText b)
  | .blob _ => none
  | .text t => if (s.rawFragment.enclosed? t).isSome then none else some t

/-- What is secured of a text that is bound is the wrapped text. -/
theorem secured_of_boundText {s : Settings} {v : Cell} {inner t : String}
    (hinner : boundText? s v = some inner) (ht : secured s v = .ok t) :
    t = s.delimiters.wrap inner := by
  cases v with
  | null | blob => cases hinner
  | int | float | bool =>
      rw [← Option.some.inj hinner]
      exact (Except.ok.inj ht).symm
  | text text =>
      unfold boundText? at hinner
      unfold secured at ht
      dsimp only at hinner ht
      cases hraw : s.rawFragment.enclosed? text with
      | some raw =>
          rw [hraw] at hinner
          cases hinner
      | none =>
          rw [hraw] at hinner ht
          have hsame : text = inner := Option.some.inj hinner
          cases htoken : s.delimiters.tokenIn text with
          | true =>
              rw [htoken] at ht
              cases ht
          | false =>
              rw [htoken] at ht
              rw [← hsame]
              exact (Except.ok.inj ht).symm

/-- What is known of a cell that passes the check: it is lifted out whole, as the only literal of
its text and in front, exactly if its closing marker closes at the end and no marker is the
placeholder. -/
theorem lifted_secured_iff {s : Settings} (hs : s.delimiters.Usable) {v : Cell} {inner t : String}
    (hinner : boundText? s v = some inner) (ht : secured s v = .ok t) :
    extract s.delimiters placeholder true none t = .ok ⟨placeholder, [⟨0, inner⟩]⟩ ↔
      s.delimiters.opening ≠ placeholder ∧ s.delimiters.closing ≠ placeholder ∧
        s.delimiters.ClosesAtEnd inner := by
  rw [secured_of_boundText hinner ht, extract_wrap_iff hs, Markers.tokenIn_placeholder_iff hs,
    and_assoc]

/-- A text with a quote, a comment mark and a placeholder. -/
theorem lifted_secured_iff_of_quotes :
    Settings.builtin.delimiters.Usable ∧
      boundText? .builtin (.text "it's 5 > 4 -- ?") = some "it's 5 > 4 -- ?" ∧
      extract Settings.builtin.delimiters placeholder true none "<%it's 5 > 4 -- ?%>" =
        .ok ⟨placeholder, [⟨0, "it's 5 > 4 -- ?"⟩]⟩ := by
  have husable : Settings.builtin.delimiters.Usable := by decide
  refine ⟨husable, rfl, ?_⟩
  have hsecured : secured .builtin (.text "it's 5 > 4 -- ?") = .ok "<%it's 5 > 4 -- ?%>" := rfl
  exact (lifted_secured_iff husable (v := .text "it's 5 > 4 -- ?") rfl hsecured).mpr (by decide)

/-- With the markers nobody has changed, a `>` in front makes a closing marker out of the end of the
opening one.  Such a text passes the check all the same. -/
example : secured .builtin (.text ">") = .ok "<%>%>" ∧
    extract Settings.builtin.delimiters placeholder true none "<%>%>" =
      .error (.unmatched .opening 0) := by
  decide

end Template

end SlotQuery
