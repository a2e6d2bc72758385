import SlotQuery.Proofs.Template.Parts
import SlotQuery.Proofs.Template.Wrapped

/-!
# Lifting step by step, and back

Every step of lifting rewrites the text it searches, so a placeholder can come to stand beside
something that makes a new marker of it, and a later literal can have earlier placeholders inside.
`Lifting` is the run of these steps as a relation: which texts follow each other, and what is kept
of each step.  `Run.lifting` says that a run of lifting is one.

What is kept is enough to go back (`Lifting.putBack?`): the placeholder stands at the offset of the
newest literal, and putting that literal back between its markers gives the text of the step
before.  Nothing is needed of the markers for this.

It is the markers, and a placeholder without them, that make an end of lifting.  A closing marker
that is found reaches past the newest placeholder, since what stands before it has no opening
marker in it, so what is left behind the placeholder gets shorter with every step
(`Sight.shorter`).  Hence there are at most as many steps as the text has characters
(`Lifting.length_le`), and a run of lifting never ends for want of fuel (`Run.stop_ne_outOfFuel`).

`extract_invertible` puts this together for an extraction.
-/

namespace SlotQuery.Template

open Text

/-- Puts a literal back between its markers in the place of its placeholder. -/
def Lifted.putBack? (opening closing mark : List Char) (v : Lifted) (text : List Char) :
    Option (List Char) :=
  (around? mark v.offset text).map fun (before, after) =>
    before ++ opening ++ v.literal.toList ++ closing ++ after

/-- Puts literals back from the last to the first, and fails where one of them does not find its
placeholder. -/
def putBack? (opening closing mark : List Char) : List Lifted → List Char → Option (List Char)
  | [], text => some text
  | v :: vs, text =>
    (putBack? opening closing mark vs text).bind (v.putBack? opening closing mark)

/-- The text from which the literals of an extraction were lifted. -/
def Extraction.source? (m : Markers) (mark : String) (e : Extraction) : Option String :=
  (putBack? m.opening.toList m.closing.toList mark.toList e.lifted e.sql.toList).map String.ofList

/-- A pair that is seen is made of the first opening and the first closing marker. -/
theorem Sight.of_eq_pair {opening closing text before literal after : List Char}
    (h : Sight.of opening closing text = .pair before literal after) :
    (∃ rest, cut? opening text = some (before, rest)) ∧
      cut? closing text = some (before ++ opening ++ literal, after) := by
  unfold Sight.of at h
  split at h
  · cases h
  · next front rest head tail hopening hclosing =>
      split at h
      · next hle =>
          cases h
          refine ⟨⟨rest, hopening⟩, ?_⟩
          have hboth := (eq_of_cut? hopening).symm.trans (eq_of_cut? hclosing)
          have hhead : before ++ opening = head.take (before.length + opening.length) := by
            have htake := congrArg (List.take (before.length + opening.length)) hboth
            rw [List.append_assoc head, List.take_append_of_le_length hle,
              List.take_left' (List.length_append ..)] at htake
            exact htake
          rw [hhead, List.take_append_drop]
          exact hclosing
      · split at h
        · cases h
        · cases h
  · cases h
  · cases h

/-- Literals are lifted out of a text one after the other, and leave another text. -/
inductive Lifting (opening closing mark : List Char) :
    List Char → List Lifted → List Char → Prop
  | done (text : List Char) : Lifting opening closing mark text [] text
  | step {text before literal after final : List Char} {vs : List Lifted}
      (hsight : Sight.of opening closing text = .pair before literal after)
      (rest : Lifting opening closing mark (before ++ mark ++ after) vs final) :
      Lifting opening closing mark text (⟨width before, String.ofList literal⟩ :: vs) final

namespace Lifting

variable {opening closing mark text final : List Char} {vs : List Lifted}

/-- The steps can be taken back, the last one first. -/
theorem putBack? (h : Lifting opening closing mark text vs final) :
    Template.putBack? opening closing mark vs final = some text := by
  induction h with
  | done text => rfl
  | @step text before literal after final vs hsight rest ih =>
      have htext := eq_of_cut? (Sight.of_eq_pair hsight).2
      have haround : around? mark (width before) (before ++ (mark ++ after)) =
          some (before, after) := around?_append rfl after
      rw [List.append_assoc] at ih
      rw [Template.putBack?, ih, Option.bind_some, Lifted.putBack?, haround, Option.map_some,
        String.toList_ofList, htext]

/-- A closing marker that holds something does not stand in a literal. -/
theorem not_infix_literal (hclosing : closing ≠ [])
    (h : Lifting opening closing mark text vs final) :
    ∀ v ∈ vs, ¬ closing <:+: v.literal.toList := by
  induction h with
  | done text => exact fun v hv => absurd hv List.not_mem_nil
  | @step text before literal after final vs hsight rest ih =>
      refine List.forall_mem_cons.mpr ⟨?_, ih⟩
      rw [String.toList_ofList]
      rintro ⟨front, back, rfl⟩
      -- A closing marker in the literal would be an earlier one than that which was found.
      have hcut := (Sight.of_eq_pair hsight).2
      have hearlier : text =
          (before ++ opening ++ front) ++ closing ++ (back ++ closing ++ after) := by
        rw [eq_of_cut? hcut]
        simp only [List.append_assoc]
      have hle := length_le_of_cut? hcut hearlier
      have hpos := List.length_pos_iff.mpr hclosing
      simp only [List.length_append] at hle
      omega

/-- The next literal can be lifted as well. -/
theorem snoc (h : Lifting opening closing mark text vs final) {before literal after : List Char}
    (hsight : Sight.of opening closing final = .pair before literal after) :
    Lifting opening closing mark text (vs ++ [⟨width before, String.ofList literal⟩])
      (before ++ mark ++ after) := by
  induction h with
  | done text => exact .step hsight (.done _)
  | step hsight' rest ih => exact .step hsight' (ih hsight)

end Lifting

section

variable {opening closing mark before after text final : List Char} {vs : List Lifted}

/-- No token that holds something stands before the first one. -/
theorem not_infix_of_cut? {token rest : List Char} (htoken : token ≠ [])
    (h : cut? token text = some (before, rest)) : ¬ token <:+: before := by
  rintro ⟨front, back, rfl⟩
  have hearlier : text = front ++ token ++ (back ++ token ++ rest) := by
    rw [eq_of_cut? h]
    simp only [List.append_assoc]
  have hle := length_le_of_cut? h hearlier
  have hpos := List.length_pos_iff.mpr htoken
  simp only [List.length_append] at hle
  omega

/-- A step of lifting reaches past the placeholder of the step before. -/
theorem Sight.shorter (hbefore : ¬ opening <:+: before) (hmark : ¬ closing <:+: mark)
    {front literal back : List Char}
    (hsight : Sight.of opening closing (before ++ mark ++ after) = .pair front literal back) :
    back.length < after.length := by
  have htext := eq_of_cut? (Sight.of_eq_pair hsight).2
  by_contra hle
  rw [Nat.not_lt] at hle
  obtain ⟨between, hback⟩ : ∃ between, back = between ++ after := by
    have hsuffix : after <:+ back :=
      List.suffix_of_suffix_length_le (List.suffix_append _ _) ⟨_, htext.symm⟩ hle
    obtain ⟨between, hbetween⟩ := hsuffix
    exact ⟨between, hbetween.symm⟩
  have hfront : before ++ mark = (front ++ opening ++ literal) ++ closing ++ between := by
    rw [hback, ← List.append_assoc _ between] at htext
    exact List.append_cancel_right htext
  -- The opening marker ends behind `before`, so the closing one stands within the placeholder.
  have hbehind : before.length < (front ++ opening).length := by
    by_contra hshort
    have hprefix : front ++ opening <+: before := by
      refine List.prefix_of_prefix_length_le ?_ (List.prefix_append before mark)
        (Nat.not_lt.mp hshort)
      rw [hfront]
      simp only [List.append_assoc]
      exact (List.prefix_append_right_inj front).mpr (List.prefix_append _ _)
    exact hbefore ((List.suffix_append front opening).isInfix.trans hprefix.isInfix)
  obtain ⟨inner, hinner⟩ : before <+: front ++ opening ++ literal := by
    refine List.prefix_of_prefix_length_le (List.prefix_append before mark) ?_ ?_
    · rw [hfront, List.append_assoc _ closing]
      exact List.prefix_append _ _
    · rw [List.length_append]
      omega
  rw [← hinner, List.append_assoc, List.append_assoc] at hfront
  exact hmark ⟨inner, between, by rw [List.append_assoc, List.append_cancel_left hfront]⟩

/-- From behind a placeholder, there are at most as many steps as there are characters left. -/
theorem Lifting.length_le_after (hopening : opening ≠ []) (hmark : ¬ closing <:+: mark)
    (hbefore : ¬ opening <:+: before)
    (h : Lifting opening closing mark (before ++ mark ++ after) vs final) :
    vs.length ≤ after.length := by
  generalize htext : before ++ mark ++ after = text at h
  induction h generalizing before after with
  | done text => exact Nat.zero_le _
  | @step text front literal back final vs hsight rest ih =>
      rw [← htext] at hsight
      obtain ⟨⟨tail, hcut⟩, -⟩ := Sight.of_eq_pair hsight
      have hnext := ih (not_infix_of_cut? hopening hcut) rfl
      have hshorter := Sight.shorter hbefore hmark hsight
      rw [List.length_cons]
      omega

/-- There are at most as many steps as the text has characters. -/
theorem Lifting.length_le (hopening : opening ≠ []) (hmark : ¬ closing <:+: mark)
    (h : Lifting opening closing mark text vs final) : vs.length ≤ text.length := by
  cases h with
  | done text => exact Nat.zero_le _
  | @step text before literal after final vs hsight rest =>
      obtain ⟨⟨tail, hcut⟩, hclosing⟩ := Sight.of_eq_pair hsight
      have hrest := rest.length_le_after hopening hmark (not_infix_of_cut? hopening hcut)
      have hpos := List.length_pos_iff.mpr hopening
      have hlength := congrArg List.length (eq_of_cut? hclosing)
      simp only [List.length_append] at hlength
      rw [List.length_cons]
      omega

/-- Why lifting ended, seen in the literals and in the text that it left. -/
def Stop.Justified (opening closing : List Char) (fuel : Nat) (limit : Option Nat) (count : Nat)
    (text : List Char) : Stop → Prop
  | .done => Sight.of opening closing text = .nothing
  | .limit => limit = some count
  | .unmatched side offset => Sight.of opening closing text = .unmatched side offset
  | .outOfFuel => count = fuel ∧ ∃ before literal after,
      Sight.of opening closing text = .pair before literal after

/-- What justifies a stop behind one literal justifies it in front. -/
theorem Stop.Justified.succ {fuel count : Nat} {limit : Option Nat} {stop : Stop}
    (hlimit : limit ≠ some 0)
    (h : stop.Justified opening closing fuel (limit.map (· - 1)) count text) :
    stop.Justified opening closing (fuel + 1) limit (count + 1) text := by
  cases stop with
  | done | unmatched => exact h
  | outOfFuel => exact ⟨congrArg (· + 1) h.1, h.2⟩
  | limit =>
      obtain ⟨n, rfl, hn⟩ := Option.map_eq_some_iff.mp h
      have hpos : n ≠ 0 := fun hzero => hlimit (congrArg some hzero)
      exact congrArg some (by omega)

/-- A run of lifting takes the steps of `Lifting`, and ends for the reason that it gives. -/
theorem Run.lifting (opening closing mark : List Char) (fuel : Nat) (limit : Option Nat)
    (text : List Char) :
    let run := Run.of opening closing mark fuel limit text
    Lifting opening closing mark text run.lifted run.text ∧
      run.stop.Justified opening closing fuel limit run.lifted.length run.text := by
  fun_induction Run.of opening closing mark fuel limit text with
  | case1 => exact ⟨.done _, rfl⟩
  | case2 _ _ _ _ hsight => exact ⟨.done _, hsight⟩
  | case3 _ _ _ _ _ _ hsight => exact ⟨.done _, hsight⟩
  | case4 _ _ _ before literal after hsight =>
      exact ⟨.done _, rfl, before, literal, after, hsight⟩
  | case5 _ _ hlimit _ _ _ hsight _ _ ih => exact ⟨.step hsight ih.1, ih.2.succ hlimit⟩

/-- As many literals as the text has characters are enough. -/
theorem Run.stop_ne_outOfFuel (hopening : opening ≠ []) (hmark : ¬ closing <:+: mark)
    (limit : Option Nat) (text : List Char) :
    (Run.of opening closing mark text.length limit text).stop ≠ .outOfFuel := by
  intro hstop
  obtain ⟨hlifting, hjustified⟩ := Run.lifting opening closing mark text.length limit text
  rw [hstop] at hjustified
  obtain ⟨hcount, before, literal, after, hsight⟩ := hjustified
  have hle := (hlifting.snoc hsight).length_le hopening hmark
  rw [List.length_append, List.length_singleton, hcount] at hle
  omega

/-- Nothing is seen only where neither token stands. -/
theorem Sight.of_eq_nothing (h : Sight.of opening closing text = .nothing) :
    ¬ opening <:+: text ∧ ¬ closing <:+: text := by
  unfold Sight.of at h
  split at h
  · next hopening hclosing => exact ⟨cut?_eq_none_iff.mp hopening, cut?_eq_none_iff.mp hclosing⟩
  · split at h
    · cases h
    · split at h
      · cases h
      · cases h
  · cases h
  · cases h

end

/-- An extraction can be taken back: its literals, put back from the last to the first, each find
their placeholder and give the text again, whatever new markers placeholders have made on the way.
No closing marker stands in a literal, and none of either kind is left where markers without a
partner fail the extraction and the number of literals is not limited.  That is also the only way
in which an extraction fails. -/
theorem extract_invertible {m : Markers} (hm : m.Usable) {mark : String}
    (hmark : m.tokenIn mark = false) (strict : Bool) (limit : Option Nat) (text : String) :
    (∀ e, extract m mark strict limit text = .ok e →
      e.source? m mark = some text ∧
        (∀ v ∈ e.lifted, occursIn m.closing.toList v.literal.toList = false) ∧
        (strict = true → limit = none → m.tokenIn e.sql = false)) ∧
      ∀ error, extract m mark strict limit text = .error error →
        strict = true ∧ ∃ side offset, error = .unmatched side offset := by
  have hopening : m.opening.toList ≠ [] := fun h => hm.1 (String.toList_eq_nil_iff.mp h)
  have hclosing : m.closing.toList ≠ [] := fun h => hm.2.1 (String.toList_eq_nil_iff.mp h)
  have hfuel := Run.stop_ne_outOfFuel hopening (not_infix_of_tokenIn hmark).2 limit text.toList
  obtain ⟨hlifting, hjustified⟩ := Run.lifting m.opening.toList m.closing.toList mark.toList
    text.toList.length limit text.toList
  rw [String.length_toList] at hfuel hlifting hjustified
  rw [extract_eq hm hmark]
  generalize Run.of m.opening.toList m.closing.toList mark.toList text.length limit
    text.toList = run at hfuel hlifting hjustified ⊢
  have hback : Extraction.source? m mark ⟨String.ofList run.text, run.lifted⟩ = some text := by
    rw [Extraction.source?, String.toList_ofList, hlifting.putBack?, Option.map_some,
      String.ofList_toList]
  have hliterals : ∀ v ∈ run.lifted, occursIn m.closing.toList v.literal.toList = false :=
    fun v hv => occursIn_eq_false_iff.mpr (hlifting.not_infix_literal hclosing v hv)
  dsimp only
  cases strict with
  | false =>
      rw [if_neg Bool.false_ne_true]
      refine ⟨?_, fun error h => nomatch h⟩
      rintro e ⟨⟩
      exact ⟨hback, hliterals, fun h => nomatch h⟩
  | true =>
      rw [if_pos rfl]
      constructor
      · intro e h
        obtain ⟨rfl, hmatched⟩ := Run.of_strictly_eq_ok h
        refine ⟨hback, hliterals, fun _ hlimit => ?_⟩
        cases hstop : run.stop with
        | unmatched side offset => exact absurd hstop (hmatched side offset)
        | outOfFuel => exact absurd hstop hfuel
        | limit =>
            rw [hstop, hlimit] at hjustified
            cases hjustified
        | done =>
            rw [hstop] at hjustified
            obtain ⟨hnone, hnone'⟩ := Sight.of_eq_nothing hjustified
            rw [Markers.tokenIn, String.toList_ofList, occursIn_eq_false_iff.mpr hnone,
              occursIn_eq_false_iff.mpr hnone']
            rfl
      · intro error h
        unfold Run.strictly at h
        split at h
        · exact ⟨rfl, _, _, (Except.error.inj h).symm⟩
        · cases h

/-- Each time the placeholder is put into the text, it makes an opening marker with what follows. -/
theorem extract_invertible_of_new_marker :
    (⟨"<%", "%>"⟩ : Markers).Usable ∧ (⟨"<%", "%>"⟩ : Markers).tokenIn "<" = false ∧
      extract ⟨"<%", "%>"⟩ "<" true none "a <%x%>%y%>%z%> b" =
        .ok ⟨"a < b", [⟨2, "x"⟩, ⟨2, "y"⟩, ⟨2, "z"⟩]⟩ ∧
      Extraction.source? ⟨"<%", "%>"⟩ "<" ⟨"a < b", [⟨2, "x"⟩, ⟨2, "y"⟩, ⟨2, "z"⟩]⟩ =
        some "a <%x%>%y%>%z%> b" := by
  have hm : (⟨"<%", "%>"⟩ : Markers).Usable := by decide
  have hmark : (⟨"<%", "%>"⟩ : Markers).tokenIn "<" = false := by decide
  have hextract : extract ⟨"<%", "%>"⟩ "<" true none "a <%x%>%y%>%z%> b" =
      .ok ⟨"a < b", [⟨2, "x"⟩, ⟨2, "y"⟩, ⟨2, "z"⟩]⟩ := by decide
  exact ⟨hm, hmark, hextract, ((extract_invertible hm hmark true none _).1 _ hextract).1⟩

end SlotQuery.Template
