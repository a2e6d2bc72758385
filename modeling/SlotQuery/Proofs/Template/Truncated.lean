import SlotQuery.Proofs.Template.Lifting

/-!
# What a limit on the literals leaves over

Two settings stop an extraction before its text is used up: a limit on the number of literals, and
whether a marker without a partner fails the extraction or only ends it.  Neither of them changes a
step that is taken.

`Run.lifting` reads the steps off a run.  This is the way back: steps that lead to where no pair is
in sight are what a run takes that may take more (`Lifting.run_exhausted`), and any steps are what
a run takes that may take as many (`Lifting.run_limited`).  So the steps of one whole run, which
there always is (`exists_lifting`), say what each extraction from its text comes to
(`extract_exhausted`, `extract_limited`), and cut in two (`Lifting.split`) they say the same for the
text that a limit leaves.

`extract_truncates` puts this together.  A placeholder that makes a new marker with its neighbours
needs no case of its own: the steps are those from the text as it is after each of them.
-/

namespace SlotQuery.Template

open Text

section

variable {opening closing mark text final : List Char} {vs : List Lifted}

/-- No pair is in sight: no marker is left at all, or the first one has no partner. -/
def Exhausted (opening closing text : List Char) : Prop :=
  ∀ before literal after, Sight.of opening closing text ≠ .pair before literal after

/-- Why lifting ends, if it ends for what it sees. -/
def Sight.stop : Sight → Stop
  | .unmatched side offset => .unmatched side offset
  | .nothing | .pair .. => .done

/-- Steps can be cut in two behind any of them. -/
theorem Lifting.split (h : Lifting opening closing mark text vs final) (k : Nat) :
    ∃ middle, Lifting opening closing mark text (vs.take k) middle ∧
      Lifting opening closing mark middle (vs.drop k) final := by
  induction h generalizing k with
  | done text =>
      rw [List.take_nil, List.drop_nil]
      exact ⟨text, .done text, .done text⟩
  | step hsight rest ih =>
      cases k with
      | zero => exact ⟨_, .done _, .step hsight rest⟩
      | succ k =>
          obtain ⟨middle, hfront, hback⟩ := ih k
          exact ⟨middle, .step hsight hfront, hback⟩

/-- A run takes the step that is in sight, if it may take one. -/
theorem Run.of_pair {before literal after : List Char} {limit : Option Nat}
    (hsight : Sight.of opening closing text = .pair before literal after)
    (hlimit : limit ≠ some 0) (fuel : Nat) :
    Run.of opening closing mark (fuel + 1) limit text =
      let rest := Run.of opening closing mark fuel (limit.map (· - 1)) (before ++ mark ++ after)
      { rest with lifted := ⟨width before, String.ofList literal⟩ :: rest.lifted } := by
  rw [Run.of, hsight]
  exact hlimit

/-- A run that may take a step ends where no pair is in sight. -/
theorem Run.of_exhausted {limit : Option Nat} (hsight : Exhausted opening closing text)
    (hlimit : limit ≠ some 0) (fuel : Nat) :
    Run.of opening closing mark fuel limit text =
      ⟨text, [], (Sight.of opening closing text).stop⟩ := by
  rw [Run.of]
  · cases h : Sight.of opening closing text with
    | nothing | unmatched => rfl
    | pair before literal after => exact absurd h (hsight before literal after)
  · exact hlimit

/-- Steps are what a run takes that may take as many. -/
theorem Lifting.run_limited (h : Lifting opening closing mark text vs final) {fuel : Nat}
    (hfuel : vs.length ≤ fuel) :
    Run.of opening closing mark fuel (some vs.length) text = ⟨final, vs, .limit⟩ := by
  induction h generalizing fuel with
  | done text => rw [List.length_nil, Run.of]
  | @step text before literal after final vs hsight rest ih =>
      rw [List.length_cons] at hfuel ⊢
      obtain ⟨fuel, rfl⟩ := Nat.exists_eq_add_of_lt hfuel
      have hsome : some (vs.length + 1) ≠ some 0 := fun h => Nat.succ_ne_zero _ (Option.some.inj h)
      rw [Run.of_pair hsight hsome, Option.map_some, Nat.add_sub_cancel, ih (Nat.le_add_right ..)]

/-- Steps to where no pair is in sight are what a run takes that may take more. -/
theorem Lifting.run_exhausted (h : Lifting opening closing mark text vs final)
    (hfinal : Exhausted opening closing final) {fuel : Nat} (hfuel : vs.length ≤ fuel)
    {limit : Option Nat} (hlimit : ∀ k, limit = some k → vs.length < k) :
    Run.of opening closing mark fuel limit text =
      ⟨final, vs, (Sight.of opening closing final).stop⟩ := by
  induction h generalizing fuel limit with
  | done text => exact Run.of_exhausted hfinal (fun h => nomatch hlimit 0 h) fuel
  | @step text before literal after final vs hsight rest ih =>
      rw [List.length_cons] at hfuel hlimit
      obtain ⟨fuel, rfl⟩ := Nat.exists_eq_add_of_lt hfuel
      have hnext : ∀ k, limit.map (· - 1) = some k → vs.length < k := by
        intro k hk
        obtain ⟨n, rfl, rfl⟩ := Option.map_eq_some_iff.mp hk
        have := hlimit n rfl
        omega
      rw [Run.of_pair hsight (fun h => nomatch hlimit 0 h), ih hfinal (Nat.le_add_right ..) hnext]

/-- From every text there are steps to where no pair is in sight. -/
theorem exists_lifting (hopening : opening ≠ []) (hmark : ¬ closing <:+: mark)
    (text : List Char) :
    ∃ vs final, Lifting opening closing mark text vs final ∧ Exhausted opening closing final := by
  have hfuel := Run.stop_ne_outOfFuel hopening hmark none text
  obtain ⟨hlifting, hjustified⟩ := Run.lifting opening closing mark text.length none text
  refine ⟨_, _, hlifting, fun before literal after hsight => ?_⟩
  cases hstop : (Run.of opening closing mark text.length none text).stop with
  | done | unmatched =>
      rw [hstop] at hjustified
      cases hjustified.symm.trans hsight
  | limit =>
      rw [hstop] at hjustified
      cases hjustified
  | outOfFuel => exact hfuel hstop

end

/-- What an extraction comes to that ends for what it sees. -/
def Sight.verdict (strict : Bool) (e : Extraction) : Sight → Except Error Extraction
  | .unmatched side offset => if strict then .error (.unmatched side offset) else .ok e
  | .nothing | .pair .. => .ok e

/-- What an extraction has left to give behind its first literals. -/
def Extraction.behind (k : Nat) (e : Extraction) : Extraction :=
  { e with lifted := e.lifted.drop k }

theorem Sight.verdict_false (e : Extraction) (sight : Sight) : sight.verdict false e = .ok e := by
  cases sight <;> rfl

/-- What is accepted is accepted unchanged. -/
theorem Sight.eq_of_verdict {strict : Bool} {e given : Extraction} {sight : Sight}
    (h : sight.verdict strict e = .ok given) : given = e := by
  cases sight with
  | nothing | pair => exact (Except.ok.inj h).symm
  | unmatched side offset =>
      cases strict with
      | false => exact (Except.ok.inj h).symm
      | true => cases h

/-- Leaving out the first literals changes what an extraction gives, not whether it is given. -/
theorem Sight.map_behind_verdict (strict : Bool) (e : Extraction) (k : Nat) (sight : Sight) :
    (sight.verdict strict e).map (Extraction.behind k) = sight.verdict strict (e.behind k) := by
  cases sight with
  | nothing | pair => rfl
  | unmatched side offset => cases strict <;> rfl

section

variable {m : Markers} {mark text : String} {final : List Char} {vs : List Lifted}

/-- The fuel of an extraction is enough for any steps from its text. -/
theorem Lifting.length_le_text (hm : m.Usable) (hmark : m.tokenIn mark = false)
    (h : Lifting m.opening.toList m.closing.toList mark.toList text.toList vs final) :
    vs.length ≤ text.length := by
  rw [← String.length_toList]
  exact h.length_le hm.opening_ne_nil (not_infix_of_tokenIn hmark).2

/-- Any steps from a text are what comes of it where the limit is their number. -/
theorem extract_limited (hm : m.Usable) (hmark : m.tokenIn mark = false)
    (h : Lifting m.opening.toList m.closing.toList mark.toList text.toList vs final)
    (strict : Bool) :
    extract m mark strict (some vs.length) text = .ok ⟨String.ofList final, vs⟩ := by
  rw [extract_eq hm hmark, h.run_limited (h.length_le_text hm hmark)]
  cases strict <;> rfl

/-- Steps from a text to where no pair is in sight are what comes of it where the limit is
greater, and what is in sight then decides whether they are given. -/
theorem extract_exhausted (hm : m.Usable) (hmark : m.tokenIn mark = false)
    (h : Lifting m.opening.toList m.closing.toList mark.toList text.toList vs final)
    (hfinal : Exhausted m.opening.toList m.closing.toList final) (strict : Bool)
    {limit : Option Nat} (hlimit : ∀ k, limit = some k → vs.length < k) :
    extract m mark strict limit text =
      (Sight.of m.opening.toList m.closing.toList final).verdict strict
        ⟨String.ofList final, vs⟩ := by
  rw [extract_eq hm hmark, h.run_exhausted hfinal (h.length_le_text hm hmark) hlimit]
  cases Sight.of m.opening.toList m.closing.toList final <;> cases strict <;> rfl

/-- What a limit lets through are the first of the steps, and the others lead on from the text that
it leaves. -/
theorem exists_lifting_behind (hm : m.Usable) (hmark : m.tokenIn mark = false)
    (h : Lifting m.opening.toList m.closing.toList mark.toList text.toList vs final)
    (hfinal : Exhausted m.opening.toList m.closing.toList final) {strict : Bool} {k : Nat}
    {first : Extraction} (hfirst : extract m mark strict (some k) text = .ok first) :
    ∃ middle, first = ⟨String.ofList middle, vs.take k⟩ ∧
      Lifting m.opening.toList m.closing.toList mark.toList middle (vs.drop k) final := by
  rcases Nat.lt_or_ge vs.length k with hlt | hge
  · have hlimit : ∀ n, some k = some n → vs.length < n := fun n hn => Option.some.inj hn ▸ hlt
    rw [extract_exhausted hm hmark h hfinal strict hlimit] at hfirst
    refine ⟨final, ?_, ?_⟩
    · rw [List.take_of_length_le hlt.le]
      exact Sight.eq_of_verdict hfirst
    · rw [List.drop_of_length_le hlt.le]
      exact .done final
  · obtain ⟨middle, hfront, hback⟩ := h.split k
    have hlimited := extract_limited hm hmark hfront strict
    rw [List.length_take_of_le hge, hfirst] at hlimited
    exact ⟨middle, Except.ok.inj hlimited, hback⟩

end

/-- The settings of an extraction only cut it short.  From each text there is one whole extraction:
the steps to where no pair is in sight.  It is what comes of the text if the number of literals is
not limited and markers without a partner only end it.  If they fail it, the marker that is left in
sight decides; where it does not, no limit makes the two ways differ.

A limit gives the first literals of the whole extraction and a text, out of which come, without a
limit, the other literals and the same final text, or the same marker without a partner.  A limit
beyond the number of literals is no limit, and the number itself gives the whole extraction,
whatever markers without a partner do. -/
theorem extract_truncates {m : Markers} (hm : m.Usable) {mark : String}
    (hmark : m.tokenIn mark = false) (text : String) :
    ∃ whole : Extraction,
      Lifting m.opening.toList m.closing.toList mark.toList text.toList whole.lifted
        whole.sql.toList ∧
      Exhausted m.opening.toList m.closing.toList whole.sql.toList ∧
      extract m mark false none text = .ok whole ∧
      extract m mark true none text =
        (Sight.of m.opening.toList m.closing.toList whole.sql.toList).verdict true whole ∧
      (∀ e, extract m mark true none text = .ok e →
        ∀ limit, extract m mark true limit text = extract m mark false limit text) ∧
      (∀ strict k first, extract m mark strict (some k) text = .ok first →
        first.lifted = whole.lifted.take k ∧
        ∀ strict', extract m mark strict' none first.sql =
          (extract m mark strict' none text).map (Extraction.behind k)) ∧
      (∀ strict k, k ≤ whole.lifted.length →
        ∃ first, extract m mark strict (some k) text = .ok first) ∧
      (∀ strict k, whole.lifted.length < k →
        extract m mark strict (some k) text = extract m mark strict none text) ∧
      ∀ strict, extract m mark strict (some whole.lifted.length) text = .ok whole := by
  obtain ⟨vs, final, hlifting, hfinal⟩ := exists_lifting hm.opening_ne_nil
    (not_infix_of_tokenIn hmark).2 text.toList
  have hnone : ∀ k, (none : Option Nat) = some k → vs.length < k := fun k h => nomatch h
  have hunlimited strict := extract_exhausted hm hmark hlifting hfinal strict hnone
  have hbeyond : ∀ strict k, vs.length < k →
      extract m mark strict (some k) text = extract m mark strict none text := by
    intro strict k hk
    rw [hunlimited, extract_exhausted hm hmark hlifting hfinal strict
      fun n hn => Option.some.inj hn ▸ hk]
  have hwithin : ∀ k, k ≤ vs.length →
      ∃ first, ∀ strict, extract m mark strict (some k) text = .ok first := by
    intro k hk
    obtain ⟨middle, hfront, -⟩ := hlifting.split k
    refine ⟨⟨String.ofList middle, vs.take k⟩, fun strict => ?_⟩
    have hlimited := extract_limited hm hmark hfront strict
    rwa [List.length_take_of_le hk] at hlimited
  refine ⟨⟨String.ofList final, vs⟩, ?_, ?_, ?_, ?_, ?_, ?_, ?_, hbeyond,
    extract_limited hm hmark hlifting⟩
  · rwa [String.toList_ofList]
  · rwa [String.toList_ofList]
  · rw [hunlimited]
    exact Sight.verdict_false _ _
  · rw [hunlimited, String.toList_ofList]
  · intro e he limit
    have hsame : extract m mark true none text = extract m mark false none text := by
      rw [hunlimited] at he
      rw [hunlimited, hunlimited, Sight.verdict_false, he, Sight.eq_of_verdict he]
    cases limit with
    | none => exact hsame
    | some k =>
        rcases Nat.lt_or_ge vs.length k with hlt | hge
        · rw [hbeyond true k hlt, hbeyond false k hlt, hsame]
        · obtain ⟨first, hfirst⟩ := hwithin k hge
          rw [hfirst, hfirst]
  · intro strict k first hfirst
    obtain ⟨middle, rfl, hback⟩ := exists_lifting_behind hm hmark hlifting hfinal hfirst
    refine ⟨rfl, fun strict' => ?_⟩
    have hrest : ∀ n, (none : Option Nat) = some n → (vs.drop k).length < n :=
      fun n h => nomatch h
    rw [← String.toList_ofList (l := middle)] at hback
    rw [hunlimited, Sight.map_behind_verdict,
      extract_exhausted hm hmark hback hfinal strict' hrest]
    rfl
  · intro strict k hk
    obtain ⟨first, hfirst⟩ := hwithin k hk
    exact ⟨first, hfirst strict⟩

/-- Each placeholder makes an opening marker with what follows, and a closing marker is left over:
the text behind the second literal has one more, and the same marker fails it. -/
theorem extract_truncates_of_new_marker :
    (⟨"<%", "%>"⟩ : Markers).Usable ∧ (⟨"<%", "%>"⟩ : Markers).tokenIn "<" = false ∧
      extract ⟨"<%", "%>"⟩ "<" true (some 2) "a <%x%>%y%>%z%> %>" =
        .ok ⟨"a <%z%> %>", [⟨2, "x"⟩, ⟨2, "y"⟩]⟩ ∧
      extract ⟨"<%", "%>"⟩ "<" true none "a <%x%>%y%>%z%> %>" = .error (.unmatched .closing 4) ∧
      extract ⟨"<%", "%>"⟩ "<" true none "a <%z%> %>" = .error (.unmatched .closing 4) := by
  have hm : (⟨"<%", "%>"⟩ : Markers).Usable := by decide
  have hmark : (⟨"<%", "%>"⟩ : Markers).tokenIn "<" = false := by decide
  have hfirst : extract ⟨"<%", "%>"⟩ "<" true (some 2) "a <%x%>%y%>%z%> %>" =
      .ok ⟨"a <%z%> %>", [⟨2, "x"⟩, ⟨2, "y"⟩]⟩ := by decide
  have hwhole : extract ⟨"<%", "%>"⟩ "<" true none "a <%x%>%y%>%z%> %>" =
      .error (.unmatched .closing 4) := by decide
  obtain ⟨whole, -, -, -, -, -, htruncated, -⟩ := extract_truncates hm hmark "a <%x%>%y%>%z%> %>"
  have hrest := (htruncated true 2 _ hfirst).2 true
  rw [hwhole] at hrest
  exact ⟨hm, hmark, hfirst, hwhole, hrest⟩

end SlotQuery.Template
