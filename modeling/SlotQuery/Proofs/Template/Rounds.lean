import SlotQuery.Proofs.Template.Truncated

/-!
# The rounds of lifting come to an end

Each round searches the whole text again, and neither the length of that text nor the place of the
next pair says how much is left to do: a long placeholder makes the text grow, and one that makes a
marker with its neighbours brings up a pair to the left of literals that have been lifted already.
What does shrink is the text behind the newest placeholder.  It is an end of the text that was
given, and the closing marker of the next pair reaches into it (`Sight.shorter`), whether the
opening one stands there, straddles the placeholder, or begins before it.

`Rounds` lists the rounds with what each one leaves behind its placeholder, the newest first.
`Rounds.receding` is the invariant: every entry is a proper end of those before it and of the text.
Rounds are the steps of `Lifting` (`Rounds.lifting`, `Lifting.exists_rounds`), and the steps from a
text are all on one way (`Lifting.prefix_of_exhausted`), so `rounds_end` follows: the way has an
end, it is no longer than the text, and a run of lifting that may go as far needs no other bound.
-/

namespace SlotQuery.Template

open Text

/-- A round of lifting: the literal that it lifts, and what it leaves behind the placeholder. -/
structure Round where
  lifted : Lifted
  behind : List Char

/-- The rounds that lead from a text to the text as it is now, the newest first. -/
inductive Rounds (opening closing mark text : List Char) : List Round → List Char → Prop
  | start : Rounds opening closing mark text [] text
  | next {rounds : List Round} {current before literal after : List Char}
      (earlier : Rounds opening closing mark text rounds current)
      (hsight : Sight.of opening closing current = .pair before literal after) :
      Rounds opening closing mark text
        (⟨⟨width before, String.ofList literal⟩, after⟩ :: rounds) (before ++ mark ++ after)

/-- The text is an end of the other one, and a shorter one. -/
def Recedes (newer older : List Char) : Prop :=
  newer <:+ older ∧ newer.length < older.length

/-- What holds after every round: the newest placeholder stands where its literal says, in front of
what the round left, and there is no opening marker before it.  What the rounds left recedes, from
the whole text on. -/
structure Receding (opening mark text : List Char) (rounds : List Round) (current : List Char) :
    Prop where
  placed : ∀ newest ∈ rounds.head?, ∃ before, ¬ opening <:+: before ∧
    newest.lifted.offset = width before ∧ current = before ++ mark ++ newest.behind
  untouched : rounds = [] → current = text
  recedes : (rounds.map Round.behind ++ [text]).Pairwise Recedes

variable {opening closing mark text current : List Char} {rounds : List Round}

theorem Recedes.trans {newest newer older : List Char} (h : Recedes newest newer)
    (h' : Recedes newer older) : Recedes newest older :=
  ⟨h.1.trans h'.1, h.2.trans h'.2⟩

/-- The first round leaves less than the text. -/
theorem Sight.recedes_text (hopening : opening ≠ []) {before literal after : List Char}
    (hsight : Sight.of opening closing text = .pair before literal after) :
    Recedes after text := by
  have htext := eq_of_cut? (Sight.of_eq_pair hsight).2
  refine ⟨⟨_, htext.symm⟩, ?_⟩
  have hpos := List.length_pos_iff.mpr hopening
  rw [htext]
  simp only [List.length_append]
  omega

/-- Every other round leaves less than the round before it left. -/
theorem Sight.recedes (hmark : ¬ closing <:+: mark) {front behind before literal after : List Char}
    (hfront : ¬ opening <:+: front)
    (hsight : Sight.of opening closing (front ++ mark ++ behind) = .pair before literal after) :
    Recedes after behind := by
  have hshorter := Sight.shorter hfront hmark hsight
  have htext := eq_of_cut? (Sight.of_eq_pair hsight).2
  have hafter : after <:+ front ++ mark ++ behind := ⟨_, htext.symm⟩
  have hbehind : behind <:+ front ++ mark ++ behind := List.suffix_append _ _
  exact ⟨List.suffix_of_suffix_length_le hafter hbehind hshorter.le, hshorter⟩

/-- In every round the text that is still to be looked at goes back. -/
theorem Rounds.receding (hopening : opening ≠ []) (hmark : ¬ closing <:+: mark)
    (h : Rounds opening closing mark text rounds current) :
    Receding opening mark text rounds current := by
  induction h with
  | start => exact ⟨nofun, fun _ => rfl, List.pairwise_singleton _ _⟩
  | @next rounds current before literal after earlier hsight ih =>
      obtain ⟨⟨tail, hcut⟩, -⟩ := Sight.of_eq_pair hsight
      refine ⟨?_, fun h => absurd h (List.cons_ne_nil _ _), ?_⟩
      · intro newest hnewest
        obtain rfl := Option.some.inj hnewest
        exact ⟨before, not_infix_of_cut? hopening hcut, rfl, rfl⟩
      · rw [List.map_cons, List.cons_append, List.pairwise_cons]
        refine ⟨?_, ih.recedes⟩
        cases rounds with
        | nil =>
            rw [ih.untouched rfl] at hsight
            simpa using Sight.recedes_text hopening hsight
        | cons newest older =>
            obtain ⟨front, hfront, -, hcurrent⟩ := ih.placed newest rfl
            rw [hcurrent] at hsight
            have hnewest := Sight.recedes hmark hfront hsight
            -- What the older rounds left, and the text, go beyond what the newest one left.
            have holder := List.pairwise_cons.mp ih.recedes
            rw [List.map_cons, List.cons_append]
            exact List.forall_mem_cons.mpr
              ⟨hnewest, fun left hleft => hnewest.trans (holder.1 left hleft)⟩

/-- Rounds are steps of lifting. -/
theorem Rounds.lifting (h : Rounds opening closing mark text rounds current) :
    Lifting opening closing mark text (rounds.map Round.lifted).reverse current := by
  induction h with
  | start => exact .done text
  | next earlier hsight ih =>
      rw [List.map_cons, List.reverse_cons]
      exact ih.snoc hsight

/-- Steps of lifting are rounds, after the rounds that led to where they start. -/
theorem Lifting.exists_rounds {vs : List Lifted} {source final : List Char}
    (h : Lifting opening closing mark text vs final)
    (earlier : Rounds opening closing mark source rounds text) :
    ∃ later, Rounds opening closing mark source (later ++ rounds) final ∧
      (later.map Round.lifted).reverse = vs := by
  induction h generalizing rounds with
  | done text => exact ⟨[], earlier, rfl⟩
  | @step text before literal after final vs hsight rest ih =>
      obtain ⟨later, hlater, rfl⟩ := ih (earlier.next hsight)
      refine ⟨later ++ [⟨⟨width before, String.ofList literal⟩, after⟩], ?_, ?_⟩
      · rwa [List.append_assoc]
      · rw [List.map_append, List.reverse_append]
        rfl

/-- Steps that are taken until no pair is in sight go through all others. -/
theorem Lifting.prefix_of_exhausted {vs ws : List Lifted} {final : List Char}
    (h : Lifting opening closing mark text vs current)
    (hfull : Lifting opening closing mark text ws final)
    (hfinal : Exhausted opening closing final) : vs <+: ws := by
  induction h generalizing ws with
  | done text => exact List.nil_prefix
  | @step text before literal after current vs hsight rest ih =>
      cases hfull with
      | done => exact absurd hsight (hfinal before literal after)
      | step hsight' rest' =>
          rw [hsight] at hsight'
          cases hsight'
          exact List.cons_prefix_cons.mpr ⟨rfl, ih rest'⟩

/-- A run of lifting does not depend on a bound that is large enough for the steps. -/
theorem Lifting.run_eq {vs : List Lifted} {final : List Char}
    (h : Lifting opening closing mark text vs final)
    (hfinal : Exhausted opening closing final) {fuel fuel' : Nat} (hfuel : vs.length ≤ fuel)
    (hfuel' : vs.length ≤ fuel') (limit : Option Nat) :
    Run.of opening closing mark fuel limit text = Run.of opening closing mark fuel' limit text := by
  have hunlimited : (∀ k, limit = some k → vs.length < k) →
      Run.of opening closing mark fuel limit text =
        Run.of opening closing mark fuel' limit text := by
    intro hlimit
    rw [h.run_exhausted hfinal hfuel hlimit, h.run_exhausted hfinal hfuel' hlimit]
  cases limit with
  | none => exact hunlimited fun k h => nomatch h
  | some k =>
      by_cases hk : vs.length < k
      · exact hunlimited fun n hn => Option.some.inj hn ▸ hk
      · obtain ⟨middle, hfront, -⟩ := h.split k
        have hlength := List.length_take_of_le (Nat.not_lt.mp hk)
        have hfits : (vs.take k).length ≤ fuel := by omega
        have hfits' : (vs.take k).length ≤ fuel' := by omega
        have hlimited := hfront.run_limited hfits
        have hlimited' := hfront.run_limited hfits'
        rw [hlength] at hlimited hlimited'
        rw [hlimited, hlimited']

/-- A text has at least as many bytes as characters. -/
theorem length_le_length_bytes (text : String) : text.toList.length ≤ (bytes text).length := by
  rw [bytes]
  induction text.toList with
  | nil => exact Nat.le_refl _
  | cons c cs ih =>
      have hpos := c.utf8Size_pos
      rw [encode_cons, List.length_append, String.length_utf8EncodeChar, List.length_cons]
      omega

/-- However long the placeholder is, and whatever markers it makes with what stands around it, every
round leaves an end of the text behind its placeholder, and less than every round before it.  So
there are no more rounds than bytes, and they lead on to a text in which no pair is in sight: the
rounds that are taken up to there begin with any others, and they make the extraction.  A run with
any limit needs no larger bound than their number. -/
theorem rounds_end {m : Markers} (hm : m.Usable) {mark : String} (hmark : m.tokenIn mark = false)
    (text : String) :
    (∀ rounds current,
      Rounds m.opening.toList m.closing.toList mark.toList text.toList rounds current →
        (∀ newest ∈ rounds.head?, ∃ before,
          around? mark.toList newest.lifted.offset current = some (before, newest.behind)) ∧
        (∀ round ∈ rounds, round.behind <:+ text.toList) ∧
        (rounds.map Round.behind ++ [text.toList]).Pairwise Recedes ∧
        rounds.length ≤ (bytes text).length) ∧
    ∃ rounds final,
      Rounds m.opening.toList m.closing.toList mark.toList text.toList rounds final ∧
      Exhausted m.opening.toList m.closing.toList final ∧
      extract m mark false none text =
        .ok ⟨String.ofList final, (rounds.map Round.lifted).reverse⟩ ∧
      (∀ earlier current,
        Rounds m.opening.toList m.closing.toList mark.toList text.toList earlier current →
          (earlier.map Round.lifted).reverse <+: (rounds.map Round.lifted).reverse) ∧
      ∀ limit fuel, rounds.length ≤ fuel →
        let run := Run.of m.opening.toList m.closing.toList mark.toList fuel limit text.toList
        run = Run.of m.opening.toList m.closing.toList mark.toList text.length limit text.toList ∧
          run.stop ≠ .outOfFuel := by
  have hopening := hm.opening_ne_nil
  have hclosing := (not_infix_of_tokenIn hmark).2
  constructor
  · intro rounds current h
    have hreceding := h.receding hopening hclosing
    have hlength := h.lifting.length_le hopening hclosing
    rw [List.length_reverse, List.length_map] at hlength
    refine ⟨?_, ?_, hreceding.recedes, hlength.trans (length_le_length_bytes text)⟩
    · intro newest hnewest
      obtain ⟨before, -, hoffset, rfl⟩ := hreceding.placed newest hnewest
      rw [List.append_assoc]
      exact ⟨before, around?_append (congrArg _ hoffset) _⟩
    · intro round hround
      have hpairs := (List.pairwise_append.mp hreceding.recedes).2.2
      exact (hpairs _ (List.mem_map_of_mem hround) _ (List.mem_singleton_self _)).1
  · obtain ⟨vs, final, hlifting, hfinal⟩ := exists_lifting hopening hclosing text.toList
    obtain ⟨rounds, hrounds, hlifted⟩ := hlifting.exists_rounds .start
    rw [List.append_nil] at hrounds
    have hlength : rounds.length = vs.length := by
      rw [← hlifted, List.length_reverse, List.length_map]
    refine ⟨rounds, final, hrounds, hfinal, ?_, ?_, ?_⟩
    · have hnone : ∀ k, (none : Option Nat) = some k → vs.length < k := nofun
      rw [hlifted, extract_exhausted hm hmark hlifting hfinal false hnone]
      exact Sight.verdict_false _ _
    · intro earlier current hearlier
      rw [hlifted]
      exact hearlier.lifting.prefix_of_exhausted hlifting hfinal
    · intro limit fuel hfuel
      have hrun := hlifting.run_eq hfinal (hlength ▸ hfuel) (hlifting.length_le_text hm hmark) limit
      have hstop := Run.stop_ne_outOfFuel hopening hclosing limit text.toList
      rw [String.length_toList] at hstop
      exact ⟨hrun, hrun ▸ hstop⟩

/-- The placeholder makes an opening marker with what follows, and the text grows with every round.
The extraction is over after three. -/
theorem rounds_end_of_growing_text :
    (⟨"<%", "%>"⟩ : Markers).Usable ∧ (⟨"<%", "%>"⟩ : Markers).tokenIn "-----<" = false ∧
      extract ⟨"<%", "%>"⟩ "-----<" false none "a <%x%>%y%>%z%> b" =
        .ok ⟨"a ---------------< b", [⟨2, "x"⟩, ⟨7, "y"⟩, ⟨12, "z"⟩]⟩ ∧
      ∀ rounds current,
        Rounds ['<', '%'] ['%', '>'] "-----<".toList "a <%x%>%y%>%z%> b".toList rounds current →
          rounds.length ≤ 3 := by
  have hm : (⟨"<%", "%>"⟩ : Markers).Usable := by decide
  have hmark : (⟨"<%", "%>"⟩ : Markers).tokenIn "-----<" = false := by decide
  have hextract : extract ⟨"<%", "%>"⟩ "-----<" false none "a <%x%>%y%>%z%> b" =
      .ok ⟨"a ---------------< b", [⟨2, "x"⟩, ⟨7, "y"⟩, ⟨12, "z"⟩]⟩ := by decide
  refine ⟨hm, hmark, hextract, fun earlier current hearlier => ?_⟩
  obtain ⟨rounds, final, -, -, hwhole, hbegins, -⟩ := (rounds_end hm hmark "a <%x%>%y%>%z%> b").2
  have hprefix := (hbegins earlier current hearlier).length_le
  have hlifted : [⟨2, "x"⟩, ⟨7, "y"⟩, ⟨12, "z"⟩] = (rounds.map Round.lifted).reverse :=
    congrArg Extraction.lifted (Except.ok.inj (hextract.symm.trans hwhole))
  rwa [← hlifted, List.length_reverse, List.length_map] at hprefix

end SlotQuery.Template
