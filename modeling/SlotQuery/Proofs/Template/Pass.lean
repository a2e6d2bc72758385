import Mathlib.Tactic.SplitIfs
import SlotQuery.Proofs.Template.Lifting

/-!
# Lifting in a single pass

Lifting searches the whole text again after every literal, with the placeholders of the literals
before in it, and typing then rewrites the result once more.  `Pass.of` is the reading of a template
that one would rather have in mind: it goes over the text once from left to right, and never looks
back.  `extract_eq_pass` says that the two come to the same, for every placeholder that shares no
letter with the markers.

What makes it so is that no marker can stand in what is already rewritten, and none can begin there
and end in the text that remains.  A search therefore goes past all of it (`Passed`), and sees in
the whole text just what there is to see in the rest (`Passed.sight`).  A placeholder keeps the
rewritten text so (`Passed.append`), and the rest is one induction along the pass (`Passed.run`).
-/

namespace SlotQuery.Template

open Text

/-- What a single reading of a text finds: its parts, and the marker without a partner that ended it
if there is one, with its offset in what follows the last literal. -/
structure Pass extends Parts where
  stray : Option (Side × Nat)

/-- The pass, with a literal before it. -/
def Pass.after (slot : Slot) (pass : Pass) : Pass :=
  ⟨⟨slot :: pass.slots, pass.rest⟩, pass.stray⟩

/-- A pair takes its markers with it, so less of the text is left. -/
theorem Sight.length_lt_of_pair {opening closing text before literal after : List Char}
    (hclosing : closing ≠ []) (h : Sight.of opening closing text = .pair before literal after) :
    after.length < text.length := by
  rw [eq_of_cut? (Sight.of_eq_pair h).2]
  have := List.length_pos_iff.mpr hclosing
  simp only [List.length_append]
  omega

/-- Reads a text from left to right.  In what remains of it, the first opening and the first closing
marker enclose a literal, and the reading goes on behind them; or there is no marker, or one without
a partner, and the reading is at its end. -/
def Pass.of {m : Markers} (hm : m.Usable) (text : List Char) : Pass :=
  match hsight : Sight.of m.opening.toList m.closing.toList text with
  | .nothing => ⟨⟨[], text⟩, none⟩
  | .unmatched side offset => ⟨⟨[], text⟩, some (side, offset)⟩
  | .pair before literal after =>
    have : after.length < text.length := Sight.length_lt_of_pair hm.closing_ne_nil hsight
    (Pass.of hm after).after ⟨before, literal⟩
termination_by text.length

namespace Pass

/-- The text up to the end of the last literal, with a placeholder for every literal. -/
def rewritten (mark : List Char) (pass : Pass) : List Char :=
  Parts.marked mark ⟨pass.slots, []⟩

/-- Why lifting ends where the pass does, if it has rewritten `front` before. -/
def stop (mark front : List Char) (pass : Pass) : Stop :=
  match pass.stray with
  | none => .done
  | some (side, offset) => .unmatched side (width front + width (pass.rewritten mark) + offset)

/-- Where the pass stops behind a slot is where it stops with that slot in front. -/
theorem stop_after (mark front : List Char) (slot : Slot) (pass : Pass) :
    (pass.after slot).stop mark front = pass.stop mark (front ++ (slot.gap ++ mark)) := by
  unfold stop after
  cases pass.stray with
  | none => rfl
  | some stray =>
      rw [rewritten, Parts.marked_cons]
      simp only [width_append, Nat.add_assoc]
      rfl

/-- The parts that are read are those of the text. -/
theorem source_of {m : Markers} (hm : m.Usable) (text : List Char) :
    (Pass.of hm text).source m.opening.toList m.closing.toList = text := by
  fun_induction Pass.of hm text with
  | case1 text hsight => rfl
  | case2 text side offset hsight => rfl
  | case3 text before literal after hsight hshorter ih =>
      rw [Pass.after, Parts.source_cons, ih, eq_of_cut? (Sight.of_eq_pair hsight).2]
      simp only [List.append_assoc]

end Pass

/-- What is seen, with a text in front of it. -/
def Sight.behind (front : List Char) : Sight → Sight
  | .nothing => .nothing
  | .pair before literal after => .pair (front ++ before) literal after
  | .unmatched side offset => .unmatched side (width front + offset)

/-- A search for either marker goes past the text. -/
structure Passed (m : Markers) (front : List Char) : Prop where
  opening : Skips m.opening.toList front
  closing : Skips m.closing.toList front

variable {m : Markers} {mark front text before literal after : List Char}

theorem Passed.nil (m : Markers) : Passed m [] := ⟨.nil _, .nil _⟩

/-- Behind a text that is passed, the same is seen as without it. -/
theorem Passed.sight (h : Passed m front) (text : List Char) :
    Sight.of m.opening.toList m.closing.toList (front ++ text) =
      (Sight.of m.opening.toList m.closing.toList text).behind front := by
  rw [Sight.of, h.opening, h.closing, Sight.of]
  cases cut? m.opening.toList text with
  | none =>
      cases cut? m.closing.toList text with
      | none => rfl
      | some closed => exact congrArg (Sight.unmatched .closing) (width_append _ _)
  | some opened =>
      cases cut? m.closing.toList text with
      | none => exact congrArg (Sight.unmatched .opening) (width_append _ _)
      | some closed =>
          simp only [Option.map_some, List.length_append, Nat.add_assoc, Nat.add_le_add_iff_left,
            Nat.add_lt_add_iff_left, List.drop_length_add_append]
          split_ifs
          · rfl
          · exact congrArg (Sight.unmatched .closing) (width_append _ _)
          · exact congrArg (Sight.unmatched .opening) (width_append _ _)

/-- The letters of a placeholder are none of the markers. -/
def Apart (m : Markers) (mark : List Char) : Prop :=
  mark ≠ [] ∧ ∀ c ∈ mark, c ∉ m.opening.toList ∧ c ∉ m.closing.toList

/-- A marker begins with a letter, which would be one of the placeholder. -/
theorem Apart.tokenIn {mark : String} (h : Apart m mark.toList) (hm : m.Usable) :
    m.tokenIn mark = false := by
  have hnot : ∀ {token : List Char}, token ≠ [] → (∀ c ∈ mark.toList, c ∉ token) →
      ¬ token <:+: mark.toList := by
    intro token htoken hapart hwithin
    obtain ⟨t, ts, rfl⟩ := List.exists_cons_of_ne_nil htoken
    exact hapart t (hwithin.subset List.mem_cons_self) List.mem_cons_self
  have hopening := hnot hm.opening_ne_nil fun c hc => (h.2 c hc).1
  have hclosing := hnot hm.closing_ne_nil fun c hc => (h.2 c hc).2
  rw [Markers.tokenIn, occursIn_eq_false_iff.mpr hopening, occursIn_eq_false_iff.mpr hclosing]
  rfl

/-- A placeholder in the place of a literal is passed, with what stands before it. -/
theorem Passed.append (hm : m.Usable) (hmark : Apart m mark) (h : Passed m front)
    (hsight : Sight.of m.opening.toList m.closing.toList text = .pair before literal after) :
    Passed m (front ++ (before ++ mark)) := by
  obtain ⟨⟨rest, hopening⟩, hclosing⟩ := Sight.of_eq_pair hsight
  constructor
  · refine h.opening.append (skips_of_apart hm.opening_ne_nil hmark.1 ?_ ?_)
    · exact fun c hc => (hmark.2 c hc).1
    · exact not_infix_of_cut? hm.opening_ne_nil hopening
  · refine h.closing.append (skips_of_apart hm.closing_ne_nil hmark.1 ?_ ?_)
    · exact fun c hc => (hmark.2 c hc).2
    · intro hbefore
      refine not_infix_of_cut? hm.closing_ne_nil hclosing ?_
      rw [List.append_assoc]
      exact hbefore.trans (List.prefix_append _ _).isInfix

/-- Behind a text that is passed, lifting does what the pass over the rest of the text says. -/
theorem Passed.run (hm : m.Usable) (hmark : Apart m mark) (text : List Char) :
    ∀ {front : List Char} {fuel : Nat}, Passed m front → text.length ≤ fuel →
      Run.of m.opening.toList m.closing.toList mark fuel none (front ++ text) =
        ⟨front ++ (Pass.of hm text).marked mark,
          liftsFrom mark (width front) (Pass.of hm text).slots,
          (Pass.of hm text).stop mark front⟩ := by
  fun_induction Pass.of hm text with
  | case1 text hsight =>
      intro front fuel hfront hfuel
      have hseen := hfront.sight text
      rw [hsight, Sight.behind] at hseen
      exact Run.of_nothing fuel hseen
  | case2 text side offset hsight =>
      intro front fuel hfront hfuel
      have hseen := hfront.sight text
      rw [hsight, Sight.behind] at hseen
      exact Run.of_unmatched fuel hseen
  | case3 text before literal after hsight hshorter ih =>
      intro front fuel hfront hfuel
      obtain ⟨n, rfl⟩ := Nat.exists_eq_succ_of_ne_zero (n := fuel) (by omega)
      have hseen := hfront.sight text
      rw [hsight, Sight.behind] at hseen
      have hnext := @ih _ n (hfront.append hm hmark hsight) (by omega)
      rw [Run.of_succ, hseen]
      dsimp only
      rw [List.append_assoc front, hnext, Pass.stop_after, Pass.after, Parts.marked_cons, liftsFrom]
      simp only [width_append, Nat.add_assoc, List.append_assoc]

/-- Lifting and typing come to the same as a single pass, if the placeholder shares no letter with
the markers.  The pass takes the text apart, and an extraction ends with an error exactly where the
pass meets a marker without a partner, at its offset in the text as it is rewritten by then.
Otherwise, or if such a marker is let be, what is extracted are the literals of the pass, by
increasing offsets, and each offset is that of the literal's own placeholder in the final text.
Typing then writes each of them as it is classified, between the texts that were copied, and gives
the parameters in their order. -/
theorem extract_eq_pass {m : Markers} (hm : m.Usable) {mark : String} (hmark : Apart m mark.toList)
    (text : String) :
    let pass := Pass.of hm text.toList
    let e := pass.extraction mark
    pass.source m.opening.toList m.closing.toList = text.toList ∧
      extract m mark true none text =
        (match pass.stray with
        | none => .ok e
        | some (side, offset) =>
          .error (.unmatched side (width (pass.rewritten mark.toList) + offset))) ∧
      extract m mark false none text = .ok e ∧
      e.lifted.map Lifted.literal = pass.slots.map (fun slot => String.ofList slot.literal) ∧
      e.lifted.Pairwise (fun v w => v.offset < w.offset) ∧
      (∀ front slot back, pass.slots = front ++ slot :: back →
        ∃ v, e.lifted[front.length]? = some v ∧
          around? mark.toList v.offset e.sql.toList =
            some (Parts.marked mark.toList ⟨front, slot.gap⟩,
              Parts.marked mark.toList ⟨back, pass.rest⟩)) ∧
      e.typed mark = .ok ⟨String.ofList (pass.typed mark.toList), pass.params⟩ := by
  intro pass e
  have hnone : m.tokenIn mark = false := hmark.tokenIn hm
  have hrun := Passed.run hm hmark text.toList (.nil m) (Nat.le_refl _)
  rw [List.nil_append, List.nil_append, String.length_toList] at hrun
  refine ⟨Pass.source_of hm _, ?_, ?_, map_literal_liftsFrom, Parts.lifted_increasing hmark.1 _, ?_,
    Parts.typed_eq mark _⟩
  · rw [extract_strict hm hnone, hrun, Run.strictly, Pass.stop, width_nil, Nat.zero_add]
    cases pass.stray with
    | none => rfl
    | some stray => rfl
  · rw [extract_eq hm hnone, hrun]
    rfl
  · intro front slot back hslots
    have hsql : e.sql.toList = pass.marked mark.toList := String.toList_ofList
    rw [hsql]
    exact Parts.slot_at mark.toList hslots

/-- Literals that are written into the statement, with a parameter after them. -/
theorem extract_eq_pass_of_inlined :
    let m : Markers := ⟨"<%", "%>"⟩
    let hm : m.Usable := by decide
    let pass := Pass.of hm "é <%%>, <%null%> = <%x%>".toList
    let e : Extraction := ⟨"é ?, ? = ?", [⟨3, ""⟩, ⟨6, "null"⟩, ⟨10, "x"⟩]⟩
    Apart m "?".toList ∧
      pass.slots = [⟨"é ".toList, []⟩, ⟨", ".toList, "null".toList⟩, ⟨" = ".toList, ['x']⟩] ∧
      extract m "?" true none "é <%%>, <%null%> = <%x%>" = .ok e ∧
      e.typed "?" = .ok ⟨"é '', NULL = ?", [.string "x"]⟩ := by
  intro m hm pass e
  have hmark : Apart m "?".toList :=
    ⟨by decide, List.forall_mem_singleton.mpr ⟨by decide, by decide⟩⟩
  have hslots : pass.slots =
      [⟨"é ".toList, []⟩, ⟨", ".toList, "null".toList⟩, ⟨" = ".toList, ['x']⟩] := by
    decide +kernel
  have hrest : pass.rest = [] := by decide +kernel
  have hstray : pass.stray = none := by decide +kernel
  have he : pass.extraction "?" = e := by
    rw [Parts.extraction, Parts.marked, Parts.written, Parts.lifted, hslots, hrest]
    rfl
  have htext : pass.typed "?".toList = "é '', NULL = ?".toList := by
    rw [Parts.typed, Parts.written, hslots, hrest]
    decide
  have hparams : pass.params = [.string "x"] := by
    rw [Parts.params, hslots]
    decide
  obtain ⟨-, hextract, -, -, -, -, htyped⟩ :=
    extract_eq_pass hm hmark "é <%%>, <%null%> = <%x%>"
  rw [hstray] at hextract
  rw [he, htext, hparams] at htyped
  exact ⟨hmark, hslots, hextract.trans (congrArg Except.ok he), htyped⟩

end SlotQuery.Template
