import SlotQuery.Proofs.Template.Parts
import SlotQuery.Proofs.Template.Wrapped

/-!
# Templates that are put together from segments

A template is often known by its segments: fixed text, and literals between markers.  Here this
is followed through lifting and typing for the markers nobody has changed.  As long as no marker
can come of the fixed text and of the borders between the segments (`Segment.Clean`), lifting
takes out exactly the literals and leaves a placeholder for each (`Run.of_segments`).  The segments
are then the parts of the text (`Segment.parts`), so typing writes into it what is to be inline and
nothing else (`typeFrom_segments`).  `extract_typed_segments` puts the two together.

The one border that cannot be seen in the texts alone is that of an opening marker and a literal
that begins with a `>`: there lifting fails, so segments that are lifted have none
(`clean_of_extract`).
-/

namespace SlotQuery.Template

open Text

/-- A stretch of a template. -/
inductive Segment
  /-- Text that is no literal. -/
  | fixed (text : List Char)
  /-- The literal between two markers. -/
  | literal (text : List Char)

/-- Neither marker stands in the text. -/
def Tokenless (cs : List Char) : Prop :=
  ¬ ['<', '%'] <:+: cs ∧ ¬ ['%', '>'] <:+: cs

/-- Two texts without markers make one without, if none arises where they meet. -/
theorem Tokenless.append {cs ds : List Char} (hcs : Tokenless cs) (hds : Tokenless ds)
    (hpercent : ds.head? ≠ some '%') (hangle : ds.head? ≠ some '>') : Tokenless (cs ++ ds) := by
  constructor
  · rw [pair_infix_append]
    rintro (h | h | ⟨-, h⟩)
    · exact hcs.1 h
    · exact hds.1 h
    · exact hpercent h
  · rw [pair_infix_append]
    rintro (h | h | ⟨-, h⟩)
    · exact hcs.2 h
    · exact hds.2 h
    · exact hangle h

namespace Segment

/-- No marker comes of the segment beyond its own, whatever stands before it. -/
def Clean : Segment → Prop
  | fixed t => Tokenless t ∧ t.head? ≠ some '%' ∧ t.head? ≠ some '>'
  | literal l => ¬ ['%', '>'] <:+: l ∧ l.head? ≠ some '>'

/-- No marker comes of the segment beyond its own, unless its literal begins with a `>`. -/
def Closed : Segment → Prop
  | fixed t => (fixed t).Clean
  | literal l => ¬ ['%', '>'] <:+: l

/-- A segment of which no marker can come is closed. -/
theorem Clean.closed {s : Segment} (h : s.Clean) : s.Closed := by
  cases s with
  | fixed t => exact h
  | literal l => exact h.1

/-- The segment in the template. -/
def source : Segment → List Char
  | fixed t => t
  | literal l => ['<', '%'] ++ l ++ ['%', '>']

/-- The segment once the literals are lifted. -/
def marked : Segment → List Char
  | fixed t => t
  | literal _ => ['?']

/-- The segment in the statement. -/
def typed : Segment → List Char
  | fixed t => t
  | literal l =>
    match Literal.ofText (String.ofList l) with
    | .bound _ => ['?']
    | .inline text => text.toList

/-- The parameter that comes of the segment. -/
def param? : Segment → Option Param
  | fixed _ => none
  | literal l =>
    match Literal.ofText (String.ofList l) with
    | .bound p => some p
    | .inline _ => none

/-- The literals of the segments that follow a text, with the offsets at which they are lifted. -/
def lifts : List Char → List Segment → List Lifted
  | _, [] => []
  | before, fixed t :: segments => lifts (before ++ t) segments
  | before, literal l :: segments =>
    ⟨width before, String.ofList l⟩ :: lifts (before ++ ['?']) segments

/-- The first literal after a text without markers is what lifting sees. -/
theorem sight_of_literal {before l : List Char} (hbefore : Tokenless before)
    (hl : (literal l).Clean) (after : List Char) :
    Sight.of ['<', '%'] ['%', '>'] (before ++ (literal l).source ++ after) =
      .pair before l after := by
  have hopening : cut? ['<', '%'] (before ++ (literal l).source ++ after) =
      some (before, l ++ ['%', '>'] ++ after) := by
    have hsplit : before ++ (literal l).source ++ after =
        before ++ '<' :: '%' :: (l ++ ['%', '>'] ++ after) := by simp [source]
    rw [hsplit, cut?_pair_append (by decide) hbefore.1]
  have hclosing : cut? ['%', '>'] (before ++ (literal l).source ++ after) =
      some (before ++ ['<', '%'] ++ l, after) := by
    have hsplit : before ++ (literal l).source ++ after =
        (before ++ ['<', '%'] ++ l) ++ '%' :: '>' :: after := by simp [source]
    rw [hsplit, cut?_pair_append (by decide)]
    -- The borders are those of the opening marker, with `before` and with the literal.
    rw [pair_infix_append, pair_infix_append]
    rintro ((h | h | ⟨-, h⟩) | h | ⟨-, h⟩)
    · exact hbefore.2 h
    · revert h
      decide
    · revert h
      decide
    · exact hl.1 h
    · exact hl.2 h
  have hle : before.length + ['<', '%'].length ≤ (before ++ ['<', '%'] ++ l).length := by
    rw [List.length_append, List.length_append]
    omega
  have hliteral : (before ++ ['<', '%'] ++ l).drop (before.length + ['<', '%'].length) = l := by
    rw [← List.length_append, List.drop_left]
  simp only [Sight.of, hopening, hclosing, if_pos hle, hliteral]

/-- An opening marker whose literal begins with a `>` has lost its partner. -/
theorem sight_of_angle {before l : List Char} (hbefore : Tokenless before)
    (hl : l.head? = some '>') (after : List Char) :
    Sight.of ['<', '%'] ['%', '>'] (before ++ (literal l).source ++ after) =
      .unmatched .opening (width before) := by
  obtain ⟨rest, rfl⟩ := List.head?_eq_some_iff.mp hl
  have hopening : cut? ['<', '%'] (before ++ (literal ('>' :: rest)).source ++ after) =
      some (before, '>' :: rest ++ ['%', '>'] ++ after) := by
    have hsplit : before ++ (literal ('>' :: rest)).source ++ after =
        before ++ '<' :: '%' :: ('>' :: rest ++ ['%', '>'] ++ after) := by simp [source]
    rw [hsplit, cut?_pair_append (by decide) hbefore.1]
  have hclosing : cut? ['%', '>'] (before ++ (literal ('>' :: rest)).source ++ after) =
      some (before ++ ['<'], rest ++ ['%', '>'] ++ after) := by
    have hsplit : before ++ (literal ('>' :: rest)).source ++ after =
        (before ++ ['<']) ++ '%' :: '>' :: (rest ++ ['%', '>'] ++ after) := by simp [source]
    have hone : Tokenless ['<'] := ⟨by decide, by decide⟩
    rw [hsplit, cut?_pair_append (by decide) (hbefore.append hone (by decide) (by decide)).2]
  have hshort : ¬ before.length + ['<', '%'].length ≤ (before ++ ['<']).length := by simp
  have hlong : ¬ (before ++ ['<']).length < before.length := by simp
  simp only [Sight.of, hopening, hclosing, if_neg hshort, if_neg hlong]

end Segment

open Segment

/-- Lifting takes out the literals of clean segments, one after the other. -/
theorem Run.of_segments {segments : List Segment} (hclean : ∀ s ∈ segments, s.Clean) :
    ∀ (before : List Char) (fuel : Nat), Tokenless before →
      (segments.flatMap source).length ≤ fuel →
      Run.of ['<', '%'] ['%', '>'] ['?'] fuel none (before ++ segments.flatMap source) =
        ⟨before ++ segments.flatMap marked, lifts before segments, .done⟩ := by
  induction segments with
  | nil =>
      intro before fuel hbefore _
      rw [List.flatMap_nil, List.append_nil, Run.of_tokenless hbefore.1 hbefore.2,
        List.flatMap_nil, List.append_nil, lifts]
  | cons s segments ih =>
      intro before fuel hbefore hfuel
      obtain ⟨hs, hrest⟩ := List.forall_mem_cons.mp hclean
      rw [List.flatMap_cons, List.length_append] at hfuel
      cases s with
      | fixed t =>
          obtain ⟨htokenless, hpercent, hangle⟩ := hs
          have hnext := ih hrest _ fuel (hbefore.append htokenless hpercent hangle) (by omega)
          rw [List.flatMap_cons, List.flatMap_cons, source, marked, lifts, ← List.append_assoc,
            hnext, List.append_assoc]
      | literal l =>
          have hpos : 4 ≤ (literal l).source.length := by simp [source]
          obtain ⟨n, rfl⟩ := Nat.exists_eq_succ_of_ne_zero (n := fuel) (by omega)
          have hmark : Tokenless ['?'] := by
            constructor
            · decide
            · decide
          have hnext := ih hrest _ n (hbefore.append hmark (by decide) (by decide)) (by omega)
          rw [List.flatMap_cons, ← List.append_assoc, Run.of_succ, sight_of_literal hbefore hs]
          dsimp only
          rw [hnext, List.flatMap_cons, marked, lifts, ← List.append_assoc]

namespace Segment

/-- The segments by their literals. -/
def parts : List Segment → Parts
  | [] => ⟨[], []⟩
  | fixed t :: segments => (parts segments).prepend t
  | literal l :: segments => ⟨⟨[], l⟩ :: (parts segments).slots, (parts segments).rest⟩

variable (segments : List Segment)

/-- The marked text goes segment by segment. -/
theorem marked_parts : (parts segments).marked ['?'] = segments.flatMap marked := by
  induction segments with
  | nil => rfl
  | cons s segments ih =>
      rw [List.flatMap_cons, ← ih]
      cases s with
      | fixed t => exact Parts.written_prepend t _
      | literal l => exact Parts.marked_cons

theorem typed_parts : (parts segments).typed ['?'] = segments.flatMap typed := by
  induction segments with
  | nil => rfl
  | cons s segments ih =>
      rw [List.flatMap_cons, ← ih]
      cases s with
      | fixed t => exact Parts.written_prepend t _
      | literal l => exact Parts.typed_cons

theorem params_parts : (parts segments).params = segments.filterMap param? := by
  induction segments with
  | nil => rfl
  | cons s segments ih =>
      rw [List.filterMap_cons, ← ih]
      cases s with
      | fixed t => exact Parts.params_prepend t _
      | literal l => exact List.filterMap_cons

/-- The literals are lifted at the places of their segments. -/
theorem liftsFrom_parts (before : List Char) :
    liftsFrom ['?'] (width before) (parts segments).slots = lifts before segments := by
  induction segments generalizing before with
  | nil => rfl
  | cons s segments ih =>
      cases s with
      | fixed t => rw [parts, Parts.liftsFrom_prepend, ← width_append, ih, lifts]
      | literal l =>
          rw [parts, liftsFrom, width_nil, Nat.add_zero, ← width_append, ih, lifts]

end Segment

/-- Typing keeps up with what it has written: `done` is how far it has come, and `before` is that
same text as it was when the literals were lifted. -/
theorem typeFrom_segments (segments : List Segment) (before done : List Char) :
    typeFrom ['?'] (width done - width before) (done ++ segments.flatMap marked)
        (lifts before segments) =
      .ok (done ++ segments.flatMap typed, segments.filterMap param?) := by
  rw [← marked_parts, ← typed_parts, ← params_parts, ← liftsFrom_parts]
  exact Parts.typeFrom_liftsFrom ['?'] _ _ _ done

/-- Segments are lifted and typed as they are. -/
theorem extract_typed_segments {segments : List Segment} (hclean : ∀ s ∈ segments, s.Clean) :
    (extract Settings.builtin.delimiters placeholder true none
        (String.ofList (segments.flatMap source)) >>= fun e => e.typed placeholder) =
      .ok ⟨String.ofList (segments.flatMap typed), segments.filterMap param?⟩ := by
  have hlength : (segments.flatMap source).length ≤
      (String.ofList (segments.flatMap source)).length := by
    rw [String.length_ofList]
  have htokenless : Tokenless [] := by
    constructor
    · decide
    · decide
  have hrun := Run.of_segments hclean [] _ htokenless hlength
  have htyped := typeFrom_segments segments [] []
  rw [extract_strict (by decide) (by decide), String.toList_ofList]
  rw [List.nil_append, List.nil_append] at hrun
  have hmarkers : Settings.builtin.delimiters.opening.toList = ['<', '%'] ∧
      Settings.builtin.delimiters.closing.toList = ['%', '>'] ∧ placeholder.toList = ['?'] :=
    ⟨rfl, rfl, rfl⟩
  rw [hmarkers.1, hmarkers.2.1, hmarkers.2.2, hrun]
  show Extraction.typed ⟨String.ofList (segments.flatMap marked), lifts [] segments⟩ placeholder = _
  rw [Extraction.typed, hmarkers.2.2, String.toList_ofList]
  rw [Int.sub_self, List.nil_append] at htyped
  rw [htyped]
  rfl

/-- Where lifting meets no marker without a partner, no literal begins with a `>`. -/
theorem Run.clean_of_segments {segments : List Segment} (hclosed : ∀ s ∈ segments, s.Closed) :
    ∀ (before : List Char) (fuel : Nat), Tokenless before →
      (segments.flatMap source).length ≤ fuel →
      (∀ side offset, (Run.of ['<', '%'] ['%', '>'] ['?'] fuel none
        (before ++ segments.flatMap source)).stop ≠ .unmatched side offset) →
      ∀ s ∈ segments, s.Clean := by
  induction segments with
  | nil => exact fun _ _ _ _ _ s hs => absurd hs List.not_mem_nil
  | cons s segments ih =>
      intro before fuel hbefore hfuel hstop
      obtain ⟨hs, hrest⟩ := List.forall_mem_cons.mp hclosed
      rw [List.flatMap_cons, List.length_append] at hfuel
      rw [List.flatMap_cons, ← List.append_assoc] at hstop
      refine List.forall_mem_cons.mpr ?_
      cases s with
      | fixed t =>
          obtain ⟨htokenless, hpercent, hangle⟩ := hs
          exact ⟨⟨htokenless, hpercent, hangle⟩,
            ih hrest _ fuel (hbefore.append htokenless hpercent hangle) (by omega) hstop⟩
      | literal l =>
          have hpos : 4 ≤ (literal l).source.length := by simp [source]
          obtain ⟨n, rfl⟩ := Nat.exists_eq_succ_of_ne_zero (n := fuel) (by omega)
          rw [Run.of_succ] at hstop
          have hangle : l.head? ≠ some '>' := by
            intro h
            rw [sight_of_angle hbefore h] at hstop
            exact hstop .opening (width before) rfl
          have hclean : (literal l).Clean := ⟨hs, hangle⟩
          rw [sight_of_literal hbefore hclean] at hstop
          have hmark : Tokenless ['?'] := ⟨by decide, by decide⟩
          exact ⟨hclean,
            ih hrest _ n (hbefore.append hmark (by decide) (by decide)) (by omega) hstop⟩

/-- Segments that are lifted at all are clean. -/
theorem clean_of_extract {segments : List Segment} (hclosed : ∀ s ∈ segments, s.Closed)
    {e : Extraction} (h : extract Settings.builtin.delimiters placeholder true none
      (String.ofList (segments.flatMap source)) = .ok e) : ∀ s ∈ segments, s.Clean := by
  have hlength : (segments.flatMap source).length ≤
      (String.ofList (segments.flatMap source)).length := by
    rw [String.length_ofList]
  refine Run.clean_of_segments hclosed [] _ ⟨by decide, by decide⟩ hlength ?_
  intro side offset hstop
  rw [extract_strict (by decide) (by decide), String.toList_ofList] at h
  have hmarkers : Settings.builtin.delimiters.opening.toList = ['<', '%'] ∧
      Settings.builtin.delimiters.closing.toList = ['%', '>'] ∧ placeholder.toList = ['?'] :=
    ⟨rfl, rfl, rfl⟩
  rw [hmarkers.1, hmarkers.2.1, hmarkers.2.2, Run.strictly] at h
  rw [List.nil_append] at hstop
  rw [hstop] at h
  cases h

end SlotQuery.Template
