import SlotQuery.Proofs.Settings.Layers
import SlotQuery.Proofs.Template.Lifting

/-!
# Templates under settings that were accepted

Layers of settings let every pair of markers through that can be scanned for.  They do not ask
about the placeholder, and a pair that shares letters with it can spoil a template in two ways.  A
marker that is the placeholder itself fails every template.  And a placeholder, together with what
comes to stand beside it, can make a new opening marker; a later literal then begins there and
swallows the placeholder of an earlier one.

The second is seen in the offsets: they increase (`Extraction.InOrder`) exactly if every literal has
a placeholder of its own (`inOrder_iff`).  They always do if no letter of the placeholder is one of
the opening marker (`Lifting.increasing`); the closing marker does not matter here.

`prepare_of_reached` says what becomes of a template under all settings that layers can lead to.
-/

namespace SlotQuery.Template

open Text

/-- The offsets of the literals increase. -/
def Extraction.InOrder (e : Extraction) : Prop :=
  e.lifted.Pairwise fun v w => v.offset < w.offset

instance (e : Extraction) : Decidable e.InOrder :=
  inferInstanceAs (Decidable (List.Pairwise _ _))

section

variable {opening closing mark before after text final : List Char} {vs : List Lifted}

/-- Lifting never goes back over a placeholder that shares no letter with the opening marker. -/
theorem Lifting.behind (hopening : opening ≠ []) (hmark : mark ≠ [])
    (hapart : ∀ c ∈ mark, c ∉ opening) (hbefore : ¬ opening <:+: before)
    (h : Lifting opening closing mark (before ++ mark ++ after) vs final) :
    ∀ v ∈ vs, width before + width mark ≤ v.offset := by
  generalize htext : before ++ mark ++ after = text at h
  induction h generalizing before after with
  | done text => exact fun v hv => absurd hv List.not_mem_nil
  | @step text front literal back final vs hsight rest ih =>
      obtain ⟨⟨tail, hcut⟩, -⟩ := Sight.of_eq_pair hsight
      have hfront : width before + width mark ≤ width front := by
        rw [← htext, skips_of_apart hopening hmark hapart hbefore] at hcut
        obtain ⟨⟨gap, tail'⟩, -, hgap⟩ := Option.map_eq_some_iff.mp hcut
        rw [← (Prod.mk.inj hgap).1, width_append, width_append]
        exact Nat.le_add_right _ _
      refine List.forall_mem_cons.mpr ⟨hfront, fun v hv => ?_⟩
      have hlater := ih (not_infix_of_cut? hopening hcut) rfl v hv
      omega

/-- If no letter of the placeholder is one of the opening marker, every placeholder ends before the
next one begins. -/
theorem Lifting.increasing (hopening : opening ≠ []) (hmark : mark ≠ [])
    (hapart : ∀ c ∈ mark, c ∉ opening) (h : Lifting opening closing mark text vs final) :
    vs.Pairwise fun v w => v.offset + width mark ≤ w.offset := by
  induction h with
  | done text => exact .nil
  | @step text before literal after final vs hsight rest ih =>
      obtain ⟨⟨tail, hcut⟩, -⟩ := Sight.of_eq_pair hsight
      have hbefore := not_infix_of_cut? hopening hcut
      exact List.pairwise_cons.mpr ⟨rest.behind hopening hmark hapart hbefore, ih⟩

end

/-- Of two fronts of a text, the one with fewer bytes is a front of the other. -/
theorem prefix_of_width_le {cs ds text : List Char} (hcs : cs <+: text) (hds : ds <+: text)
    (h : width cs ≤ width ds) : cs <+: ds := by
  rcases List.prefix_or_prefix_of_prefix hcs hds with hle | ⟨more, rfl⟩
  · exact hle
  · have hnone : more = [] := by
      by_contra hmore
      have := width_pos hmore
      rw [width_append] at h
      omega
    rw [hnone, List.append_nil]

section

variable {opening closing mark text final front after : List Char} {vs : List Lifted}

/-- A text whose literals all stand behind a front is that front and another text. -/
theorem Parts.exists_behind {p : Parts} (h : p.source opening closing = front ++ after)
    (hbehind : ∀ v ∈ p.lifted mark, width front ≤ v.offset) : ∃ q : Parts, p = q.prepend front := by
  obtain ⟨slots, rest⟩ := p
  cases slots with
  | nil =>
      obtain rfl : rest = front ++ after := h
      exact ⟨⟨[], after⟩, rfl⟩
  | cons slot slots =>
      have hgap : front <+: slot.gap := by
        refine prefix_of_width_le ⟨after, h.symm⟩ ?_ ?_
        · rw [source_cons]
          exact List.prefix_append _ _
        · have hfirst := hbehind _ List.mem_cons_self
          rwa [Nat.zero_add] at hfirst
      obtain ⟨gap, hgap⟩ := hgap
      refine ⟨⟨⟨gap, slot.literal⟩ :: slots, rest⟩, ?_⟩
      rw [prepend, hgap]

/-- Where every placeholder ends before the next one begins, no literal was lifted out of a stretch
that another had left behind: the text has parts, and the literals are theirs. -/
theorem Lifting.exists_parts (h : Lifting opening closing mark text vs final)
    (horder : vs.Pairwise fun v w => v.offset + width mark ≤ w.offset) :
    ∃ p : Parts, p.source opening closing = text ∧ p.marked mark = final ∧
      p.lifted mark = vs := by
  induction h with
  | done text => exact ⟨⟨[], text⟩, rfl, rfl, rfl⟩
  | @step text before literal after final vs hsight rest ih =>
      obtain ⟨hfirst, hlater⟩ := List.pairwise_cons.mp horder
      obtain ⟨p, hsource, rfl, rfl⟩ := ih hlater
      have hbehind : ∀ v ∈ p.lifted mark, width (before ++ mark) ≤ v.offset := by
        intro v hv
        rw [width_append]
        exact hfirst v hv
      obtain ⟨q, rfl⟩ := Parts.exists_behind hsource hbehind
      have hafter : q.source opening closing = after :=
        List.append_cancel_left ((Parts.written_prepend _ _).symm.trans hsource)
      refine ⟨⟨⟨before, literal⟩ :: q.slots, q.rest⟩, ?_, ?_, ?_⟩
      · rw [eq_of_cut? (Sight.of_eq_pair hsight).2, Parts.source_cons, ← hafter]
        simp only [List.append_assoc]
      · rw [Parts.marked_cons, Parts.marked, Parts.marked, Parts.written_prepend, List.append_assoc]
      · rw [Parts.lifted, Parts.lifted, Parts.liftsFrom_prepend, liftsFrom, width_append,
          Nat.zero_add, Nat.zero_add]

end

/-- Typing fails only over a literal that does not find its placeholder. -/
theorem exists_of_typeFrom_eq_error {mark text : List Char} {shift : Int} {vs : List Lifted}
    {error : Error} (h : typeFrom mark shift text vs = .error error) :
    ∃ v ∈ vs, error = .value (.placeholderMissing v.offset) := by
  induction vs generalizing shift text with
  | nil => cases h
  | cons v vs ih =>
      rw [typeFrom] at h
      cases hkind : Literal.ofText v.literal with
      | bound p =>
          rw [hkind] at h
          dsimp only at h
          cases hrest : typeFrom mark shift text vs with
          | ok typed =>
              rw [hrest] at h
              cases h
          | error error' =>
              rw [hrest] at h
              cases h
              obtain ⟨w, hw, rfl⟩ := ih hrest
              exact ⟨w, List.mem_cons_of_mem v hw, rfl⟩
      | inline s =>
          rw [hkind] at h
          dsimp only at h
          cases haround : around? mark (v.offset + shift) text with
          | none =>
              rw [haround] at h
              cases h
              exact ⟨v, List.mem_cons_self, rfl⟩
          | some parts =>
              rw [haround] at h
              obtain ⟨w, hw, rfl⟩ := ih h
              exact ⟨w, List.mem_cons_of_mem v hw, rfl⟩

/-- Typing fails at a literal that was lifted, with the error that names its offset. -/
theorem exists_of_typed_eq_error {e : Extraction} {mark : String} {error : Error}
    (h : e.typed mark = .error error) :
    ∃ v ∈ e.lifted, error = .value (.placeholderMissing v.offset) := by
  cases htyped : typeFrom mark.toList 0 e.sql.toList e.lifted with
  | ok typed =>
      rw [Extraction.typed, htyped] at h
      cases h
  | error error' =>
      rw [Extraction.typed, htyped] at h
      cases h
      exact exists_of_typeFrom_eq_error htyped

/-- A strict run fails with an unmatched marker and nothing else. -/
theorem Run.exists_of_strictly_eq_error {run : Run} {error : Error}
    (h : run.strictly = .error error) : ∃ side offset, error = .unmatched side offset := by
  unfold Run.strictly at h
  split at h
  · exact ⟨_, _, (Except.error.inj h).symm⟩
  · cases h

section

variable {m : Markers} {mark text : String} {e : Extraction}

/-- The steps that lead to an extraction. -/
theorem lifting_of_extract (hm : m.Usable) (hmark : m.tokenIn mark = false)
    (h : extract m mark true none text = .ok e) :
    Lifting m.opening.toList m.closing.toList mark.toList text.toList e.lifted e.sql.toList := by
  rw [extract_strict hm hmark] at h
  rw [(Run.of_strictly_eq_ok h).1, String.toList_ofList]
  exact (Run.lifting _ _ _ _ _ _).1

/-- The offsets increase exactly if every literal has a placeholder of its own. -/
theorem inOrder_iff (hm : m.Usable) (hmark : m.tokenIn placeholder = false)
    (h : extract m placeholder true none text = .ok e) :
    e.InOrder ↔ ∃ p : Parts, p.source m.opening.toList m.closing.toList = text.toList ∧
      p.extraction placeholder = e := by
  constructor
  · intro horder
    obtain ⟨p, hsource, hmarked, hlifted⟩ := (lifting_of_extract hm hmark h).exists_parts horder
    refine ⟨p, hsource, ?_⟩
    rw [Parts.extraction, hmarked, hlifted, String.ofList_toList]
  · rintro ⟨p, -, rfl⟩
    exact p.lifted_increasing (by decide)

/-- Where the placeholder is no letter of the opening marker, no literal swallows another. -/
theorem inOrder_of_not_mem (hm : m.Usable) (hmark : m.tokenIn placeholder = false)
    (hopening : '?' ∉ m.opening.toList) (h : extract m placeholder true none text = .ok e) :
    e.InOrder := by
  refine (lifting_of_extract hm hmark h).increasing hm.opening_ne_nil (by decide) ?_
  exact List.forall_mem_singleton.mpr hopening

/-- A marker that is part of the placeholder fails every extraction. -/
theorem extract_of_tokenIn (hm : m.Usable) (hmark : m.tokenIn mark = true) (strict : Bool)
    (limit : Option Nat) (text : String) :
    extract m mark strict limit text = .error (.config (.tokenInPlaceholder mark m)) := by
  rw [extract, if_neg (not_not.mpr hm), hmark, if_pos rfl]

variable {s : Settings} {template : String} {error : Error}

/-- A template whose literals cannot be lifted is rejected with that error. -/
theorem prepare_of_error
    (h : extract s.delimiters placeholder true none (condense s.delimiters template) =
      .error error) : prepare s template = .error error := by
  rw [prepare, h]
  rfl

/-- A template whose literals can be lifted is prepared by typing them. -/
theorem prepare_of_ok
    (h : extract s.delimiters placeholder true none (condense s.delimiters template) = .ok e) :
    prepare s template = e.typed placeholder := by
  rw [prepare, h]
  rfl

/-- What is prepared from a template that has parts. -/
theorem prepare_of_parts
    (h : extract s.delimiters placeholder true none (condense s.delimiters template) = .ok e)
    {p : Parts} (hp : p.extraction placeholder = e) :
    prepare s template = .ok ⟨String.ofList (p.typed placeholder.toList), p.params⟩ := by
  rw [prepare_of_ok h, ← hp, Parts.typed_eq]

/-- Where no marker is the placeholder, preparing fails for a marker without a partner, or over a
literal out of order. -/
theorem exists_of_prepare_eq_error (hs : s.delimiters.Usable)
    (hmark : s.delimiters.tokenIn placeholder = false) (h : prepare s template = .error error) :
    (∃ side offset, error = .unmatched side offset ∧
        extract s.delimiters placeholder true none (condense s.delimiters template) =
          .error error) ∨
      ∃ e, extract s.delimiters placeholder true none (condense s.delimiters template) = .ok e ∧
        ¬ e.InOrder ∧ ∃ v ∈ e.lifted, error = .value (.placeholderMissing v.offset) := by
  cases hextract :
      extract s.delimiters placeholder true none (condense s.delimiters template) with
  | error error' =>
      rw [prepare_of_error hextract] at h
      obtain rfl := Except.error.inj h
      rw [extract_strict hs hmark] at hextract
      obtain ⟨side, offset, rfl⟩ := Run.exists_of_strictly_eq_error hextract
      exact .inl ⟨side, offset, rfl, rfl⟩
  | ok e =>
      refine .inr ⟨e, rfl, fun horder => ?_, ?_⟩
      · obtain ⟨p, -, hp⟩ := (inOrder_iff hs hmark hextract).mp horder
        rw [prepare_of_parts hextract hp] at h
        cases h
      · rw [prepare_of_ok hextract] at h
        exact exists_of_typed_eq_error h

/-- No driver is asked for anything until a template has become a statement. -/
theorem driver?_of_prepare {s : Settings} {template : String} {error : Error}
    (h : prepare s template = .error error) : error.driver? = none := by
  cases hextract :
      extract s.delimiters placeholder true none (condense s.delimiters template) with
  | ok e =>
      rw [prepare_of_ok hextract] at h
      obtain ⟨v, -, rfl⟩ := exists_of_typed_eq_error h
      rfl
  | error error' =>
      rw [prepare_of_error hextract] at h
      obtain rfl := Except.error.inj h
      unfold extract at hextract
      by_cases hm : s.delimiters.Usable
      · rw [if_neg (not_not.mpr hm)] at hextract
        cases hmark : s.delimiters.tokenIn placeholder with
        | true =>
            rw [hmark, if_pos rfl] at hextract
            rw [← Except.error.inj hextract]
            rfl
        | false =>
            rw [hmark, if_neg Bool.false_ne_true] at hextract
            dsimp only at hextract
            split at hextract
            · rw [← Except.error.inj hextract]
              rfl
            · cases hextract
      · rw [if_pos hm] at hextract
        rw [← Except.error.inj hextract]
        rfl

end

/-- What becomes of a template under settings that layers have led to.  If a marker is the
placeholder, nothing can be prepared.  Otherwise preparing fails for a marker without a partner, or
gives what there is to give: as long as the offsets of the literals increase, the template has parts
that account for every literal, and the statement and its parameters are those of the parts.  They
fail to increase only for an opening marker with the placeholder in it, and only then can a
placeholder be missing. -/
theorem prepare_of_reached {s : Settings} (hs : s.Reached) (template : String) :
    let m := s.delimiters
    let text := condense m template
    (prepare s template = .error (.config (.tokenInPlaceholder placeholder m)) ↔
        m.opening = placeholder ∨ m.closing = placeholder) ∧
      (∀ error, prepare s template = .error error →
        error = .config (.tokenInPlaceholder placeholder m) ∨
          (∃ side offset, error = .unmatched side offset ∧
            extract m placeholder true none text = .error error) ∨
          ∃ e, extract m placeholder true none text = .ok e ∧ ¬ e.InOrder ∧
            ∃ v ∈ e.lifted, error = .value (.placeholderMissing v.offset)) ∧
      ∀ e, extract m placeholder true none text = .ok e →
        (e.InOrder ↔ ∃ p : Parts, p.source m.opening.toList m.closing.toList = text.toList ∧
          p.extraction placeholder = e) ∧
        (∀ p : Parts, p.extraction placeholder = e →
          prepare s template = .ok ⟨String.ofList (p.typed placeholder.toList), p.params⟩) ∧
        ('?' ∉ m.opening.toList → e.InOrder) := by
  intro m text
  have hm : m.Usable := hs.wellFormed.delimiters
  cases hmark : m.tokenIn placeholder with
  | true =>
      have hnone := extract_of_tokenIn hm hmark true none text
      have hsome : m.opening = placeholder ∨ m.closing = placeholder := by
        by_contra hneither
        rw [(Markers.tokenIn_placeholder_iff hm).mpr (not_or.mp hneither)] at hmark
        cases hmark
      refine ⟨iff_of_true (prepare_of_error hnone) hsome, ?_, ?_⟩
      · intro error h
        rw [prepare_of_error hnone] at h
        exact .inl (Except.error.inj h).symm
      · intro e h
        rw [hnone] at h
        cases h
  | false =>
      have hneither := not_or.mpr ((Markers.tokenIn_placeholder_iff hm).mp hmark)
      refine ⟨iff_of_false (fun h => ?_) hneither,
        fun error h => .inr (exists_of_prepare_eq_error hm hmark h), fun e h => ⟨?_, ?_, ?_⟩⟩
      · rcases exists_of_prepare_eq_error hm hmark h with
          ⟨side, offset, herror, -⟩ | ⟨e, -, -, v, -, herror⟩
        · cases herror
        · cases herror
      · exact inOrder_iff hm hmark h
      · exact fun p hp => prepare_of_parts h hp
      · exact fun hopening => inOrder_of_not_mem hm hmark hopening h

/-- The placeholder of `x` makes an opening marker with the `a` behind it, and the second literal
reaches from there over the placeholder and the marker of `y`. -/
theorem prepare_of_reached_of_swallowed :
    let s : Settings := { Settings.builtin with delimiters := ⟨"?a", "b"⟩ }
    let e : Extraction := ⟨"?", [⟨0, "x"⟩, ⟨0, " ?ay"⟩]⟩
    s.Reached ∧ condense s.delimiters "?axba ?ayb" = "?axba ?ayb" ∧
      extract s.delimiters placeholder true none "?axba ?ayb" = .ok e ∧
      prepare s "?axba ?ayb" = .ok ⟨"?", [.string "x", .string " ?ay"]⟩ ∧
      ¬ ∃ p : Parts, p.source "?a".toList "b".toList = "?axba ?ayb".toList ∧
        p.extraction placeholder = e := by
  intro s e
  have hoverride : Settings.builtin.override
      (.ofList [("delimiters", .arr [.str "?a", .str "b"])]) = .ok s := rfl
  have hs : s.Reached := .override .builtin hoverride
  have hcondense : condense s.delimiters "?axba ?ayb" = "?axba ?ayb" := by decide +kernel
  have hextract : extract s.delimiters placeholder true none "?axba ?ayb" = .ok e := by decide
  obtain ⟨-, -, haccount⟩ := prepare_of_reached hs "?axba ?ayb"
  rw [hcondense] at haccount
  refine ⟨hs, hcondense, hextract, by decide +kernel, ?_⟩
  exact (not_congr (haccount e hextract).1).mp (by decide)

/-- A literal that is to be written into the statement does not find its placeholder any more. -/
example : prepare { Settings.builtin with delimiters := ⟨"?a", "b"⟩ } "?anullbaNULLb" =
    .error (.value (.placeholderMissing 0)) := by
  decide +kernel

end SlotQuery.Template
