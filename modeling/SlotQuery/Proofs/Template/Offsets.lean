import Mathlib.Data.List.Forall2
import SlotQuery.Proofs.Template.Parts

/-!
# Which offsets typing looks at

The literals of an extraction are taken one after the other.  Whatever offset one of them was given,
its placeholder is due at that offset moved by as much as those before it have made the text longer
or shorter (`growth`).  `Written` follows the text on its way: a literal written into the statement
takes the place of the placeholder that stands where it is due, and a parameter leaves the text as
it is.

Only the literals written into the statement look for their placeholder.
`Extraction.typed_eq_ok_iff_finds` says that typing goes through exactly if each of these finds it;
at the first one that does not, typing ends with that literal's offset.  Of the offset of a
parameter nothing is asked at all, so an extraction is typed in the same way wherever the parameters
are said to stand.
-/

namespace SlotQuery.Template

open Text

/-- How the literal reaches the database. -/
def Lifted.kind (v : Lifted) : Literal :=
  Literal.ofText v.literal

/-- The literal is written into the statement. -/
def Lifted.Inlined (v : Lifted) : Prop :=
  ∃ s, v.kind = .inline s

/-- The parameters among the literals, in their order. -/
def paramsOf (vs : List Lifted) : List Param :=
  vs.filterMap fun v => v.kind.param?

/-- The placeholder stands in the text at a byte offset. -/
def StandsAt (mark : List Char) (offset : Int) (text : List Char) : Prop :=
  ∃ before after, text = before ++ (mark ++ after) ∧ offset = width before

/-- By how much a text grows when the literals take the places of their placeholders. -/
def growth (mark : List Char) : List Lifted → Int
  | [] => 0
  | v :: vs => width (v.kind.written mark) - width mark + growth mark vs

/-- What the text has become when these literals have had their turn. -/
inductive Written (mark text : List Char) : List Lifted → List Char → Prop
  | start : Written mark text [] text
  | bound {front : List Lifted} {v : Lifted} {now : List Char} {p : Param}
      (hfront : Written mark text front now) (hkind : v.kind = .bound p) :
      Written mark text (front ++ [v]) now
  | inline {front : List Lifted} {v : Lifted} {before after : List Char} {s : String}
      (hfront : Written mark text front (before ++ (mark ++ after))) (hkind : v.kind = .inline s)
      (hoffset : v.offset + growth mark front = width before) :
      Written mark text (front ++ [v]) (before ++ s.toList ++ after)

/-- Those of the literals that are of a kind find their placeholders when their turn comes. -/
def Finds (mark text : List Char) (vs : List Lifted) (which : Lifted → Prop) : Prop :=
  ∀ front v back, vs = front ++ v :: back → which v →
    ∃ now, Written mark text front now ∧ StandsAt mark (v.offset + growth mark front) now

/-- The literal is to be written into a text in which no placeholder stands where one is due. -/
def Misses (mark text : List Char) (front : List Lifted) (v : Lifted) : Prop :=
  ∃ now, Written mark text front now ∧ v.Inlined ∧
    ¬ StandsAt mark (v.offset + growth mark front) now

/-- The literals are the same, and stand at the same offset unless they are parameters. -/
def Alike (v w : Lifted) : Prop :=
  v.literal = w.literal ∧ (v.Inlined → v.offset = w.offset)

section

variable {mark text now : List Char} {front vs : List Lifted} {v : Lifted}

/-- One more literal makes the text longer by what is written for it, less the placeholder. -/
theorem growth_concat (front : List Lifted) (v : Lifted) :
    growth mark (front ++ [v]) =
      growth mark front + (width (v.kind.written mark) - width mark) := by
  induction front with
  | nil =>
      simp only [List.nil_append, growth]
      omega
  | cons u front ih =>
      rw [List.cons_append, growth, growth, ih]
      omega

/-- A value that is bound leaves the length as it is. -/
theorem growth_concat_of_bound {p : Param} (hkind : v.kind = .bound p) :
    growth mark (front ++ [v]) = growth mark front := by
  rw [growth_concat, hkind, Literal.written]
  omega

/-- A value that is written in place changes the length by its own. -/
theorem growth_concat_of_inline {s : String} (hkind : v.kind = .inline s) :
    growth mark (front ++ [v]) = growth mark front + width s.toList - width mark := by
  rw [growth_concat, hkind, Literal.written]
  omega

/-- The parameters are those in front and that of the last one. -/
theorem paramsOf_concat (front : List Lifted) (v : Lifted) :
    paramsOf (front ++ [v]) = paramsOf front ++ v.kind.param?.toList := by
  rw [paramsOf, List.filterMap_append, List.filterMap_cons]
  cases v.kind.param? <;> rfl

/-- The placeholder is not found exactly if it does not stand there. -/
theorem around?_eq_none_iff {offset : Int} :
    around? mark offset text = none ↔ ¬ StandsAt mark offset text := by
  constructor
  · rintro h ⟨before, after, rfl, hoffset⟩
    rw [around?_append hoffset] at h
    cases h
  · intro h
    cases haround : around? mark offset text with
    | none => rfl
    | some parts => exact absurd ⟨parts.1, parts.2, around?_eq_some_iff.mp haround⟩ h

/-- A bound value leaves the text alone. -/
theorem typeFrom_of_bound {shift : Int} {p : Param} (hkind : v.kind = .bound p) :
    typeFrom mark shift text (v :: vs) =
      (typeFrom mark shift text vs).map fun (last, ps) => (last, p :: ps) := by
  rw [typeFrom, ← Lifted.kind, hkind]

/-- A value that is written in place takes the place of its placeholder. -/
theorem typeFrom_of_inline {shift : Int} {s : String} {before after : List Char}
    (hkind : v.kind = .inline s) (hoffset : v.offset + shift = width before) :
    typeFrom mark shift (before ++ (mark ++ after)) (v :: vs) =
      typeFrom mark (shift + width s.toList - width mark) (before ++ s.toList ++ after) vs := by
  rw [typeFrom, ← Lifted.kind, hkind]
  dsimp only
  rw [around?_append hoffset]

/-- A value whose placeholder does not stand there is where typing ends. -/
theorem typeFrom_of_not_standsAt {shift : Int} (hinlined : v.Inlined)
    (hmiss : ¬ StandsAt mark (v.offset + shift) text) :
    typeFrom mark shift text (v :: vs) = .error (.value (.placeholderMissing v.offset)) := by
  obtain ⟨s, hkind⟩ := hinlined
  rw [typeFrom, ← Lifted.kind, hkind]
  dsimp only
  rw [around?_eq_none_iff.mpr hmiss]

/-- Typing gets behind the literals that have been written, with the text that they left. -/
theorem Written.typeFrom_append (h : Written mark text front now) (vs : List Lifted) :
    typeFrom mark 0 text (front ++ vs) =
      (typeFrom mark (growth mark front) now vs).map fun (last, ps) =>
        (last, paramsOf front ++ ps) := by
  induction h generalizing vs with
  | start =>
      change typeFrom mark 0 text vs = (typeFrom mark 0 text vs).map _
      cases typeFrom mark 0 text vs <;> rfl
  | bound hfront hkind ih =>
      rw [List.append_assoc, List.singleton_append, ih, typeFrom_of_bound hkind,
        growth_concat_of_bound hkind, paramsOf_concat, hkind, Literal.param?]
      cases typeFrom mark _ _ vs with
      | error e => rfl
      | ok typed =>
          simp only [Except.map, Option.toList_some, List.append_assoc, List.singleton_append]
  | inline hfront hkind hoffset ih =>
      rw [List.append_assoc, List.singleton_append, ih, typeFrom_of_inline hkind hoffset,
        growth_concat_of_inline hkind, paramsOf_concat, hkind, Literal.param?, Option.toList_none,
        List.append_nil]

/-- What is written into the text is what typing comes to. -/
theorem Written.typeFrom_eq (h : Written mark text vs now) :
    typeFrom mark 0 text vs = .ok (now, paramsOf vs) := by
  have hrun := h.typeFrom_append []
  simpa only [List.append_nil, typeFrom, Except.map] using hrun

/-- There is one text at every turn. -/
theorem Written.unique {now' : List Char} (h : Written mark text vs now)
    (h' : Written mark text vs now') : now = now' := by
  have hsame := h.typeFrom_eq.symm.trans h'.typeFrom_eq
  exact congrArg Prod.fst (Except.ok.inj hsame)

/-- Typing that has come so far writes all the literals left, or ends at one that misses its
placeholder. -/
theorem Written.all_or_misses (h : Written mark text front now) (vs : List Lifted) :
    (∃ last, Written mark text (front ++ vs) last) ∨
      ∃ mid v back, vs = mid ++ v :: back ∧ Misses mark text (front ++ mid) v := by
  induction vs generalizing front now with
  | nil => exact .inl ⟨now, by rwa [List.append_nil]⟩
  | cons v vs ih =>
      have hlater : ∀ {now'}, Written mark text (front ++ [v]) now' →
          (∃ last, Written mark text (front ++ v :: vs) last) ∨
            ∃ mid w back, v :: vs = mid ++ w :: back ∧ Misses mark text (front ++ mid) w := by
        intro now' hnext
        obtain ⟨last, hlast⟩ | ⟨mid, w, back, rfl, hmiss⟩ := ih hnext
        · exact .inl ⟨last, by rwa [List.append_assoc] at hlast⟩
        · exact .inr ⟨v :: mid, w, back, rfl, by rwa [List.append_assoc] at hmiss⟩
      cases hkind : v.kind with
      | bound p => exact hlater (h.bound hkind)
      | inline s =>
          by_cases hstands : StandsAt mark (v.offset + growth mark front) now
          · obtain ⟨before, after, rfl, hoffset⟩ := hstands
            exact hlater (h.inline hkind hoffset)
          · refine .inr ⟨[], v, vs, rfl, ?_⟩
            rw [List.append_nil]
            exact ⟨now, h, ⟨s, hkind⟩, hstands⟩

/-- Typing ends at the first value that misses its placeholder. -/
theorem Misses.typeFrom_eq (h : Misses mark text front v) (back : List Lifted) :
    typeFrom mark 0 text (front ++ v :: back) =
      .error (.value (.placeholderMissing v.offset)) := by
  obtain ⟨now, hnow, hinlined, hmiss⟩ := h
  rw [hnow.typeFrom_append, typeFrom_of_not_standsAt hinlined hmiss]
  rfl

/-- Where all values are written, none misses its placeholder. -/
theorem Written.not_misses {back : List Lifted} (h : Written mark text (front ++ v :: back) now) :
    ¬ Misses mark text front v := by
  intro hmiss
  have hfails := h.typeFrom_eq.symm.trans (hmiss.typeFrom_eq back)
  cases hfails

/-- Each of the literals had a turn. -/
theorem Written.exists_front {back : List Lifted}
    (h : Written mark text (front ++ v :: back) now) :
    ∃ before, Written mark text front before := by
  obtain ⟨before, hbefore⟩ | ⟨mid, w, rest, rfl, hmiss⟩ :=
    (Written.start : Written mark text [] text).all_or_misses front
  · exact ⟨before, hbefore⟩
  · rw [List.append_assoc, List.cons_append] at h
    exact absurd hmiss h.not_misses

/-- Whatever has been written, the literals written into the statement found their placeholders. -/
theorem Written.finds (h : Written mark text vs now) : Finds mark text vs Lifted.Inlined := by
  rintro front v back rfl hinlined
  obtain ⟨before, hbefore⟩ := h.exists_front
  by_cases hstands : StandsAt mark (v.offset + growth mark front) before
  · exact ⟨before, hbefore, hstands⟩
  · exact absurd ⟨before, hbefore, hinlined, hstands⟩ h.not_misses

/-- Where a value misses its placeholder, not every one of them finds it. -/
theorem Misses.not_finds (h : Misses mark text front v) (back : List Lifted) :
    ¬ Finds mark text (front ++ v :: back) Lifted.Inlined := by
  intro hfinds
  obtain ⟨now, hnow, hinlined, hmiss⟩ := h
  obtain ⟨now', hnow', hstands⟩ := hfinds front v back rfl hinlined
  rw [hnow'.unique hnow] at hstands
  exact hmiss hstands

/-- The offset of a parameter makes no difference. -/
theorem typeFrom_congr {ws : List Lifted} (h : List.Forall₂ Alike vs ws) (shift : Int)
    (text : List Char) : typeFrom mark shift text ws = typeFrom mark shift text vs := by
  induction h generalizing shift text with
  | nil => rfl
  | @cons v w vs ws hvw hrest ih =>
      have hkind : w.kind = v.kind := by rw [Lifted.kind, Lifted.kind, hvw.1]
      cases hv : v.kind with
      | bound p => rw [typeFrom_of_bound hv, typeFrom_of_bound (hkind.trans hv), ih]
      | inline s =>
          have hoffset : v.offset = w.offset := hvw.2 ⟨s, hv⟩
          by_cases hstands : StandsAt mark (v.offset + shift) text
          · obtain ⟨before, after, rfl, hbefore⟩ := hstands
            rw [typeFrom_of_inline hv hbefore,
              typeFrom_of_inline (hkind.trans hv) (hoffset ▸ hbefore), ih]
          · rw [typeFrom_of_not_standsAt ⟨s, hv⟩ hstands,
              typeFrom_of_not_standsAt ⟨s, hkind.trans hv⟩ (hoffset ▸ hstands), hoffset]

theorem Alike.refl (v : Lifted) : Alike v v :=
  ⟨rfl, fun _ => rfl⟩

/-- Where the placeholder stands, the text has not ended. -/
theorem StandsAt.le {offset : Int} (h : StandsAt mark offset text) : offset ≤ width text := by
  obtain ⟨before, after, rfl, rfl⟩ := h
  rw [width_append]
  omega

/-- A parameter can be said to stand past the end of the text. -/
theorem Written.exists_alike_not_finds {last : List Char} {p : Param}
    (h : Written mark text vs last) (hv : v ∈ vs) (hbound : v.kind = .bound p) :
    ∃ ws, List.Forall₂ Alike vs ws ∧ ¬ Finds mark text ws fun _ => True := by
  obtain ⟨front, back, rfl⟩ := List.append_of_mem hv
  obtain ⟨now, hnow⟩ := h.exists_front
  obtain ⟨offset, hoffset⟩ : ∃ offset : Nat, width now < offset + growth mark front :=
    ⟨(width now - growth mark front).toNat + 1, by omega⟩
  have hparam : ¬ v.Inlined := by
    rintro ⟨s, hs⟩
    rw [hbound] at hs
    cases hs
  have hfar : Alike v ⟨offset, v.literal⟩ := ⟨rfl, fun hinlined => absurd hinlined hparam⟩
  have hsame : ∀ xs, List.Forall₂ Alike xs xs := fun xs =>
    List.forall₂_same.mpr fun x _ => Alike.refl x
  refine ⟨front ++ ⟨offset, v.literal⟩ :: back,
    List.rel_append (hsame front) (.cons hfar (hsame back)), fun hfinds => ?_⟩
  obtain ⟨now', hnow', hstands⟩ := hfinds front _ back rfl trivial
  rw [hnow'.unique hnow] at hstands
  have hle : (offset : Int) + growth mark front ≤ width now := hstands.le
  omega

end

namespace Extraction

variable {e : Extraction} {mark : String}

/-- Typing comes to the text that all values were written into. -/
theorem typed_of_written {now : List Char} (h : Written mark.toList e.sql.toList e.lifted now) :
    e.typed mark = .ok ⟨String.ofList now, paramsOf e.lifted⟩ := by
  rw [typed, h.typeFrom_eq]
  rfl

/-- Typing fails with the offset of the first value that misses its placeholder. -/
theorem typed_of_misses {front back : List Lifted} {v : Lifted}
    (hlifted : e.lifted = front ++ v :: back) (h : Misses mark.toList e.sql.toList front v) :
    e.typed mark = .error (.value (.placeholderMissing v.offset)) := by
  rw [typed, hlifted, h.typeFrom_eq]
  rfl

/-- All values are written into the text, or one of them misses its placeholder first. -/
theorem written_or_misses (e : Extraction) (mark : String) :
    (∃ now, Written mark.toList e.sql.toList e.lifted now) ∨
      ∃ front v back, e.lifted = front ++ v :: back ∧ Misses mark.toList e.sql.toList front v :=
  (Written.start : Written mark.toList e.sql.toList [] e.sql.toList).all_or_misses e.lifted

/-- What is answered is the text that all the literals leave, with the parameters. -/
theorem typed_eq_ok_iff {p : Prepared} : e.typed mark = .ok p ↔
    ∃ now, Written mark.toList e.sql.toList e.lifted now ∧
      p = ⟨String.ofList now, paramsOf e.lifted⟩ := by
  constructor
  · intro hp
    obtain ⟨now, hnow⟩ | ⟨front, v, back, hlifted, hmiss⟩ := e.written_or_misses mark
    · rw [typed_of_written hnow] at hp
      exact ⟨now, hnow, (Except.ok.inj hp).symm⟩
    · rw [typed_of_misses hlifted hmiss] at hp
      cases hp
  · rintro ⟨now, hnow, rfl⟩
    exact typed_of_written hnow

/-- Typing fails exactly if a value misses its placeholder, with the error of the first one. -/
theorem typed_eq_error_iff {error : Error} : e.typed mark = .error error ↔
    ∃ front v back, e.lifted = front ++ v :: back ∧ Misses mark.toList e.sql.toList front v ∧
      error = .value (.placeholderMissing v.offset) := by
  constructor
  · intro herror
    obtain ⟨now, hnow⟩ | ⟨front, v, back, hlifted, hmiss⟩ := e.written_or_misses mark
    · rw [typed_of_written hnow] at herror
      cases herror
    · rw [typed_of_misses hlifted hmiss] at herror
      exact ⟨front, v, back, hlifted, hmiss, (Except.error.inj herror).symm⟩
  · rintro ⟨front, v, back, hlifted, hmiss, rfl⟩
    exact typed_of_misses hlifted hmiss

theorem typed_congr {vs : List Lifted} (h : List.Forall₂ Alike e.lifted vs) :
    typed ⟨e.sql, vs⟩ mark = e.typed mark := by
  rw [typed, typed, typeFrom_congr h]

end Extraction

/-- Typing goes through exactly if every literal that is written into the statement finds its
placeholder, and answers with the text that they leave and the parameters.  It fails exactly if one
of them misses it, over the offset of that one.  The parameters are not looked for: an extraction in
which they stand elsewhere is typed in the same way.  So wherever there is a parameter, there is an
extraction with the same answer in which not every literal finds its placeholder. -/
theorem Extraction.typed_eq_ok_iff_finds (e : Extraction) (mark : String) :
    ((∃ p, e.typed mark = .ok p) ↔ Finds mark.toList e.sql.toList e.lifted Lifted.Inlined) ∧
      (∀ p, e.typed mark = .ok p ↔ ∃ now, Written mark.toList e.sql.toList e.lifted now ∧
        p = ⟨String.ofList now, paramsOf e.lifted⟩) ∧
      (∀ error, e.typed mark = .error error ↔ ∃ front v back, e.lifted = front ++ v :: back ∧
        Misses mark.toList e.sql.toList front v ∧
          error = .value (.placeholderMissing v.offset)) ∧
      (∀ vs, List.Forall₂ Alike e.lifted vs → typed ⟨e.sql, vs⟩ mark = e.typed mark) ∧
      ∀ p v q, e.typed mark = .ok p → v ∈ e.lifted → v.kind = .bound q →
        ∃ vs, List.Forall₂ Alike e.lifted vs ∧ typed ⟨e.sql, vs⟩ mark = .ok p ∧
          ¬ Finds mark.toList e.sql.toList vs fun _ => True := by
  refine ⟨⟨?goes, ?found⟩, fun p => typed_eq_ok_iff, fun error => typed_eq_error_iff,
    fun vs => typed_congr, ?astray⟩
  case goes =>
    rintro ⟨p, hp⟩
    obtain ⟨now, hnow, -⟩ := typed_eq_ok_iff.mp hp
    exact hnow.finds
  case found =>
    intro hfinds
    obtain ⟨now, hnow⟩ | ⟨front, v, back, hlifted, hmiss⟩ := e.written_or_misses mark
    · exact ⟨_, typed_of_written hnow⟩
    · rw [hlifted] at hfinds
      exact absurd hfinds (hmiss.not_finds back)
  case astray =>
    intro p v q hp hv hbound
    obtain ⟨now, hnow, -⟩ := typed_eq_ok_iff.mp hp
    obtain ⟨vs, hvs, hastray⟩ := hnow.exists_alike_not_finds hv hbound
    exact ⟨vs, hvs, (typed_congr hvs).trans hp, hastray⟩

/-- A parameter that stands past the end of the text, and one inside a character. -/
example :
    Extraction.typed ⟨"é", [⟨99, "x"⟩, ⟨1, "7"⟩]⟩ "?" = .ok ⟨"é", [.string "x", .integer 7]⟩ := by
  decide

end SlotQuery.Template
