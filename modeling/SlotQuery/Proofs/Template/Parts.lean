import SlotQuery.Proofs.Text.Utf8
import SlotQuery.Template.Prepared

/-!
# The literals of a text and what stands between them

`Parts` is a text taken apart at its literals: for each of them a slot, which is the literal and the
text in front of it, and then what follows the last one.  Everything that becomes of such a text is
the same walk over its slots, with something else written for each literal (`Parts.written`): the
literal between its markers, a placeholder, or what typing makes of it.

The offsets that lifting keeps are those of the placeholders, by increasing offset
(`Parts.lifted_increasing`), and each is that of the literal's own placeholder (`Parts.slot_at`).
Typing has to find the placeholders again in a text that grows and shrinks under its hands, and
needs nothing but these offsets: `Parts.typed_eq` says that it never fails, and writes exactly
`Parts.typed`.
-/

namespace SlotQuery.Template

open Text

/-- How a literal is written into a statement, where `mark` stands for a parameter. -/
def Literal.written (mark : List Char) : Literal → List Char
  | .bound _ => mark
  | .inline text => text.toList

/-- The parameter that a literal is bound to. -/
def Literal.param? : Literal → Option Param
  | .bound p => some p
  | .inline _ => none

/-- A literal, and the text between it and the literal before. -/
structure Slot where
  gap : List Char
  literal : List Char
deriving DecidableEq, Inhabited

/-- What becomes of the literal. -/
def Slot.kind (slot : Slot) : Literal :=
  Literal.ofText (String.ofList slot.literal)

/-- A text by its literals. -/
structure Parts where
  slots : List Slot
  /-- What follows the last literal. -/
  rest : List Char
deriving DecidableEq, Inhabited

/-- The literals of slots that begin at a byte offset, each with the offset of its placeholder. -/
def liftsFrom (mark : List Char) : Nat → List Slot → List Lifted
  | _, [] => []
  | offset, slot :: slots =>
    ⟨offset + width slot.gap, String.ofList slot.literal⟩ ::
      liftsFrom mark (offset + width slot.gap + width mark) slots

namespace Parts

/-- The text with something else written for each literal. -/
def written (place : List Char → List Char) (p : Parts) : List Char :=
  p.slots.flatMap (fun slot => slot.gap ++ place slot.literal) ++ p.rest

/-- The text with every literal between its markers. -/
def source (opening closing : List Char) (p : Parts) : List Char :=
  p.written fun literal => opening ++ literal ++ closing

/-- The text with a placeholder for every literal. -/
def marked (mark : List Char) (p : Parts) : List Char :=
  p.written fun _ => mark

/-- The text with every literal as a statement has it. -/
def typed (mark : List Char) (p : Parts) : List Char :=
  p.written fun literal => (Literal.ofText (String.ofList literal)).written mark

/-- The parameters among the literals, in their order. -/
def params (p : Parts) : List Param :=
  p.slots.filterMap fun slot => slot.kind.param?

/-- The literals, each with the offset of its placeholder. -/
def lifted (mark : List Char) (p : Parts) : List Lifted :=
  liftsFrom mark 0 p.slots

/-- The text with its placeholders, and what was lifted out of it. -/
def extraction (mark : String) (p : Parts) : Extraction :=
  ⟨String.ofList (p.marked mark.toList), p.lifted mark.toList⟩

variable {place : List Char → List Char} {opening closing mark rest : List Char} {slot : Slot}
  {slots : List Slot}

/-- A text in parts begins with its first slot. -/
theorem written_cons :
    written place ⟨slot :: slots, rest⟩ =
      slot.gap ++ (place slot.literal ++ written place ⟨slots, rest⟩) := by
  rw [written, List.flatMap_cons, List.append_assoc, List.append_assoc]
  rfl

/-- The source begins with the first gap and the first literal between its markers. -/
theorem source_cons :
    source opening closing ⟨slot :: slots, rest⟩ =
      slot.gap ++ (opening ++ slot.literal ++ closing ++ source opening closing ⟨slots, rest⟩) :=
  written_cons

theorem marked_cons :
    marked mark ⟨slot :: slots, rest⟩ = slot.gap ++ (mark ++ marked mark ⟨slots, rest⟩) :=
  written_cons

/-- The typed text begins with the first gap and what is written for the first literal. -/
theorem typed_cons :
    typed mark ⟨slot :: slots, rest⟩ =
      slot.gap ++ (slot.kind.written mark ++ typed mark ⟨slots, rest⟩) :=
  written_cons

/-- The parts of the text with another one in front, in which there is no literal. -/
def prepend (front : List Char) : Parts → Parts
  | ⟨[], rest⟩ => ⟨[], front ++ rest⟩
  | ⟨slot :: slots, rest⟩ => ⟨⟨front ++ slot.gap, slot.literal⟩ :: slots, rest⟩

/-- Text in front is written in front, whatever is written into the slots. -/
theorem written_prepend (front : List Char) (p : Parts) :
    (p.prepend front).written place = front ++ p.written place := by
  obtain ⟨slots, rest⟩ := p
  cases slots with
  | nil => rfl
  | cons slot slots =>
      rw [prepend, written_cons, written_cons]
      exact List.append_assoc ..

/-- Text in front brings no parameters. -/
theorem params_prepend (front : List Char) (p : Parts) : (p.prepend front).params = p.params := by
  obtain ⟨slots, rest⟩ := p
  cases slots with
  | nil => rfl
  | cons slot slots => rfl

/-- Text in front moves all offsets. -/
theorem liftsFrom_prepend (front : List Char) (p : Parts) (offset : Nat) :
    liftsFrom mark offset (p.prepend front).slots =
      liftsFrom mark (offset + width front) p.slots := by
  obtain ⟨slots, rest⟩ := p
  cases slots with
  | nil => rfl
  | cons slot slots =>
      rw [prepend, liftsFrom, liftsFrom, width_append]
      simp only [Nat.add_assoc]

/-- The text can be taken apart at any of its placeholders. -/
theorem marked_append (front : List Slot) :
    marked mark ⟨front ++ slot :: slots, rest⟩ =
      marked mark ⟨front, slot.gap⟩ ++ (mark ++ marked mark ⟨slots, rest⟩) := by
  induction front with
  | nil =>
      rw [List.nil_append, marked_cons]
      rfl
  | cons first front ih =>
      rw [List.cons_append, marked_cons, marked_cons, ih]
      simp only [List.append_assoc]

end Parts

section

variable {mark : List Char} {offset : Nat} {slot : Slot} {slots : List Slot}

/-- The literal of a slot is lifted at its place, with the offset of its placeholder. -/
theorem getElem?_liftsFrom (front : List Slot) :
    (liftsFrom mark offset (front ++ slot :: slots))[front.length]? =
      some ⟨offset + width (Parts.marked mark ⟨front, slot.gap⟩), String.ofList slot.literal⟩ := by
  induction front generalizing offset with
  | nil => rfl
  | cons first front ih =>
      rw [List.cons_append, liftsFrom, List.length_cons, List.getElem?_cons_succ, ih]
      rw [Parts.marked_cons, width_append, width_append]
      simp only [Nat.add_assoc]

/-- The literals that are lifted are those of the slots. -/
theorem map_literal_liftsFrom :
    (liftsFrom mark offset slots).map Lifted.literal =
      slots.map fun slot => String.ofList slot.literal := by
  induction slots generalizing offset with
  | nil => rfl
  | cons slot slots ih => rw [liftsFrom, List.map_cons, List.map_cons, ih]

/-- No offset is in front of the first. -/
theorem le_of_mem_liftsFrom {v : Lifted} (hv : v ∈ liftsFrom mark offset slots) :
    offset ≤ v.offset := by
  induction slots generalizing offset with
  | nil => cases hv
  | cons slot slots ih =>
      rcases List.mem_cons.mp hv with rfl | hlater
      · exact Nat.le_add_right _ _
      · have := ih hlater
        omega

/-- A placeholder ends before the next one begins. -/
theorem pairwise_liftsFrom :
    (liftsFrom mark offset slots).Pairwise fun v w => v.offset + width mark ≤ w.offset := by
  induction slots generalizing offset with
  | nil => exact .nil
  | cons slot slots ih => exact List.pairwise_cons.mpr ⟨fun _ hw => le_of_mem_liftsFrom hw, ih⟩

end

/-- What is found around a placeholder that stands after a text. -/
theorem around?_append {mark before : List Char} {offset : Int} (hoffset : offset = width before)
    (after : List Char) :
    around? mark offset (before ++ (mark ++ after)) = some (before, after) := by
  have hnonneg : ¬ (width before : Int) < 0 := by omega
  have hmark : afterPrefix? mark (mark ++ after) = some after := afterPrefix?_eq_some.mpr rfl
  rw [around?, hoffset, if_neg hnonneg, Int.toNat_natCast, splitAt?_width_append]
  simp only [Option.bind_some, hmark, Option.map_some]

/-- A placeholder is found at an offset exactly if the text in front of it is so wide. -/
theorem around?_eq_some_iff {mark text before after : List Char} {offset : Int} :
    around? mark offset text = some (before, after) ↔
      text = before ++ (mark ++ after) ∧ offset = width before := by
  constructor
  · intro h
    unfold around? at h
    split at h
    · cases h
    · obtain ⟨⟨front, rest⟩, hcut, hrest⟩ := Option.bind_eq_some_iff.mp h
      obtain ⟨back, hback, heq⟩ := Option.map_eq_some_iff.mp hrest
      cases heq
      obtain ⟨htext, hwidth⟩ := eq_append_of_splitAt? hcut
      rw [htext, afterPrefix?_eq_some.mp hback]
      exact ⟨rfl, by omega⟩
  · rintro ⟨rfl, hoffset⟩
    exact around?_append hoffset after

/-- A text with characters has a width. -/
theorem width_pos {cs : List Char} (h : cs ≠ []) : 0 < width cs := by
  obtain ⟨c, cs, rfl⟩ := List.exists_cons_of_ne_nil h
  rw [width_cons]
  exact Nat.add_pos_left (Char.utf8Size_pos c) _

namespace Parts

/-- A literal is kept with the offset of its own placeholder. -/
theorem slot_at (mark : List Char) {p : Parts} {front back : List Slot} {slot : Slot}
    (h : p.slots = front ++ slot :: back) :
    ∃ v, (p.lifted mark)[front.length]? = some v ∧ around? mark v.offset (p.marked mark) =
      some (marked mark ⟨front, slot.gap⟩, marked mark ⟨back, p.rest⟩) := by
  obtain ⟨slots, rest⟩ := p
  obtain rfl : slots = front ++ slot :: back := h
  refine ⟨_, getElem?_liftsFrom front, ?_⟩
  rw [marked_append front]
  exact around?_append (congrArg Nat.cast (Nat.zero_add _)) _

/-- The literals are kept in the order of their offsets. -/
theorem lifted_increasing {mark : List Char} (hmark : mark ≠ []) (p : Parts) :
    (p.lifted mark).Pairwise fun v w => v.offset < w.offset := by
  refine pairwise_liftsFrom.imp fun {v w} h => ?_
  have := width_pos hmark
  omega

/-- Typing keeps up with what it has written: `done` is how far it has come, and `offset` is where
that was when the literals were lifted. -/
theorem typeFrom_liftsFrom (mark rest : List Char) (slots : List Slot) (offset : Nat)
    (done : List Char) :
    typeFrom mark (width done - offset) (done ++ marked mark ⟨slots, rest⟩)
        (liftsFrom mark offset slots) =
      .ok (done ++ typed mark ⟨slots, rest⟩, params ⟨slots, rest⟩) := by
  induction slots generalizing offset done with
  | nil => rfl
  | cons slot slots ih =>
      rw [marked_cons, typed_cons, params, List.filterMap_cons, liftsFrom, typeFrom, ← Slot.kind]
      cases slot.kind with
      | bound p =>
          have hnext := ih (offset + width slot.gap + width mark) (done ++ slot.gap ++ mark)
          have hshift : ((width (done ++ slot.gap ++ mark) : Int) -
              ((offset + width slot.gap + width mark : Nat) : Int)) = width done - offset := by
            rw [width_append, width_append]
            omega
          rw [hshift] at hnext
          simp only [List.append_assoc] at hnext ⊢
          rw [hnext]
          rfl
      | inline text =>
          have hnext := ih (offset + width slot.gap + width mark)
            (done ++ slot.gap ++ text.toList)
          have hshift : ((width (done ++ slot.gap ++ text.toList) : Int) -
              ((offset + width slot.gap + width mark : Nat) : Int)) =
                width done - offset + width text.toList - width mark := by
            rw [width_append, width_append]
            omega
          have haround : around? mark (((offset + width slot.gap : Nat) : Int) +
              (width done - offset)) (done ++ slot.gap ++ (mark ++ marked mark ⟨slots, rest⟩)) =
                some (done ++ slot.gap, marked mark ⟨slots, rest⟩) := by
            refine around?_append ?_ _
            rw [width_append]
            omega
          rw [hshift] at hnext
          rw [← List.append_assoc done, haround]
          dsimp only
          rw [hnext, ← List.append_assoc done, ← List.append_assoc]
          rfl

/-- Typing never fails on what was lifted out of the parts of a text. -/
theorem typed_eq (mark : String) (p : Parts) :
    (p.extraction mark).typed mark = .ok ⟨String.ofList (p.typed mark.toList), p.params⟩ := by
  have htyped := typeFrom_liftsFrom mark.toList p.rest p.slots 0 []
  rw [List.nil_append, List.nil_append] at htyped
  rw [Extraction.typed, extraction, String.toList_ofList]
  exact congrArg (Except.map _) htyped

end Parts

end SlotQuery.Template
