import SlotQuery.Driver.Embedded
import SlotQuery.Proofs.Batch.Skeleton
import SlotQuery.Proofs.Template.Literal

/-!
# What stands for a value in the statement for a batch

A value is given to the database by a placeholder, or it is a null, an empty text or bytes that are
written out (`Slot`).  The statement for a batch is one with a slot for each cell
(`skeleton_eq_slotStatement`), and its parameters are those of the slots, in their order
(`params_eq`).  A line of a staged file is inserted by a statement of the same form, with a
placeholder for each column (`lineStatement_eq`).
-/

namespace SlotQuery

open Template (Literal)

/-- What stands for a value in an insert. -/
inductive Slot
  /-- A placeholder, and the cell that is bound to it. -/
  | bound (c : Cell)
  | null
  | empty
  | blob (bytes : List UInt8)

namespace Slot

/-- The slot in the statement. -/
def text : Slot → String
  | bound _ => "?"
  | null => "NULL"
  | empty => "''"
  | blob bytes => Template.blobLiteral bytes

/-- The value that the slot stands for. -/
def value : Slot → Cell
  | bound c => c
  | null => .null
  | empty => .text ""
  | blob bytes => .blob bytes

/-- The parameter that the slot takes. -/
def param? : Slot → Option Cell
  | bound c => some c
  | _ => none

end Slot

namespace Batch

/-- The statement for rows of slots. -/
def slotStatement (table : String) (columns : List String) (rows : List (List Slot)) : String :=
  skeleton table columns (rows.map (List.map Slot.text))

/-- What stands for a literal. -/
def literalSlot (literal : String) : Slot :=
  match Literal.ofText literal with
  | .bound p => .bound (Embedded.boundCell p)
  | .inline _ => if literal = "" then .empty else .null

/-- What stands for a cell. -/
def slot : Cell → Slot
  | .null => .null
  | .blob bytes => .blob bytes
  | .int i => literalSlot (Number.decimal i)
  | .float x => literalSlot (Number.floatText x)
  | .bool b => literalSlot (Template.bitText b)
  | .text t => literalSlot t

/-- The slot of a literal is written like its mark and takes its parameter. -/
theorem literalSlot_spec (t : String) :
    (literalSlot t).text = markOf t ∧
      (literalSlot t).param? = (paramOf t).map Embedded.boundCell := by
  unfold literalSlot markOf paramOf
  rcases Literal.ofText_cases t with ⟨p, hp, -, -⟩ | ⟨ht, rfl⟩ | ⟨ht, hword⟩
  · rw [hp]
    exact ⟨rfl, rfl⟩
  · rw [ht]
    exact ⟨rfl, rfl⟩
  · have hne : t ≠ "" := by
      rintro rfl
      exact absurd hword (by decide)
    rw [ht]
    dsimp only
    rw [if_neg hne]
    exact ⟨rfl, rfl⟩

/-- The slot of a cell is written like its mark and takes its parameter. -/
theorem slot_spec (cell : Cell) :
    (slot cell).text = mark cell ∧
      (slot cell).param? = (param? cell).map Embedded.boundCell := by
  cases cell with
  | null | blob => exact ⟨rfl, rfl⟩
  | int | float | bool | text => exact literalSlot_spec _

/-- The statement for a batch is one with slots. -/
theorem skeleton_eq_slotStatement (table : String) (columns : List String)
    (rows : List (List Cell)) :
    skeleton table columns (rows.map (List.map mark)) =
      slotStatement table columns (rows.map (List.map slot)) := by
  have htext : Slot.text ∘ slot = mark := funext fun cell => (slot_spec cell).1
  rw [slotStatement, List.map_map]
  refine congrArg (skeleton table columns) (List.map_congr_left fun row _ => ?_)
  rw [Function.comp_apply, List.map_map, htext]

/-- The parameters of a batch, as they are bound, are those of its slots. -/
theorem params_eq (rows : List (List Cell)) :
    (rows.flatten.filterMap param?).map Embedded.boundCell =
      (rows.map (List.map slot)).flatten.filterMap Slot.param? := by
  have hparam : (fun cell => (param? cell).map Embedded.boundCell) = Slot.param? ∘ slot :=
    funext fun cell => (slot_spec cell).2.symm
  rw [List.map_filterMap, hparam, ← List.map_flatten, List.filterMap_map]

/-- The statement that a line of a staged file is inserted by has a placeholder for each column. -/
theorem lineStatement_eq {file : Load} (cells : List Cell)
    (hcells : cells.length = file.columns.length) :
    Embedded.lineStatement file =
      slotStatement file.table file.columns [cells.map .bound] := by
  have hmarks : (cells.map Slot.bound).map Slot.text = file.columns.map fun _ => "?" := by
    rw [List.map_map]
    show cells.map (fun _ => "?") = _
    rw [List.map_const', List.map_const', hcells]
  rw [slotStatement, List.map_singleton, hmarks, skeleton, if_neg (List.cons_ne_nil _ _),
    List.map_singleton, String.intercalate_singleton]
  unfold Embedded.lineStatement head
  have hvalues : ") VALUES (" = ") VALUES" ++ (" " ++ "(") := rfl
  rw [hvalues]
  simp only [String.append_assoc]

/-- The statement for a batch inserts. -/
theorem isInsert_skeleton (table : String) (columns : List String) (marks : List (List String)) :
    isInsert (skeleton table columns marks) = true := by
  obtain ⟨rest, hrest⟩ : ∃ rest, (skeleton table columns marks).toList =
      "INSERT ".toList ++ rest := by
    have hword : "INSERT INTO ".toList = "INSERT ".toList ++ "INTO ".toList := rfl
    simp only [skeleton, head, String.toList_append, hword, List.append_assoc]
    exact ⟨_, rfl⟩
  have hchars : "INSERT ".toList = ['I', 'N', 'S', 'E', 'R', 'T', ' '] := by decide
  have hword : "insert".toList = ['i', 'n', 's', 'e', 'r', 't'] := by decide
  have hafter : afterWord? ['i', 'n', 's', 'e', 'r', 't']
      (['I', 'N', 'S', 'E', 'R', 'T', ' '] ++ rest) = some (' ' :: rest) := rfl
  have hblank : Text.isBlank 'I' = false := by decide
  have hend : Text.isWordChar ' ' = false := by decide +kernel
  have hstarts : startsWithWord "insert" (("INSERT ".toList ++ rest).dropWhile Text.isBlank) =
      true := by
    rw [hchars, List.cons_append, List.dropWhile_cons, hblank, if_neg Bool.false_ne_true,
      ← List.cons_append, startsWithWord, hword, hafter]
    dsimp only
    rw [hend]
    rfl
  unfold isInsert
  dsimp only
  rw [hrest, hstarts, Bool.true_or]

end Batch

end SlotQuery
