import SlotQuery.Driver.Embedded
import SlotQuery.Proofs.Batch.Skeleton
import SlotQuery.Proofs.Batch.Staged
import SlotQuery.Proofs.Template.Literal

/-!
# One batch, two ways into a table

A batch goes into its table as one statement or as a staged file, and only its size decides which.
`inline_and_staged` compares what the two hand over for each value: the file always the text that
was written or null, and the statement the same, unless the value is a text that spells `null`.
Such a text is a null in the statement, and a text in the file.

The values that a statement hands over are read off the statement itself: `handed?` goes through
the marks of its rows from left to right and takes a parameter for each placeholder.  That there is
a statement at all tells that no marker stands in its texts (`wrapped_of_statement`).
-/

namespace SlotQuery

/-- The value is a text, and the text is the word `null`. -/
def Cell.SpellsNull : Cell → Prop
  | .text t => Template.isNullWord t
  | _ => False

instance : (cell : Cell) → Decidable cell.SpellsNull
  | .text t => inferInstanceAs (Decidable (Template.isNullWord t = true))
  | .null | .int _ | .float _ | .bool _ | .blob _ => .isFalse id

/-- What spells null is written in some way. -/
theorem Cell.written?_of_spellsNull {cell : Cell} (h : cell.SpellsNull) :
    ∃ t, cell.written? = some t := by
  cases cell with
  | text t => exact ⟨t, rfl⟩
  | null | int | float | bool | blob => exact h.elim

namespace Batch

open Number (decimal)
open Template

/-- Nulls, integers, truth values, and texts that are not trusted as statement text. -/
def Plain (s : Settings) : Cell → Prop
  | .null | .int _ | .bool _ => True
  | .text t => s.rawFragment.enclosed? t = none
  | .float _ | .blob _ => False

instance (s : Settings) : (cell : Cell) → Decidable (Plain s cell)
  | .text _ => inferInstanceAs (Decidable (_ = _))
  | .null | .int _ | .bool _ => .isTrue trivial
  | .float _ | .blob _ => .isFalse id

/-- What a mark stands for, and the parameters that are left for the marks after it. -/
def readMark : String → List Param → Option (Cell × List Param)
  | "NULL", params => some (.null, params)
  | "''", params => some (.text "", params)
  | "?", p :: params => some (p.cell, params)
  | _, _ => none

/-- The values that the marks of a statement stand for, with a parameter for each placeholder and
none left over. -/
def handed? : List String → List Param → Option (List Cell)
  | [], [] => some []
  | [], _ :: _ => none
  | mark :: marks, params =>
    (readMark mark params).bind fun (cell, rest) => (handed? marks rest).map (cell :: ·)

/-- A literal reaches the database as its own text, unless it spells `null`. -/
theorem readMark_markOf (t : String) :
    ∃ a : Cell, (∀ params, readMark (markOf t) ((paramOf t).toList ++ params) = some (a, params)) ∧
      a.written? = if isNullWord t then none else some t := by
  unfold markOf paramOf
  rcases Literal.ofText_cases t with ⟨p, hp, htext, hword⟩ | ⟨ht, rfl⟩ | ⟨ht, hword⟩
  · have hwritten : p.cell.written? = some p.text := by cases p <;> rfl
    refine ⟨p.cell, fun params => ?_, ?_⟩
    · rw [hp]
      rfl
    · rw [hwritten, htext, hword, if_neg Bool.false_ne_true]
  · refine ⟨.text "", fun params => ?_, rfl⟩
    rw [ht]
    rfl
  · refine ⟨.null, fun params => ?_, ?_⟩
    · rw [ht]
      rfl
    · rw [if_pos hword]
      rfl

/-- No integer is written like the word for null. -/
theorem isNullWord_decimal (i : Int64) : isNullWord (decimal i) = false := by
  refine Bool.eq_false_iff.mpr fun h => ?_
  obtain ⟨c, cs, hcs, hc⟩ := exists_head_of_isNullWord h
  have hmem : c ∈ (decimal i).toList := by
    rw [hcs]
    exact List.mem_cons_self
  rcases Number.isDigit_or_minus_of_mem_decimal hmem with hdigit | rfl
  · rcases hc with rfl | rfl <;> exact absurd hdigit (by decide)
  · exact absurd hc (by decide)

/-- A cell reaches the database as the text it is written with, unless it spells `null`. -/
theorem readMark_mark {s : Settings} {cell : Cell} (h : Plain s cell) :
    ∃ a : Cell,
      (∀ params, readMark (mark cell) ((param? cell).toList ++ params) = some (a, params)) ∧
        a.written? = if cell.SpellsNull then none else cell.written? := by
  cases cell with
  | null => exact ⟨.null, fun _ => rfl, rfl⟩
  | int i =>
      obtain ⟨a, hread, hwritten⟩ := readMark_markOf (decimal i)
      rw [isNullWord_decimal] at hwritten
      exact ⟨a, hread, hwritten⟩
  | bool b =>
      obtain ⟨a, hread, hwritten⟩ := readMark_markOf (bitText b)
      have hbit : isNullWord (bitText b) = false := by cases b <;> decide
      rw [hbit] at hwritten
      exact ⟨a, hread, hwritten⟩
  | text t => exact readMark_markOf t
  | float | blob => exact h.elim

/-- The marks of cells take the parameters of the cells, and none is left over. -/
theorem handed?_marks {s : Settings} {cells : List Cell} (h : ∀ cell ∈ cells, Plain s cell) :
    ∃ values, handed? (cells.map mark) (cells.filterMap param?) = some values ∧
      values.map Cell.written? =
        cells.map fun cell => if cell.SpellsNull then none else cell.written? := by
  induction cells with
  | nil => exact ⟨[], rfl, rfl⟩
  | cons cell cells ih =>
      obtain ⟨hcell, hrest⟩ := List.forall_mem_cons.mp h
      obtain ⟨values, hvalues, hwritten⟩ := ih hrest
      obtain ⟨a, hread, ha⟩ := readMark_mark hcell
      have hparams : (cell :: cells).filterMap param? =
          (param? cell).toList ++ cells.filterMap param? := by
        rw [List.filterMap_cons]
        cases param? cell <;> rfl
      refine ⟨a :: values, ?_, ?_⟩
      · rw [List.map_cons, hparams, handed?, hread, Option.bind_some]
        dsimp only
        rw [hvalues]
        rfl
      · rw [List.map_cons, List.map_cons, ha, hwritten]

/-- A batch that was written into a statement holds no text that a marker stands in. -/
theorem wrapped_of_statement {s : Settings} {table : String} {columns : List String}
    {rows : List (List Cell)} (hplain : ∀ row ∈ rows, ∀ cell ∈ row, Plain s cell) {sql : String}
    (hsql : statement s table columns rows = .ok sql) :
    ∀ row ∈ rows, ∀ cell ∈ row, Wrapped s cell := by
  intro row hrow cell hcell
  obtain ⟨groups, hgroups, -⟩ := exists_of_map_eq_ok hsql
  obtain ⟨text, hgroup⟩ := exists_of_mapM hgroups hrow
  obtain ⟨cells, hcells, -⟩ := exists_of_map_eq_ok hgroup
  obtain ⟨text, htext⟩ := exists_of_mapM hcells hcell
  cases cell with
  | text t =>
      have hraw : s.rawFragment.enclosed? t = none := hplain row hrow _ hcell
      refine ⟨hraw, Bool.eq_false_iff.mpr fun htoken => ?_⟩
      simp only [secured, hraw, htoken, if_true] at htext
      cases htext
  | null | int | float | bool | blob => trivial

/-- A batch that was prepared is its skeleton, with the parameters of its cells. -/
theorem prepared_eq {s : Settings} (hd : s.delimiters = Settings.builtin.delimiters)
    {table : String} {columns : List String} {rows : List (List Cell)}
    (htable : s.delimiters.tokenIn table = false)
    (hcolumns : ∀ column ∈ columns, s.delimiters.tokenIn column = false)
    (hwrapped : ∀ row ∈ rows, ∀ cell ∈ row, Wrapped s cell) {sql : String}
    (hsql : statement s table columns rows = .ok sql) {p : Prepared}
    (hp : prepare s sql = .ok p) :
    p = ⟨skeleton table columns (rows.map (List.map mark)), rows.flatten.filterMap param?⟩ := by
  rw [hd] at htable hcolumns
  have hclosed : ∀ segment ∈ segments table columns rows, segment.Closed :=
    forall_segments (fun _ => Segment.Clean.closed) htable hcolumns fun row hrow cell hcell =>
      closed_segment hd (hwrapped row hrow cell hcell)
  rw [prepare, condense_of_wrapped hd hwrapped hsql, hd] at hp
  -- The literals were lifted, so none begins with a `>`, and the segments are clean.
  obtain ⟨e, hextract, -⟩ := exists_of_bind_eq_ok hp
  have htyped := extract_typed_segments (clean_of_extract hclosed hextract)
  rw [typed_segments, filterMap_segments] at htyped
  exact Except.ok.inj (hp.symm.trans htyped)

/-- The rows that are loaded from a file. -/
def storedRows (file : Load) : List (List Cell) :=
  (lines file.contents).map (Embedded.lineCells file)

/-- The cells of a line are written as the fields that were read from it. -/
theorem written_lineCells (path table : String) (columns : List String) (contents : String)
    (line : List Char) :
    (Embedded.lineCells (.staged path table columns contents) line).map Cell.written? =
      (fields fieldTerminator line).map (decodeField nullMarker) := by
  rw [Embedded.lineCells, List.map_map]
  refine List.map_congr_left fun field _ => ?_
  rw [Function.comp_apply]
  dsimp only [Batch.Load.staged]
  cases decodeField nullMarker field with
  | none => rfl
  | some t => rfl

section

variable {path table contents : String} {columns : List String} {rows : List (List Cell)}

/-- A row without values would be a line with one empty field, which is no row of that width. -/
theorem row_ne_nil (hwidth : ∀ row ∈ rows, row.length = columns.length)
    (hstage : stage rows = .ok contents)
    (hload : ∀ row ∈ storedRows (.staged path table columns contents),
      row.length = columns.length) : ∀ row ∈ rows, row ≠ [] := by
  rintro row hrow rfl
  have hline : lineOf [] ∈ lines contents := by
    rw [lines_stage hstage]
    exact List.mem_map_of_mem hrow
  have hone := hload _ (List.mem_map_of_mem hline)
  rw [← hwidth [] hrow] at hone
  cases hone

/-- The rows that are loaded are those that were written. -/
theorem written_storedRows (hstage : stage rows = .ok contents) (hne : ∀ row ∈ rows, row ≠ []) :
    (storedRows (.staged path table columns contents)).map (List.map Cell.written?) =
      rows.map (List.map Cell.written?) := by
  rw [storedRows, List.map_map, ← decode_stage hstage hne]
  exact List.map_congr_left fun line _ => written_lineCells path table columns contents line

end

/-- Two lists with the same images have an element of the one for each of the other. -/
theorem exists_of_map_eq {α β γ : Type} {f : α → γ} {g : β → γ} {xs : List α} {ys : List β}
    (h : xs.map f = ys.map g) {i : Nat} {y : β} (hy : ys[i]? = some y) :
    ∃ x, xs[i]? = some x ∧ f x = g y := by
  have himage : (xs.map f)[i]? = some (g y) := by rw [h, List.getElem?_map, hy, Option.map_some]
  rw [List.getElem?_map] at himage
  exact Option.map_eq_some_iff.mp himage

/-- Both ways of a batch that both are open to.  The file hands over what was written, row by row
and value by value.  The statement has a mark for each value, and hands over the same value as the
file exactly if the value is not a text that spells `null`. -/
theorem inline_and_staged {s : Settings} (hd : s.delimiters = Settings.builtin.delimiters)
    {table : String} {columns : List String} {rows : List (List Cell)}
    (htable : s.delimiters.tokenIn table = false)
    (hcolumns : ∀ column ∈ columns, s.delimiters.tokenIn column = false)
    (hplain : ∀ row ∈ rows, ∀ cell ∈ row, Plain s cell)
    (hwidth : ∀ row ∈ rows, row.length = columns.length)
    {sql : String} (hsql : statement s table columns rows = .ok sql)
    {p : Prepared} (hp : prepare s sql = .ok p)
    {path contents : String} (hstage : stage rows = .ok contents)
    (hload : ∀ row ∈ storedRows (.staged path table columns contents),
      row.length = columns.length) :
    ∃ (marks : List (List String)) (inline : List Cell),
      p.sql = skeleton table columns marks ∧ marks.map List.length = rows.map List.length ∧
      handed? marks.flatten p.params = some inline ∧
      (storedRows (.staged path table columns contents)).map (List.map Cell.written?) =
        rows.map (List.map Cell.written?) ∧
      ∀ (i : Nat) (cell : Cell), rows.flatten[i]? = some cell →
        ∃ a b, inline[i]? = some a ∧
          (storedRows (.staged path table columns contents)).flatten[i]? = some b ∧
          (a.written? = b.written? ↔ ¬ cell.SpellsNull) := by
  have hall : ∀ cell ∈ rows.flatten, Plain s cell := by
    intro cell hcell
    obtain ⟨row, hrow, hmem⟩ := List.mem_flatten.mp hcell
    exact hplain row hrow cell hmem
  have hprepared := prepared_eq hd htable hcolumns (wrapped_of_statement hplain hsql) hsql hp
  have hstored : (storedRows (.staged path table columns contents)).map (List.map Cell.written?) =
      rows.map (List.map Cell.written?) :=
    written_storedRows hstage (row_ne_nil hwidth hstage hload)
  obtain ⟨inline, hinline, hwritten⟩ := handed?_marks hall
  refine ⟨rows.map (List.map mark), inline, ?_, ?_, ?_, hstored, ?_⟩
  · rw [hprepared]
  · rw [List.map_map]
    exact List.map_congr_left fun row _ => List.length_map _
  · rw [hprepared, ← List.map_flatten]
    exact hinline
  · intro i cell hcell
    have hflat : (storedRows (.staged path table columns contents)).flatten.map Cell.written? =
        rows.flatten.map Cell.written? := by
      rw [List.map_flatten, hstored, List.map_flatten]
    obtain ⟨a, ha, hinlined⟩ := exists_of_map_eq hwritten hcell
    obtain ⟨b, hb, hkept⟩ := exists_of_map_eq hflat hcell
    refine ⟨a, b, ha, hb, ?_⟩
    rw [hinlined, hkept]
    by_cases hnull : cell.SpellsNull
    · obtain ⟨t, ht⟩ := Cell.written?_of_spellsNull hnull
      simp [hnull, ht]
    · simp [hnull]

/-- Two rows, one of them with a tab and one with a word for null. -/
theorem inline_and_staged_of_null_word :
    let rows : List (List Cell) := [[.text "a\tb"], [.text "Null"]]
    let sql := "INSERT INTO `t` (`a`) VALUES (<%a\tb%>), (<%Null%>)"
    let p : Prepared := ⟨"INSERT INTO `t` (`a`) VALUES (?), (NULL)", [.string "a\tb"]⟩
    let file := Load.staged "f" "t" ["a"] "a\\tb\nNull\n"
    statement .builtin "t" ["a"] rows = .ok sql ∧ prepare .builtin sql = .ok p ∧
      stage rows = .ok file.contents ∧ (∀ row ∈ rows, ∀ cell ∈ row, Plain .builtin cell) ∧
      (∀ row ∈ storedRows file, row.length = 1) ∧
      ∃ (marks : List (List String)) (inline : List Cell),
        p.sql = skeleton "t" ["a"] marks ∧ marks.map List.length = [1, 1] ∧
        handed? marks.flatten p.params = some inline ∧
        (storedRows file).map (List.map Cell.written?) = rows.map (List.map Cell.written?) ∧
        ∀ (i : Nat) (cell : Cell), rows.flatten[i]? = some cell →
          ∃ a b, inline[i]? = some a ∧ (storedRows file).flatten[i]? = some b ∧
            (a.written? = b.written? ↔ ¬ cell.SpellsNull) := by
  intro rows sql p file
  have hsql : statement .builtin "t" ["a"] rows = .ok sql := by rfl
  have hp : prepare .builtin sql = .ok p := by decide +kernel
  have hstage : stage rows = .ok file.contents := by rfl
  have hplain : ∀ row ∈ rows, ∀ cell ∈ row, Plain .builtin cell := by decide
  have hload : ∀ row ∈ storedRows file, row.length = 1 := by decide
  exact ⟨hsql, hp, hstage, hplain, hload, inline_and_staged rfl (by decide) (by decide) hplain
    (by decide) hsql hp hstage hload⟩

end Batch

end SlotQuery
