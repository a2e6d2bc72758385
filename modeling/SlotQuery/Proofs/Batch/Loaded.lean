import SlotQuery.Driver.Scripted
import SlotQuery.Proofs.Batch.Agreement

/-!
# What is loaded from a staged file

Any batch without bytes can be staged (`exists_stage`), and both kinds of connection read the same
lines out of the file.  An embedded one takes them apart into the cells that were written
(`storedRows_stage`) and inserts them one by one (`count_insertLines`); a scripted one only counts
them.  `staged_batch` puts this together: nothing of a batch is lost on its way through the file.
-/

namespace SlotQuery

namespace Batch

/-- Whatever is not made of bytes can be staged. -/
theorem stagedField_of_text {cell : Cell} (h : ∀ bytes, cell ≠ .blob bytes) :
    stagedField cell = .ok (spelled cell.written?) := by
  obtain ⟨field, hfield⟩ : ∃ field, stagedField cell = .ok field := by
    cases cell with
    | blob bytes => exact absurd rfl (h bytes)
    | null | int | float | bool | text => exact ⟨_, rfl⟩
  rw [hfield, stagedField_eq hfield]

/-- A row without bytes has a line. -/
theorem exists_stagedLine {row : List Cell} (h : ∀ cell ∈ row, ∀ bytes, cell ≠ .blob bytes) :
    ∃ line, stagedLine row = .ok line := by
  rw [stagedLine, mapM_eq_ok fun cell hcell => stagedField_of_text (h cell hcell)]
  exact ⟨_, rfl⟩

/-- A batch without bytes can be staged. -/
theorem exists_stage {rows : List (List Cell)}
    (h : ∀ row ∈ rows, ∀ cell ∈ row, ∀ bytes, cell ≠ .blob bytes) :
    ∃ contents, stage rows = .ok contents := by
  have hlines : ∀ row ∈ rows,
      stagedLine row = .ok (String.ofList (lineOf row ++ ['\n'])) := by
    intro row hrow
    obtain ⟨line, hline⟩ := exists_stagedLine (h row hrow)
    rw [hline, stagedLine_eq hline]
  rw [stage, mapM_eq_ok hlines]
  exact ⟨_, rfl⟩

/-- Of what can be staged, only null is not written. -/
theorem written?_eq_none_iff {cell : Cell} (h : ∀ bytes, cell ≠ .blob bytes) :
    cell.written? = none ↔ cell = .null := by
  cases cell with
  | null => exact ⟨fun _ => rfl, fun _ => rfl⟩
  | blob bytes => exact absurd rfl (h bytes)
  | int | float | bool | text =>
      constructor
      · intro hnone
        cases hnone
      · intro hnull
        cases hnull

/-- The cell that is loaded for a written text, or for null. -/
def loadedCell : Option String → Cell
  | some t => .text t
  | none => .null

section

variable {path table contents : String} {columns : List String} {rows : List (List Cell)}

/-- The cells of a line are those that stand for its fields. -/
theorem lineCells_staged (line : List Char) :
    Embedded.lineCells (.staged path table columns contents) line =
      ((fields fieldTerminator line).map (decodeField nullMarker)).map loadedCell := by
  rw [Embedded.lineCells, List.map_map]
  refine List.map_congr_left fun field _ => ?_
  rw [Function.comp_apply]
  dsimp only [Load.staged]
  cases decodeField nullMarker field with
  | none => rfl
  | some t => rfl

/-- The rows that are loaded are those that were written, as texts and nulls. -/
theorem storedRows_stage (hstage : stage rows = .ok contents) (hne : ∀ row ∈ rows, row ≠ []) :
    storedRows (.staged path table columns contents) =
      rows.map (List.map fun cell => loadedCell cell.written?) := by
  have hread := congrArg (List.map (List.map loadedCell)) (decode_stage hstage hne)
  rw [List.map_map, List.map_map] at hread
  rw [storedRows]
  calc (lines contents).map (Embedded.lineCells (.staged path table columns contents))
      = (lines contents).map (List.map loadedCell ∘ fun line =>
          (fields fieldTerminator line).map (decodeField nullMarker)) :=
        List.map_congr_left fun line _ => lineCells_staged line
    _ = rows.map (List.map loadedCell ∘ List.map Cell.written?) := hread
    _ = rows.map (List.map fun cell => loadedCell cell.written?) :=
        List.map_congr_left fun row _ => List.map_map

/-- An embedded connection counts the lines that it has inserted. -/
theorem count_insertLines {E : Engine} {file : Load} {p : E.Program} {text : List (List Char)}
    {count total : Nat} {first last : Option Int64} {db db' : E.Database}
    (h : Embedded.insertLines file p count first text db = (.ok (total, last), db')) :
    total = count + text.length := by
  induction text generalizing count first db with
  | nil =>
      cases h
      rfl
  | cons line text ih =>
      rw [Embedded.insertLines] at h
      split at h
      · cases h
      · split at h
        · cases h
        · rw [ih h, List.length_cons]
          omega

/-- What a staged file that is loaded comes to: all of its lines were inserted. -/
theorem exists_of_load {E : Engine} {e : Embedded E} {file : Load} {count : Nat}
    (hok : (e.load file).1 = .ok count) :
    ∃ db p first db', e.store = some db ∧
      E.compile db (Embedded.lineStatement file) = .ok (some p) ∧
      Embedded.insertLines file p 0 none (lines file.contents) db = (.ok (count, first), db') ∧
      (e.load file).2 =
        { e with
          store := some db', affected := count, lastInsertId := first.getD e.lastInsertId } := by
  unfold Embedded.load at hok ⊢
  cases hstore : e.store with
  | none =>
      rw [hstore] at hok
      cases hok
  | some db =>
      rw [hstore] at hok
      dsimp only at hok ⊢
      rcases hcompile : E.compile db (Embedded.lineStatement file) with error | _ | p
      · rw [hcompile] at hok
        cases hok
      · rw [hcompile] at hok
        cases hok
      · rw [hcompile] at hok
        dsimp only at hok ⊢
        rcases hlines : Embedded.insertLines file p 0 none (lines file.contents) db with
          ⟨error | ⟨total, first⟩, db'⟩
        · rw [hlines] at hok
          cases hok
        · rw [hlines] at hok
          cases hok
          exact ⟨db, p, first, db', rfl, hcompile, hlines, rfl⟩

/-- The count of a load is the number of lines. -/
theorem count_load {E : Engine} {e : Embedded E} {file : Load} {count : Nat}
    (hok : (e.load file).1 = .ok count) : count = (lines file.contents).length := by
  obtain ⟨db, p, first, db', -, -, hlines, -⟩ := exists_of_load hok
  rw [count_insertLines hlines, Nat.zero_add]

/-- A scripted connection answers with the number of lines, unless its script has the statement
fail. -/
theorem scripted_load (s : Scripted) (file : Load) :
    (s.respond (.load file)).1 =
      (s.runStatement file.statement).1.map fun _ => (lines file.contents).length := by
  rw [Scripted.respond]
  split
  · next hrun =>
      rw [hrun]
      rfl
  · next hrun =>
      rw [hrun]
      rfl

end

/-- A batch without bytes whose rows have values can be staged, and nothing of it is lost in the
file: there is a line for each row and a field for each value, a field reads as null exactly if its
value is null and as the text of its value otherwise.  So an embedded connection loads these values,
and whatever connection loads the file answers with the number of rows. -/
theorem staged_batch {rows : List (List Cell)} (hne : ∀ row ∈ rows, row ≠ [])
    (htext : ∀ row ∈ rows, ∀ cell ∈ row, ∀ bytes, cell ≠ .blob bytes) :
    ∃ contents, stage rows = .ok contents ∧
      (lines contents).length = rows.length ∧
      (lines contents).map (fun line =>
          (fields fieldTerminator line).map (decodeField nullMarker)) =
        rows.map (List.map Cell.written?) ∧
      (∀ row ∈ rows, ∀ cell ∈ row, cell.written? = none ↔ cell = .null) ∧
      ∀ (path table : String) (columns : List String),
        let file := Load.staged path table columns contents
        storedRows file = rows.map (List.map fun cell => loadedCell cell.written?) ∧
          (∀ (E : Engine) (e e' : Embedded E) (count : Nat), e.load file = (.ok count, e') →
            count = rows.length) ∧
          ∀ s : Scripted, (s.respond (.load file)).1 =
            (s.runStatement file.statement).1.map fun _ => rows.length := by
  obtain ⟨contents, hstage⟩ := exists_stage htext
  have hlength : (lines contents).length = rows.length := by
    rw [lines_stage hstage, List.length_map]
  refine ⟨contents, hstage, hlength, decode_stage hstage hne,
    fun row hrow cell hcell => written?_eq_none_iff (htext row hrow cell hcell),
    fun path table columns => ⟨storedRows_stage hstage hne, ?_, ?_⟩⟩
  · intro E e e' count hload
    rw [count_load (congrArg Prod.fst hload)]
    exact hlength
  · intro s
    rw [scripted_load, ← hlength]
    rfl

/-- Texts that look like the null marker, like an escape or like a line end. -/
theorem staged_batch_of_lookalikes :
    let rows : List (List Cell) :=
      [[.text "a\tb\r\n", .null], [.text "\\N", .int (-3)], [.text "", .bool true]]
    let contents := "a\\tb\\r\\n\t\\N\n\\\\N\t-3\n\t1\n"
    stage rows = .ok contents ∧
      (lines contents).map (fun line =>
          (fields fieldTerminator line).map (decodeField nullMarker)) =
        [[some "a\tb\r\n", none], [some "\\N", some "-3"], [some "", some "1"]] ∧
      ∀ s : Scripted, (s.respond (.load (.staged "f" "t" ["a", "b"] contents))).1 =
        (s.runStatement (Load.statement (.staged "f" "t" ["a", "b"] contents))).1.map
          fun _ => 3 := by
  intro rows contents
  have hwritten : stage rows = .ok contents := by rfl
  have hne : ∀ row ∈ rows, row ≠ [] := by decide
  have htext : ∀ row ∈ rows, ∀ cell ∈ row, ∀ bytes, cell ≠ .blob bytes := by
    simp [rows]
  obtain ⟨staged, hstage, -, hread, -, hload⟩ := staged_batch hne htext
  obtain rfl : contents = staged := by
    rw [hwritten] at hstage
    exact Except.ok.inj hstage
  exact ⟨hwritten, hread, (hload "f" "t" ["a", "b"]).2.2⟩

end Batch

end SlotQuery
