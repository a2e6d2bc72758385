import Mathlib.Tactic.SplitIfs
import SlotQuery.Batch.Staged
import SlotQuery.Proofs.Number.Numeral
import SlotQuery.Proofs.Outcome

/-!
# Reading a staged file back

A file that a batch was staged to is read line by line, field by field and escape by escape.  Each
of the three readers undoes one of the writers: `unescape_escaped` for the characters of a text,
`fields_line` for the fields of a row, `lines_stage` for the rows.  All that the last two need is
that an escaped text holds none of the characters that the file is laid out with
(`not_mem_spelled`), and the null marker can be told from every text because a single backslash
never stands before an `N` in one (`escapeField_ne_nullMarker`).

The main statement is `decode_stage`: whatever was staged, the fields of the file are the values
of the batch, row by row, each read as the text that was written or as null.
-/

namespace SlotQuery

open Number (decimal floatText Numeral)

/-- The text that a value is written with.  Null has none, and neither have bytes. -/
def Cell.written? : Cell → Option String
  | .null => none
  | .blob _ => none
  | .int i => some (decimal i)
  | .float x => some (floatText x)
  | .bool b => some (Template.bitText b)
  | .text t => some t

namespace Batch

/-- A written text as a field. -/
def spelled : Option String → String
  | none => nullMarker
  | some t => escapeField t

/-- The character ends a field, a line, or a line for a reader that knows returns. -/
def isLayout (c : Char) : Bool :=
  c = '\t' || c = '\n' || c = '\r'

/-- A character is written as a backslash and a letter that gives it back, or as itself. -/
theorem escapedFieldChar_cases (c : Char) :
    (∃ letter, escapedFieldChar c = ['\\', letter] ∧ unescapedLetter letter = c ∧
        isLayout letter = false) ∨
      escapedFieldChar c = [c] ∧ c ≠ '\\' ∧ isLayout c = false := by
  unfold escapedFieldChar
  split_ifs with hslash htab hline hreturn hzero
  · exact .inl ⟨'\\', rfl, hslash.symm, by decide⟩
  · exact .inl ⟨'t', rfl, htab.symm, by decide⟩
  · exact .inl ⟨'n', rfl, hline.symm, by decide⟩
  · exact .inl ⟨'r', rfl, hreturn.symm, by decide⟩
  · exact .inl ⟨'0', rfl, hzero.symm, by decide⟩
  · exact .inr ⟨rfl, hslash, by simp [isLayout, htab, hline, hreturn]⟩

/-- What was escaped is read back. -/
theorem unescape_escaped (cs : List Char) : unescape (cs.flatMap escapedFieldChar) = cs := by
  induction cs with
  | nil => rfl
  | cons c cs ih =>
      rw [List.flatMap_cons]
      rcases escapedFieldChar_cases c with ⟨letter, hc, hletter, -⟩ | ⟨hc, hslash, -⟩
      · rw [hc, List.cons_append, List.cons_append, List.nil_append, unescape, ih, hletter]
      · rw [hc, List.cons_append, List.nil_append, unescape, ih]
        · exact fun h _ => hslash h
        · exact fun _ _ h _ => hslash h

/-- A text that was read as the null marker would be a single `N`, which is not escaped. -/
theorem escapeField_ne_nullMarker (t : String) : escapeField t ≠ nullMarker := by
  intro h
  have hchars : t.toList.flatMap escapedFieldChar = ['\\', 'N'] := by
    have := congrArg String.toList h
    rwa [escapeField, String.toList_ofList] at this
  have hread := unescape_escaped t.toList
  have hone : t.toList = ['N'] := by
    rw [← hread, hchars]
    rfl
  rw [hone] at hchars
  revert hchars
  decide

/-- What is decoded is what was written. -/
theorem decodeField_spelled (w : Option String) :
    decodeField nullMarker (spelled w).toList = w := by
  cases w with
  | none => rfl
  | some t =>
      rw [decodeField, String.ofList_toList, spelled, if_neg (escapeField_ne_nullMarker t),
        escapeField, String.toList_ofList, unescape_escaped, String.ofList_toList]

/-- A field holds nothing that a file is laid out with. -/
theorem not_mem_spelled {c : Char} (hc : isLayout c) (w : Option String) :
    c ∉ (spelled w).toList := by
  have hother : ∀ {d : Char}, isLayout d = false → c ≠ d := by
    rintro d hd rfl
    rw [hd] at hc
    cases hc
  cases w with
  | none =>
      show c ∉ ['\\', 'N']
      rw [List.mem_cons, List.mem_singleton, not_or]
      exact ⟨hother (by decide), hother (by decide)⟩
  | some t =>
      rw [spelled, escapeField, String.toList_ofList, List.mem_flatMap]
      rintro ⟨d, -, hd⟩
      rcases escapedFieldChar_cases d with ⟨letter, hwritten, -, hletter⟩ | ⟨hwritten, -, hplain⟩
      · rw [hwritten, List.mem_cons, List.mem_singleton] at hd
        exact hd.elim (hother (by decide)) (hother hletter)
      · rw [hwritten, List.mem_singleton] at hd
        exact hother hplain hd

/-- What numbers are written with needs no escape. -/
theorem escapeField_of_numeral {s : String} (hs : Numeral s) : escapeField s = s := by
  have hsame : ∀ cs : List Char, (∀ c ∈ cs, Number.isNumeral c) →
      cs.flatMap escapedFieldChar = cs := by
    intro cs hcs
    induction cs with
    | nil => rfl
    | cons c cs ih =>
        obtain ⟨hc, hrest⟩ := List.forall_mem_cons.mp hcs
        have hplain : escapedFieldChar c = [c] := by
          have hnone : ∀ d, Number.isNumeral d = false → c ≠ d := by
            rintro d hd rfl
            rw [hd] at hc
            cases hc
          rw [escapedFieldChar, if_neg (hnone '\\' (by decide)), if_neg (hnone '\t' (by decide)),
            if_neg (hnone '\n' (by decide)), if_neg (hnone '\r' (by decide)),
            if_neg (hnone '\x00' (by decide))]
        rw [List.flatMap_cons, hplain, ih hrest]
        rfl
  rw [escapeField, hsame s.toList hs, String.ofList_toList]

/-- Numbers and truth values are staged as texts would be. -/
theorem stagedField_eq {cell : Cell} {field : String} (h : stagedField cell = .ok field) :
    field = spelled cell.written? := by
  cases cell with
  | null => exact (Except.ok.inj h).symm
  | int i =>
      rw [← Except.ok.inj h]
      exact (escapeField_of_numeral (Number.numeral_decimal i)).symm
  | float x =>
      rw [← Except.ok.inj h]
      exact (escapeField_of_numeral (Number.numeral_floatText x)).symm
  | bool b =>
      rw [← Except.ok.inj h]
      have hbit : Numeral (Template.bitText b) := by cases b <;> decide
      exact (escapeField_of_numeral hbit).symm
  | text t => exact (Except.ok.inj h).symm
  | blob bytes => cases h

/-- A row in the file, without the end of its line. -/
def lineOf (row : List Cell) : List Char :=
  [fieldTerminator].intercalate (row.map fun cell => (spelled cell.written?).toList)

/-- A staged line is its fields with tabs between them and a line end. -/
theorem stagedLine_eq {row : List Cell} {line : String} (h : stagedLine row = .ok line) :
    line = String.ofList (lineOf row ++ ['\n']) := by
  obtain ⟨fields, hfields, rfl⟩ := exists_of_map_eq_ok h
  have hspelled := eq_map_of_mapM stagedField_eq hfields
  have hchars : ((String.singleton fieldTerminator).intercalate fields ++ "\n").toList =
      lineOf row ++ ['\n'] := by
    rw [String.toList_append, String.toList_intercalate, hspelled, List.map_map,
      String.toList_singleton]
    rfl
  rw [← hchars, String.ofList_toList]

/-- No character that lays out the file stands inside a line, tabs apart. -/
theorem not_mem_lineOf {c : Char} (hc : isLayout c) (htab : c ≠ fieldTerminator)
    (row : List Cell) : c ∉ lineOf row := by
  induction row with
  | nil => exact List.not_mem_nil
  | cons cell row ih =>
      cases row with
      | nil => simpa [lineOf] using not_mem_spelled hc cell.written?
      | cons next rest =>
          have hsplit : lineOf (cell :: next :: rest) =
              (spelled cell.written?).toList ++ [fieldTerminator] ++ lineOf (next :: rest) :=
            List.intercalate_cons_cons
          rw [hsplit, List.mem_append, List.mem_append, List.mem_singleton]
          rintro ((h | h) | h)
          · exact not_mem_spelled hc _ h
          · exact htab h
          · exact ih h

/-- Nothing is taken off a line without returns. -/
theorem dropReturn_of_not_mem {line : List Char} (h : '\r' ∉ line) : dropReturn line = line := by
  unfold dropReturn
  split
  · next rest hreverse =>
    refine absurd ?_ h
    rw [← List.mem_reverse, hreverse]
    exact List.mem_cons_self
  · rfl

/-- A line is read up to its first line feed. -/
theorem linesFrom_append {cs : List Char} (hcs : '\n' ∉ cs) (line rest : List Char) :
    linesFrom line (cs ++ '\n' :: rest) = dropReturn (line.reverse ++ cs) :: linesFrom [] rest := by
  induction cs generalizing line with
  | nil => rw [List.nil_append, linesFrom, List.append_nil]
  | cons c cs ih =>
      rw [List.mem_cons, not_or] at hcs
      rw [List.cons_append, linesFrom, ih hcs.2, List.reverse_cons, List.append_assoc]
      · rfl
      · exact fun h => hcs.1 h.symm

/-- Staging fails over a value. -/
theorem exists_fault_of_stage {rows : List (List Cell)} {e : Error} (h : stage rows = .error e) :
    ∃ fault, e = .value fault := by
  obtain ⟨row, -, hline⟩ := exists_of_mapM_eq_error (eq_error_of_map h)
  obtain ⟨cell, -, hfield⟩ := exists_of_mapM_eq_error (eq_error_of_map hline)
  cases cell with
  | blob bytes => exact ⟨.blobInBulk, (Except.error.inj hfield).symm⟩
  | _ => cases hfield

/-- A staged file is a line for each row, in their order. -/
theorem toList_stage {rows : List (List Cell)} {contents : String}
    (h : stage rows = .ok contents) :
    contents.toList = rows.flatMap fun row => lineOf row ++ ['\n'] := by
  obtain ⟨texts, htexts, rfl⟩ := exists_of_map_eq_ok h
  rw [eq_map_of_mapM stagedLine_eq htexts]
  clear h htexts
  induction rows with
  | nil => rfl
  | cons row rows ih =>
      rw [List.map_cons, String.join_cons, String.toList_append, String.toList_ofList, ih,
        List.flatMap_cons]

/-- The lines of a staged file are the rows of the batch. -/
theorem lines_stage {rows : List (List Cell)} {contents : String}
    (h : stage rows = .ok contents) : lines contents = rows.map lineOf := by
  rw [lines, toList_stage h]
  clear h
  induction rows with
  | nil => rfl
  | cons row rows ih =>
      have hline : '\n' ∉ lineOf row := not_mem_lineOf (by decide) (by decide) row
      have hreturn : '\r' ∉ lineOf row := not_mem_lineOf (by decide) (by decide) row
      rw [List.flatMap_cons, List.append_assoc, List.singleton_append, linesFrom_append hline, ih,
        List.reverse_nil, List.nil_append, dropReturn_of_not_mem hreturn, List.map_cons]

/-- Fields are what the library's splitting gives. -/
theorem fields_eq_splitOn (terminator : Char) (cs : List Char) :
    fields terminator cs = cs.splitOn terminator := by
  induction cs with
  | nil => rfl
  | cons c cs ih =>
      rw [fields, ih, List.splitOn_cons_eq_if_modifyHead]
      by_cases hc : c = terminator
      · rw [if_pos hc, if_pos (beq_iff_eq.mpr hc)]
      · rw [if_neg hc, if_neg (fun h => hc (beq_iff_eq.mp h))]
        cases hrest : cs.splitOn terminator with
        | nil => exact absurd hrest (List.splitOn_ne_nil terminator cs)
        | cons f fs => rfl

/-- The fields of a row that has values are its values, in their order. -/
theorem fields_line {row : List Cell} (hne : row ≠ []) :
    fields fieldTerminator (lineOf row) =
      row.map fun cell => (spelled cell.written?).toList := by
  rw [fields_eq_splitOn, lineOf, List.splitOn_intercalate]
  · intro field hfield
    obtain ⟨cell, -, rfl⟩ := List.mem_map.mp hfield
    exact not_mem_spelled (by decide) cell.written?
  · exact fun h => hne (List.map_eq_nil_iff.mp h)

/-- A staged file is read back as the batch that was written, row by row and value by value. -/
theorem decode_stage {rows : List (List Cell)} {contents : String}
    (h : stage rows = .ok contents) (hne : ∀ row ∈ rows, row ≠ []) :
    (lines contents).map (fun line =>
        (fields fieldTerminator line).map (decodeField nullMarker)) =
      rows.map (List.map Cell.written?) := by
  rw [lines_stage h, List.map_map]
  refine List.map_congr_left fun row hrow => ?_
  rw [Function.comp_apply, fields_line (hne row hrow), List.map_map]
  exact List.map_congr_left fun cell _ => decodeField_spelled cell.written?

/-- A staged batch on its way into its table. -/
def Load.staged (path table : String) (columns : List String) (contents : String) : Load where
  path := path
  table := table
  columns := columns
  terminator := Batch.fieldTerminator
  nullMarker := Batch.nullMarker
  contents := contents

end Batch

end SlotQuery
