import SlotQuery.Batch.Statement
import SlotQuery.Proofs.Number.Numeral
import SlotQuery.Proofs.Outcome
import SlotQuery.Proofs.Template.Condensed
import SlotQuery.Proofs.Template.Segments

/-!
# What a batch compiles to

A batch that is written into one statement is a template, and preparing it takes four steps: the
cells are secured, blanks and comments are condensed, literals are lifted, and some of them are
written back.  The main statement is `prepare_statement`: all in all, with the markers nobody has
changed, the statement is its `skeleton`, and the parameters are those of the cells, row by row.
The skeleton knows a cell by its `mark` alone, which is a placeholder for all that is bound.

The names may hold anything but the markers, and so may the texts; a text must besides not begin
with a `>`, which would make a closing marker out of the end of the opening one.
-/

namespace SlotQuery.Batch

open Text Template

/-- What stands in the statement for a literal. -/
def markOf (literal : String) : String :=
  match Literal.ofText literal with
  | .bound _ => placeholder
  | .inline text => text

/-- The parameter that comes of a literal. -/
def paramOf (literal : String) : Option Param :=
  match Literal.ofText literal with
  | .bound p => some p
  | .inline _ => none

/-- What stands in the statement for a cell. -/
def mark : Cell → String
  | .null => "NULL"
  | .blob bytes => blobLiteral bytes
  | .int i => markOf (Number.decimal i)
  | .float x => markOf (Number.floatText x)
  | .bool b => markOf (bitText b)
  | .text t => markOf t

/-- The parameter that comes of a cell. -/
def param? : Cell → Option Param
  | .null => none
  | .blob _ => none
  | .int i => paramOf (Number.decimal i)
  | .float x => paramOf (Number.floatText x)
  | .bool b => paramOf (bitText b)
  | .text t => paramOf t

/-- Everything in front of the rows. -/
def head (table : String) (columns : List String) : String :=
  "INSERT INTO " ++ quoteName table ++ " (" ++ quoteNames columns ++ ") VALUES"

/-- The statement for a batch, given what stands for each of its cells. -/
def skeleton (table : String) (columns : List String) (marks : List (List String)) : String :=
  head table columns ++
    if marks = [] then ""
    else " " ++ ", ".intercalate (marks.map fun row => "(" ++ ", ".intercalate row ++ ")")

/-- A text cell that is neither trusted statement text nor broken by the markers around it. -/
def Inlinable (s : Settings) : Cell → Prop
  | .text t =>
    s.rawFragment.enclosed? t = none ∧ s.delimiters.tokenIn t = false ∧
      t.toList.head? ≠ some '>'
  | _ => True

instance (s : Settings) : (cell : Cell) → Decidable (Inlinable s cell)
  | .text _ => inferInstanceAs (Decidable (_ ∧ _ ∧ _))
  | .null | .blob _ | .int _ | .float _ | .bool _ => .isTrue trivial

/-- A text cell that passes the check for markers and is not trusted statement text. -/
def Wrapped (s : Settings) : Cell → Prop
  | .text t => s.rawFragment.enclosed? t = none ∧ s.delimiters.tokenIn t = false
  | _ => True

/-- What can go inline is wrapped. -/
theorem Inlinable.wrapped {s : Settings} {cell : Cell} (h : Inlinable s cell) : Wrapped s cell := by
  cases cell with
  | text t => exact ⟨h.1, h.2.1⟩
  | null | blob | int | float | bool => trivial

/-- A cell as a segment of the template. -/
def segment : Cell → Segment
  | .null => .fixed "NULL".toList
  | .blob bytes => .fixed (blobLiteral bytes).toList
  | .int i => .literal (Number.decimal i).toList
  | .float x => .literal (Number.floatText x).toList
  | .bool b => .literal (bitText b).toList
  | .text t => .literal t.toList

/-- Nothing that numbers are written with is part of a marker. -/
theorem clean_of_numeral {s : String} (hs : Number.Numeral s) :
    (Segment.literal s.toList).Clean := by
  have hnone : ∀ c, Number.isNumeral c = false → c ∉ s.toList := by
    intro c hc hmem
    rw [hs c hmem] at hc
    cases hc
  constructor
  · intro h
    exact hnone '>' (by decide) (h.subset (by simp))
  · intro h
    exact hnone '>' (by decide) (List.mem_of_head? h)

/-- Bytes are written with characters of numerals. -/
theorem isNumeral_of_mem_hexByte {b : UInt8} {c : Char} (hc : c ∈ hexByte b) :
    Number.isNumeral c := by
  have hdigit : ∀ n < 16, Number.isNumeral (Nat.digitChar n).toUpper := by decide
  have hb : b.toNat < 256 := b.toNat_lt
  simp only [hexByte, List.mem_cons, List.not_mem_nil, or_false] at hc
  rcases hc with rfl | rfl
  · exact hdigit _ (by omega)
  · exact hdigit _ (by omega)

/-- A literal of bytes is a quoted text with an X in front. -/
theorem toList_blobLiteral (bytes : List UInt8) :
    (blobLiteral bytes).toList = ['X', '\''] ++ bytes.flatMap hexByte ++ ['\''] := by
  simp only [blobLiteral, String.toList_append, String.toList_ofList]
  rfl

/-- The digits between the quotes are no quotes, no backslashes and no part of a marker. -/
theorem not_mem_hex {bytes : List UInt8} {c : Char} (hc : Number.isNumeral c = false) :
    c ∉ bytes.flatMap hexByte := by
  intro h
  obtain ⟨b, -, hb⟩ := List.mem_flatMap.mp h
  rw [isNumeral_of_mem_hexByte hb] at hc
  cases hc

/-- No marker comes of a literal of bytes. -/
theorem clean_blobLiteral (bytes : List UInt8) :
    (Segment.fixed (blobLiteral bytes).toList).Clean := by
  have hnone : ∀ c, Number.isNumeral c = false → c ≠ '\'' → c ∉ (blobLiteral bytes).toList := by
    intro c hc hquote h
    rw [toList_blobLiteral] at h
    simp only [List.mem_append, List.mem_cons, List.not_mem_nil, or_false] at h
    rcases h with ((rfl | rfl) | h) | rfl
    · cases hc
    · exact hquote rfl
    · exact not_mem_hex hc h
    · exact hquote rfl
  refine ⟨⟨fun h => ?_, fun h => ?_⟩, fun h => ?_, fun h => ?_⟩
  · exact hnone '%' (by decide) (by decide) (h.subset (by simp))
  · exact hnone '%' (by decide) (by decide) (h.subset (by simp))
  · exact hnone '%' (by decide) (by decide) (List.mem_of_head? h)
  · exact hnone '>' (by decide) (by decide) (List.mem_of_head? h)

/-- No marker comes of a value that can go inline. -/
theorem clean_segment {s : Settings} (hd : s.delimiters = Settings.builtin.delimiters) {cell : Cell}
    (h : Inlinable s cell) : (segment cell).Clean := by
  cases cell with
  | null => exact ⟨⟨by decide, by decide⟩, by decide, by decide⟩
  | blob bytes => exact clean_blobLiteral bytes
  | int i => exact clean_of_numeral (Number.numeral_decimal i)
  | float x => exact clean_of_numeral (Number.numeral_floatText x)
  | bool b =>
      cases b with
      | false => exact clean_of_numeral (s := "0") (by decide)
      | true => exact clean_of_numeral (s := "1") (by decide)
  | text t =>
      obtain ⟨-, htoken, hangle⟩ := h
      rw [hd] at htoken
      exact ⟨(not_infix_of_tokenIn htoken).2, hangle⟩

/-- A value that is wrapped ends with its own closing marker. -/
theorem closed_segment {s : Settings} (hd : s.delimiters = Settings.builtin.delimiters)
    {cell : Cell} (h : Wrapped s cell) : (segment cell).Closed := by
  cases cell with
  | null | blob | int | float | bool =>
      refine Segment.Clean.closed (clean_segment hd ?_)
      trivial
  | text t =>
      have htoken : s.delimiters.tokenIn t = false := h.2
      rw [hd] at htoken
      exact (not_infix_of_tokenIn htoken).2

/-- A secured cell is its segment of the template. -/
theorem secured_eq_source {s : Settings} (hd : s.delimiters = Settings.builtin.delimiters)
    {cell : Cell} (h : Wrapped s cell) :
    secured s cell = .ok (String.ofList (segment cell).source) := by
  have hwrap : ∀ text : String, s.delimiters.wrap text =
      String.ofList (Segment.literal text.toList).source := by
    intro text
    rw [← String.toList_inj, Markers.toList_wrap, hd, String.toList_ofList]
    rfl
  cases cell with
  | null | blob => simp only [secured, segment, Segment.source, String.ofList_toList]
  | int | float | bool => rw [secured, hwrap]; rfl
  | text t =>
      obtain ⟨hraw, htoken⟩ := h
      simp only [secured, hraw, htoken, Bool.false_eq_true, if_false, hwrap, segment]

/-- Once it is typed, a segment reads like the mark of its cell. -/
theorem typed_segment (cell : Cell) : String.ofList (segment cell).typed = mark cell := by
  have hliteral : ∀ text : String,
      String.ofList (Segment.literal text.toList).typed = markOf text := by
    intro text
    simp only [Segment.typed, markOf, String.ofList_toList]
    cases Literal.ofText text with
    | bound p => rfl
    | inline t => exact String.ofList_toList
  cases cell with
  | null | blob => exact String.ofList_toList
  | int | float | bool | text => exact hliteral _

/-- A segment binds the parameter of its cell. -/
theorem param?_segment (cell : Cell) : (segment cell).param? = param? cell := by
  have hliteral : ∀ text : String, (Segment.literal text.toList).param? = paramOf text := by
    intro text
    cases h : Literal.ofText text with
    | bound p => simp only [Segment.param?, paramOf, String.ofList_toList, h]
    | inline t => simp only [Segment.param?, paramOf, String.ofList_toList, h]
  cases cell with
  | null | blob => rfl
  | int | float | bool | text => exact hliteral _

/-- A literal of bytes is copied as it is when a statement is condensed. -/
theorem copied_blobLiteral (bytes : List UInt8) : Copied (encode (blobLiteral bytes).toList) := by
  have hquote : (39 : UInt8) ∉ encode (bytes.flatMap hexByte) := fun h =>
    not_mem_hex (c := '\'') (by decide) ((byte_mem_encode (a := '\'') (by decide)).mp h)
  have hslash : (92 : UInt8) ∉ encode (bytes.flatMap hexByte) := fun h =>
    not_mem_hex (c := '\\') (by decide) ((byte_mem_encode (a := '\\') (by decide)).mp h)
  have hrun : Copied (39 :: (encode (bytes.flatMap hexByte) ++ [39])) := by
    refine Copied.quoted rfl fun rest hrest => ?_
    rw [List.append_assoc, splitQuoted_append_of_not_mem hquote (.inr hslash),
      List.singleton_append, splitQuoted_end (by decide) hrest]
  have hletter : Copied [88] := Copied.plain (by decide)
  have hbytes : encode (blobLiteral bytes).toList =
      [88] ++ 39 :: (encode (bytes.flatMap hexByte) ++ [39]) := by
    rw [toList_blobLiteral, encode_append, encode_append]
    rfl
  rw [hbytes]
  exact hletter.append hrun (meets_letter rfl _)

theorem copied_segment {s : Settings} (hd : s.delimiters = Settings.builtin.delimiters)
    {cell : Cell} (h : Wrapped s cell) : Copied (encode (segment cell).source) := by
  have hclosed := closed_segment hd h
  cases cell with
  | null => exact Copied.of_plain (by decide) (by decide)
  | blob bytes => exact copied_blobLiteral bytes
  | int | float | bool | text => exact copied_literal hclosed

/-- Two texts without markers make one without them. -/
theorem clean_append {cs ds : List Char} (hcs : (Segment.fixed cs).Clean)
    (hds : (Segment.fixed ds).Clean) : (Segment.fixed (cs ++ ds)).Clean := by
  obtain ⟨htokenless, hpercent, hangle⟩ := hds
  cases cs with
  | nil => exact ⟨htokenless, hpercent, hangle⟩
  | cons c cs => exact ⟨hcs.1.append htokenless hpercent hangle, hcs.2.1, hcs.2.2⟩

theorem clean_intercalate {xs : List (List Char)} (hxs : ∀ x ∈ xs, (Segment.fixed x).Clean) :
    (Segment.fixed ([',', ' '].intercalate xs)).Clean := by
  have hnil : (Segment.fixed []).Clean := ⟨⟨by decide, by decide⟩, by decide, by decide⟩
  have hcomma : (Segment.fixed [',', ' ']).Clean := ⟨⟨by decide, by decide⟩, by decide, by decide⟩
  induction xs with
  | nil => exact hnil
  | cons x xs ih =>
      obtain ⟨hx, hrest⟩ := List.forall_mem_cons.mp hxs
      cases xs with
      | nil => rwa [List.intercalate_singleton]
      | cons y ys =>
          rw [List.intercalate_cons_cons]
          exact clean_append (clean_append hx hcomma) (ih hrest)

/-- A quoted name holds a marker only if the name does. -/
theorem clean_quoteName {name : String} (h : Settings.builtin.delimiters.tokenIn name = false) :
    (Segment.fixed (quoteName name).toList).Clean := by
  obtain ⟨hopening, hclosing⟩ := not_infix_of_tokenIn h
  have hfront : Tokenless ([backtick] ++ replaceAll backtick [backtick, backtick] name.toList) := by
    constructor
    · rw [pair_infix_append, pair_infix_double (by decide) (by decide)]
      rintro (h | h | ⟨h, -⟩)
      · exact absurd h (by decide)
      · exact hopening h
      · exact absurd h (by decide)
    · rw [pair_infix_append, pair_infix_double (by decide) (by decide)]
      rintro (h | h | ⟨h, -⟩)
      · exact absurd h (by decide)
      · exact hclosing h
      · exact absurd h (by decide)
  have hback : Tokenless [backtick] := ⟨by decide, by decide⟩
  rw [quoteName, String.toList_ofList]
  refine ⟨hfront.append hback (by decide) (by decide), fun h => ?_, fun h => ?_⟩
  · exact absurd (Option.some.inj h) (by decide)
  · exact absurd (Option.some.inj h) (by decide)

/-- No marker comes of the front of an insert whose names have none. -/
theorem clean_head {table : String} {columns : List String}
    (htable : Settings.builtin.delimiters.tokenIn table = false)
    (hcolumns : ∀ column ∈ columns, Settings.builtin.delimiters.tokenIn column = false) :
    (Segment.fixed (head table columns).toList).Clean := by
  have hword : (Segment.fixed "INSERT INTO ".toList).Clean :=
    ⟨⟨by decide, by decide⟩, by decide, by decide⟩
  have hopen : (Segment.fixed " (".toList).Clean := ⟨⟨by decide, by decide⟩, by decide, by decide⟩
  have hclose : (Segment.fixed ") VALUES".toList).Clean :=
    ⟨⟨by decide, by decide⟩, by decide, by decide⟩
  have hnames : (Segment.fixed (quoteNames columns).toList).Clean := by
    rw [quoteNames, String.toList_intercalate]
    refine clean_intercalate fun x hx => ?_
    obtain ⟨name, hname, rfl⟩ := List.mem_map.mp hx
    obtain ⟨column, hcolumn, rfl⟩ := List.mem_map.mp hname
    exact clean_quoteName (hcolumns column hcolumn)
  simp only [head, String.toList_append]
  have htitle := clean_append hword (clean_quoteName htable)
  exact clean_append (clean_append (clean_append htitle hopen) hnames) hclose

/-- The front of an insert is copied as it is. -/
theorem copied_head (table : String) (columns : List String) :
    Copied (bytes (head table columns)) := by
  have hinsert : Copied (bytes "INSERT") := Copied.of_plain (by decide) (by decide)
  have hinto : Copied (bytes "INTO") := Copied.of_plain (by decide) (by decide)
  have hvalues : Copied (bytes "VALUES") := Copied.of_plain (by decide) (by decide)
  have hbytes : bytes (head table columns) =
      (((bytes "INSERT" ++ 32 :: bytes "INTO") ++ 32 :: bytes (quoteName table)) ++
        32 :: bytes ("(" ++ quoteNames columns ++ ")")) ++ 32 :: bytes "VALUES" := by
    have hword : encode "INSERT INTO ".toList =
        (encode "INSERT".toList ++ 32 :: encode "INTO".toList) ++ [32] := rfl
    have hopen : encode " (".toList = 32 :: encode "(".toList := rfl
    have hclose : encode ") VALUES".toList =
        encode ")".toList ++ 32 :: encode "VALUES".toList := rfl
    simp only [bytes, head, String.toList_append, encode_append, hword, hopen, hclose,
      List.append_assoc, List.cons_append, List.nil_append]
  rw [hbytes]
  exact (((hinsert.spaced hinto).spaced (copied_quoteName table)).spaced
    (copied_quoteNames columns)).spaced hvalues

/-- An insert begins with its I. -/
theorem head?_head (table : String) (columns : List String) :
    (bytes (head table columns)).head? = some 73 := by
  simp only [bytes, head, String.toList_append, encode_append, List.append_assoc]
  rfl

/-- What the separators do not bring comes of the parts alone. -/
theorem filterMap_intercalate {α β : Type} {f : α → Option β} {sep : List α}
    (hsep : sep.filterMap f = []) (xs : List (List α)) :
    (sep.intercalate xs).filterMap f = xs.flatten.filterMap f := by
  induction xs with
  | nil => rfl
  | cons x xs ih =>
      cases xs with
      | nil => simp
      | cons y ys =>
          have hflatten : (x :: y :: ys).flatten = x ++ (y :: ys).flatten := List.flatten_cons
          rw [List.intercalate_cons_cons, List.filterMap_append, List.filterMap_append, hsep, ih,
            List.append_nil, hflatten, List.filterMap_append]

/-- Whatever is in separated texts is in a separator or in a text. -/
theorem mem_of_mem_intercalate {α : Type} {a : α} {sep : List α} {xs : List (List α)}
    (h : a ∈ sep.intercalate xs) : a ∈ sep ∨ ∃ x ∈ xs, a ∈ x := by
  induction xs with
  | nil => cases h
  | cons x xs ih =>
      cases xs with
      | nil =>
          rw [List.intercalate_singleton] at h
          exact .inr ⟨x, List.mem_cons_self, h⟩
      | cons y ys =>
          rw [List.intercalate_cons_cons, List.mem_append, List.mem_append] at h
          rcases h with (h | h) | h
          · exact .inr ⟨x, List.mem_cons_self, h⟩
          · exact .inl h
          · rcases ih h with h | ⟨z, hz, h⟩
            · exact .inl h
            · exact .inr ⟨z, List.mem_cons_of_mem x hz, h⟩

/-- A row as segments of the template. -/
def rowSegments (row : List Cell) : List Segment :=
  [.fixed ['(']] ++ [.fixed [',', ' ']].intercalate (row.map fun cell => [segment cell]) ++
    [.fixed [')']]

/-- A batch as segments of the template. -/
def segments (table : String) (columns : List String) (rows : List (List Cell)) : List Segment :=
  .fixed (head table columns).toList ::
    if rows = [] then []
    else .fixed [' '] :: [.fixed [',', ' ']].intercalate (rows.map rowSegments)

/-- A row of texts. -/
def rowText (cells : List (List Char)) : List Char :=
  ['('] ++ [',', ' '].intercalate cells ++ [')']

/-- Rows of texts behind a front. -/
def layout (front : List Char) (rows : List (List (List Char))) : List Char :=
  front ++ if rows = [] then [] else ' ' :: [',', ' '].intercalate (rows.map rowText)

section

variable {f : Segment → List Char}

/-- The segments of a row make the text of the row. -/
theorem flatMap_rowSegments (hf : ∀ t, f (.fixed t) = t) (row : List Cell) :
    (rowSegments row).flatMap f = rowText (row.map fun cell => f (segment cell)) := by
  have hcells : (row.map fun cell => [segment cell]).map (List.flatMap f) =
      row.map fun cell => f (segment cell) := by
    rw [List.map_map]
    exact List.map_congr_left fun cell _ => List.flatMap_singleton f (segment cell)
  rw [rowSegments, List.flatMap_append, List.flatMap_append, flatMap_intercalate, hcells]
  simp only [List.flatMap_singleton, hf]
  rfl

/-- The segments of a batch, whatever becomes of the literals. -/
theorem flatMap_segments (hf : ∀ t, f (.fixed t) = t) (table : String) (columns : List String)
    (rows : List (List Cell)) :
    (segments table columns rows).flatMap f =
      layout (head table columns).toList
        (rows.map fun row => row.map fun cell => f (segment cell)) := by
  cases rows with
  | nil =>
      rw [segments, if_pos rfl, List.flatMap_singleton, hf]
      exact (List.append_nil _).symm
  | cons row rows =>
      have hrows : ((row :: rows).map rowSegments).map (List.flatMap f) =
          ((row :: rows).map fun row => row.map fun cell => f (segment cell)).map rowText := by
        rw [List.map_map, List.map_map]
        exact List.map_congr_left fun row _ => flatMap_rowSegments hf row
      rw [segments, if_neg (List.cons_ne_nil row rows), List.flatMap_cons, List.flatMap_cons,
        flatMap_intercalate, hrows, List.flatMap_singleton, hf, hf, hf]
      rfl

end

/-- A row is written between brackets, with commas. -/
theorem toList_rowText (row : List String) :
    ("(" ++ ", ".intercalate row ++ ")").toList = rowText (row.map String.toList) := by
  rw [String.toList_append, String.toList_append, String.toList_intercalate]
  rfl

/-- A skeleton is its front and its rows of marks. -/
theorem toList_skeleton (table : String) (columns : List String) (marks : List (List String)) :
    (skeleton table columns marks).toList =
      layout (head table columns).toList (marks.map (List.map String.toList)) := by
  cases marks with
  | nil => exact String.toList_append
  | cons row rows =>
      have hrows : ((row :: rows).map fun row => "(" ++ ", ".intercalate row ++ ")").map
          String.toList = ((row :: rows).map (List.map String.toList)).map rowText := by
        rw [List.map_map, List.map_map]
        exact List.map_congr_left fun row _ => toList_rowText row
      rw [skeleton, if_neg (List.cons_ne_nil row rows), String.toList_append, String.toList_append,
        String.toList_intercalate, hrows]
      rfl

/-- The parameters of a row are those of its cells. -/
theorem filterMap_rowSegments (row : List Cell) :
    (rowSegments row).filterMap Segment.param? = row.filterMap param? := by
  have hcomma : [Segment.fixed [',', ' ']].filterMap Segment.param? = [] := rfl
  have hcells : (row.map fun cell => [segment cell]).flatten = row.map segment := by
    rw [← List.flatMap_def, List.map_eq_flatMap]
  have hparam : Segment.param? ∘ segment = param? := funext param?_segment
  rw [rowSegments, List.filterMap_append, List.filterMap_append, filterMap_intercalate hcomma,
    hcells, List.filterMap_map, hparam]
  exact List.append_nil _

/-- The segments of a batch, typed, are its skeleton. -/
theorem typed_segments (table : String) (columns : List String) (rows : List (List Cell)) :
    String.ofList ((segments table columns rows).flatMap Segment.typed) =
      skeleton table columns (rows.map (List.map mark)) := by
  have hcell : ∀ cell, (segment cell).typed = (mark cell).toList := by
    intro cell
    rw [← typed_segment, String.toList_ofList]
  have hmarks : ((rows.map (List.map mark)).map (List.map String.toList)) =
      rows.map fun row => row.map fun cell => (segment cell).typed := by
    simp only [hcell, List.map_map, Function.comp_def]
  rw [flatMap_segments (fun _ => rfl), ← hmarks, ← toList_skeleton, String.ofList_toList]

/-- The parameters of a batch are those of its cells, row by row. -/
theorem filterMap_segments (table : String) (columns : List String) (rows : List (List Cell)) :
    (segments table columns rows).filterMap Segment.param? = rows.flatten.filterMap param? := by
  have hcomma : [Segment.fixed [',', ' ']].filterMap Segment.param? = [] := rfl
  cases rows with
  | nil => rfl
  | cons row rows =>
      have hrows : ((row :: rows).map rowSegments).map (List.filterMap Segment.param?) =
          (row :: rows).map (List.filterMap param?) := by
        rw [List.map_map]
        exact List.map_congr_left fun row _ => filterMap_rowSegments row
      rw [segments, if_neg (List.cons_ne_nil row rows)]
      show ([Segment.fixed [',', ' ']].intercalate ((row :: rows).map rowSegments)).filterMap
        Segment.param? = _
      rw [filterMap_intercalate hcomma, List.filterMap_flatten, hrows, List.filterMap_flatten]

/-- The segments of a batch are those of its cells, and others that are clean. -/
theorem forall_segments {P : Segment → Prop} (hclean : ∀ t, (Segment.fixed t).Clean → P (.fixed t))
    {table : String} {columns : List String} {rows : List (List Cell)}
    (htable : Settings.builtin.delimiters.tokenIn table = false)
    (hcolumns : ∀ column ∈ columns, Settings.builtin.delimiters.tokenIn column = false)
    (hrows : ∀ row ∈ rows, ∀ cell ∈ row, P (segment cell)) :
    ∀ segment ∈ segments table columns rows, P segment := by
  have hletter : ∀ c : Char, c ≠ '%' → c ≠ '>' → P (.fixed [c]) := by
    intro c hpercent hangle
    have hshort : ∀ a b, ¬ [a, b] <:+: [c] := fun a b h => absurd h.length_le (by simp)
    exact hclean [c] ⟨⟨hshort _ _, hshort _ _⟩, fun h => hpercent (Option.some.inj h),
      fun h => hangle (Option.some.inj h)⟩
  have hcomma : P (.fixed [',', ' ']) :=
    hclean _ ⟨⟨by decide, by decide⟩, by decide, by decide⟩
  have hrow : ∀ row ∈ rows, ∀ segment ∈ rowSegments row, P segment := by
    intro row hrow segment hsegment
    simp only [rowSegments, List.mem_append, List.mem_singleton] at hsegment
    rcases hsegment with (rfl | hinside) | rfl
    · exact hletter '(' (by decide) (by decide)
    · rcases mem_of_mem_intercalate hinside with hsep | ⟨x, hx, hmem⟩
      · rw [List.mem_singleton.mp hsep]
        exact hcomma
      · obtain ⟨cell, hcell, rfl⟩ := List.mem_map.mp hx
        rw [List.mem_singleton.mp hmem]
        exact hrows row hrow cell hcell
    · exact hletter ')' (by decide) (by decide)
  intro segment hsegment
  rcases List.mem_cons.mp hsegment with rfl | hsegment
  · exact hclean _ (clean_head htable hcolumns)
  · by_cases hempty : rows = []
    · rw [if_pos hempty] at hsegment
      cases hsegment
    · rw [if_neg hempty] at hsegment
      rcases List.mem_cons.mp hsegment with rfl | hsegment
      · exact hletter ' ' (by decide) (by decide)
      · rcases mem_of_mem_intercalate hsegment with hsep | ⟨x, hx, hmem⟩
        · rw [List.mem_singleton.mp hsep]
          exact hcomma
        · obtain ⟨row, hmemrow, rfl⟩ := List.mem_map.mp hx
          exact hrow row hmemrow segment hmem

/-- No marker comes of a statement whose names and values bring none. -/
theorem clean_segments {s : Settings} (hd : s.delimiters = Settings.builtin.delimiters)
    {table : String} {columns : List String} {rows : List (List Cell)}
    (htable : s.delimiters.tokenIn table = false)
    (hcolumns : ∀ column ∈ columns, s.delimiters.tokenIn column = false)
    (hrows : ∀ row ∈ rows, ∀ cell ∈ row, Inlinable s cell) :
    ∀ segment ∈ segments table columns rows, segment.Clean := by
  rw [hd] at htable hcolumns
  exact forall_segments (fun _ h => h) htable hcolumns fun row hrow cell hcell =>
    clean_segment hd (hrows row hrow cell hcell)

/-- A batch cannot be written into a statement over one of its values. -/
theorem exists_fault_of_statement {s : Settings} {table : String} {columns : List String}
    {rows : List (List Cell)} {e : Error} (h : statement s table columns rows = .error e) :
    ∃ fault, e = .value fault := by
  obtain ⟨row, -, hgroup⟩ := exists_of_mapM_eq_error (eq_error_of_map h)
  obtain ⟨cell, -, hcell⟩ := exists_of_mapM_eq_error (eq_error_of_map hgroup)
  unfold secured at hcell
  split at hcell
  case h_6 text =>
    split at hcell
    · cases hcell
    · split at hcell
      · exact ⟨_, (Except.error.inj hcell).symm⟩
      · cases hcell
  all_goals cases hcell

/-- The template of a batch. -/
theorem statement_of_wrapped {s : Settings} (hd : s.delimiters = Settings.builtin.delimiters)
    (table : String) (columns : List String) {rows : List (List Cell)}
    (hrows : ∀ row ∈ rows, ∀ cell ∈ row, Wrapped s cell) :
    statement s table columns rows = .ok (head table columns ++ " " ++
      ", ".intercalate ((rows.map fun row => row.map fun cell =>
        String.ofList (segment cell).source).map fun row =>
          "(" ++ ", ".intercalate row ++ ")")) := by
  have hgroup : ∀ row ∈ rows, group s row =
      .ok ("(" ++ ", ".intercalate (row.map fun cell =>
        String.ofList (segment cell).source) ++ ")") := by
    intro row hrow
    have hcells := mapM_eq_ok fun cell hcell => secured_eq_source hd (hrows row hrow cell hcell)
    rw [group, hcells]
    rfl
  have hvalues : ") VALUES " = ") VALUES" ++ " " := rfl
  rw [statement, mapM_eq_ok hgroup, List.map_map]
  simp only [Except.map, head, hvalues, String.append_assoc]
  rfl

/-- A statement is its front and its rows, each value as it is secured. -/
theorem statement_eq {s : Settings} (hd : s.delimiters = Settings.builtin.delimiters)
    (table : String) (columns : List String) {rows : List (List Cell)}
    (hrows : ∀ row ∈ rows, ∀ cell ∈ row, Inlinable s cell) :
    statement s table columns rows = .ok (head table columns ++ " " ++
      ", ".intercalate ((rows.map fun row => row.map fun cell =>
        String.ofList (segment cell).source).map fun row =>
          "(" ++ ", ".intercalate row ++ ")")) :=
  statement_of_wrapped hd table columns fun row hrow cell hcell =>
    (hrows row hrow cell hcell).wrapped

/-- A row of values is copied as it is. -/
theorem copied_row {s : Settings} (hd : s.delimiters = Settings.builtin.delimiters)
    {row : List Cell} (hrow : ∀ cell ∈ row, Wrapped s cell) :
    Copied (encode (rowText (row.map fun cell => (segment cell).source))) := by
  rw [rowText, encode_append, encode_append, encode_intercalate, List.map_map]
  refine Copied.group fun x hx => ?_
  obtain ⟨cell, hcell, rfl⟩ := List.mem_map.mp hx
  exact copied_segment hd (hrow cell hcell)

/-- The template of a batch with rows is its own condensed form. -/
theorem condense_layout {s : Settings} (hd : s.delimiters = Settings.builtin.delimiters)
    {table : String} {columns : List String} {rows : List (List Cell)} (hne : rows ≠ [])
    (hrows : ∀ row ∈ rows, ∀ cell ∈ row, Wrapped s cell) :
    condenseBytes openingBytes closingBytes (encode (layout (head table columns).toList
        (rows.map fun row => row.map fun cell => (segment cell).source))) =
      encode (layout (head table columns).toList
        (rows.map fun row => row.map fun cell => (segment cell).source)) := by
  have hjoined : Copied ([44, 32].intercalate (rows.map fun row =>
      encode (rowText (row.map fun cell => (segment cell).source)))) := by
    refine Copied.joined (fun h => hne (List.map_eq_nil_iff.mp h)) fun x hx => ?_
    obtain ⟨row, hrow, rfl⟩ := List.mem_map.mp hx
    exact copied_row hd (hrows row hrow)
  have hlayout : encode (layout (head table columns).toList
      (rows.map fun row => row.map fun cell => (segment cell).source)) =
      bytes (head table columns) ++ 32 :: [44, 32].intercalate (rows.map fun row =>
        encode (rowText (row.map fun cell => (segment cell).source))) := by
    rw [layout, if_neg (fun h => hne (List.map_eq_nil_iff.mp h)), encode_append, encode_cons,
      encode_intercalate, List.map_map, List.map_map]
    rfl
  have hcopied := (copied_head table columns).spaced hjoined
  have hfirst : (bytes (head table columns) ++ 32 :: [44, 32].intercalate (rows.map fun row =>
      encode (rowText (row.map fun cell => (segment cell).source)))).head? = some 73 := by
    rw [List.head?_append_of_ne_nil _ (copied_head table columns).ne_nil, head?_head]
  have hcondensed := condenseBytes_of_copied hcopied hfirst (by decide) (meets_nil _)
  rwa [List.append_nil, rewritten_nil, List.append_nil, ← hlayout] at hcondensed

/-- Condensing takes nothing out of the template but the space at the end of an empty one. -/
theorem condense_of_wrapped {s : Settings} (hd : s.delimiters = Settings.builtin.delimiters)
    {table : String} {columns : List String} {rows : List (List Cell)}
    (hrows : ∀ row ∈ rows, ∀ cell ∈ row, Wrapped s cell) {sql : String}
    (hsql : statement s table columns rows = .ok sql) :
    condense s.delimiters sql =
      String.ofList ((segments table columns rows).flatMap Segment.source) := by
  have hfixed : ∀ t, (Segment.fixed t).source = t := fun _ => rfl
  have hmarkers : bytes s.delimiters.opening = openingBytes ∧
      bytes s.delimiters.closing = closingBytes := by
    rw [hd]
    exact ⟨rfl, rfl⟩
  have htemplate := statement_of_wrapped hd table columns hrows
  rw [hsql] at htemplate
  have htext := congrArg String.toList (Except.ok.inj htemplate)
  rw [flatMap_segments hfixed, condense, hmarkers.1, hmarkers.2]
  by_cases hne : rows = []
  · have hbytes : bytes sql = bytes (head table columns) ++ [32] := by
      rw [bytes, htext, hne, List.map_nil, List.map_nil, String.intercalate_nil,
        String.append_empty, String.toList_append, encode_append]
      rfl
    rw [hbytes, condenseBytes_of_copied (copied_head table columns) (head?_head table columns)
      (by decide) (meets_cons rfl _ []), rewritten_space, rewritten_nil, List.append_nil,
      decode_bytes, hne, layout, if_pos List.map_nil, List.append_nil, String.ofList_toList]
  · have hlayout : sql.toList = layout (head table columns).toList
        (rows.map fun row => row.map fun cell => (segment cell).source) := by
      have hcells : (String.toList ∘ fun cell => String.ofList (segment cell).source) =
          fun cell => (segment cell).source := funext fun cell => String.toList_ofList
      have hgroups : ((rows.map fun row => row.map fun cell =>
          String.ofList (segment cell).source).map fun row =>
            "(" ++ ", ".intercalate row ++ ")").map String.toList =
          (rows.map fun row => row.map fun cell => (segment cell).source).map rowText := by
        rw [List.map_map, List.map_map, List.map_map]
        refine List.map_congr_left fun row _ => (toList_rowText _).trans ?_
        rw [List.map_map, hcells]
        rfl
      rw [htext, String.toList_append, String.toList_append, String.toList_intercalate, hgroups,
        layout, if_neg (fun h => hne (List.map_eq_nil_iff.mp h)), List.append_assoc]
      rfl
    rw [bytes, hlayout, condense_layout hd hne hrows, decode_encode]

/-- The statement for a batch is condensed to itself. -/
theorem condense_statement {s : Settings} (hd : s.delimiters = Settings.builtin.delimiters)
    {table : String} {columns : List String} {rows : List (List Cell)}
    (hrows : ∀ row ∈ rows, ∀ cell ∈ row, Inlinable s cell) {sql : String}
    (hsql : statement s table columns rows = .ok sql) :
    condense s.delimiters sql =
      String.ofList ((segments table columns rows).flatMap Segment.source) :=
  condense_of_wrapped hd (fun row hrow cell hcell => (hrows row hrow cell hcell).wrapped) hsql

/-- With the markers nobody has changed, a batch whose names and texts hold no marker compiles to
its skeleton, with the parameters of its cells row by row. -/
theorem prepare_statement {s : Settings} (hd : s.delimiters = Settings.builtin.delimiters)
    {table : String} {columns : List String} {rows : List (List Cell)}
    (htable : s.delimiters.tokenIn table = false)
    (hcolumns : ∀ column ∈ columns, s.delimiters.tokenIn column = false)
    (hrows : ∀ row ∈ rows, ∀ cell ∈ row, Inlinable s cell) :
    ∃ sql, statement s table columns rows = .ok sql ∧
      prepare s sql = .ok ⟨skeleton table columns (rows.map (List.map mark)),
        rows.flatten.filterMap param?⟩ := by
  have hfixed : ∀ t, (Segment.fixed t).typed = t := fun _ => rfl
  have hclean := clean_segments hd htable hcolumns hrows
  have htyped := extract_typed_segments hclean
  have hskeleton : String.ofList ((segments table columns rows).flatMap Segment.typed) =
      skeleton table columns (rows.map (List.map mark)) := by
    have hmarks : (rows.map fun row => row.map fun cell => (segment cell).typed) =
        (rows.map (List.map mark)).map (List.map String.toList) := by
      have hmark : (fun cell => (segment cell).typed) = String.toList ∘ mark := by
        funext cell
        rw [Function.comp_apply, ← typed_segment, String.toList_ofList]
      rw [List.map_map, hmark]
      exact List.map_congr_left fun row _ => List.map_map.symm
    rw [flatMap_segments hfixed, hmarks, ← toList_skeleton, String.ofList_toList]
  obtain ⟨sql, hsql⟩ : ∃ sql, statement s table columns rows = .ok sql :=
    ⟨_, statement_eq hd table columns hrows⟩
  refine ⟨sql, hsql, ?_⟩
  rw [prepare, condense_statement hd hrows hsql, hd]
  rw [filterMap_segments, hskeleton] at htyped
  exact htyped

/-- Two rows, with a comment mark, a quote and bytes in them. -/
theorem prepare_statement_of_quotes :
    let rows : List (List Cell) := [[.null, .text "it's -- ?"], [.blob [10, 255], .text ""]]
    Settings.builtin.delimiters.tokenIn "a`b" = false ∧
      (∀ column ∈ ["/* x", "y  z"], Settings.builtin.delimiters.tokenIn column = false) ∧
      (∀ row ∈ rows, ∀ cell ∈ row, Inlinable .builtin cell) ∧
      ∃ sql, statement .builtin "a`b" ["/* x", "y  z"] rows = .ok sql ∧
        prepare .builtin sql =
          .ok ⟨"INSERT INTO `a``b` (`/* x`, `y  z`) VALUES (NULL, ?), (X'0AFF', '')",
            [.string "it's -- ?"]⟩ := by
  intro rows
  have htable : Settings.builtin.delimiters.tokenIn "a`b" = false := by decide
  have hcolumns : ∀ column ∈ ["/* x", "y  z"],
      Settings.builtin.delimiters.tokenIn column = false := by decide
  have hrows : ∀ row ∈ rows, ∀ cell ∈ row, Inlinable .builtin cell := by decide
  exact ⟨htable, hcolumns, hrows, prepare_statement rfl htable hcolumns hrows⟩

end SlotQuery.Batch
