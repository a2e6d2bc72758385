import SlotQuery.Proofs.Engine.Keyed
import SlotQuery.Proofs.Engine.Parsing

/-!
# What the small engine reads a batch as

The small engine reads each slot of a statement as one token, and the statement as an insert of as
many rows as it has, with an item for each slot (`read_slotStatement`).  Given the parameters in
their order, the items are the values of the slots (`cells_of_listed`).  A statement without columns
is not read, and neither is one with a name that the engine cannot hold (`read_slotStatement_none`).
So whatever of this kind is executed puts its rows behind the others of the table
(`Batch.execute_inserts`).

Together with the query for the largest id this says that the small engine numbers the rows of its
tables (`Engine.small_numbers`).
-/

namespace SlotQuery

open Engine (Lexeme Token Item Statement Store)
open Engine.Lexeme (Chunk Reads breaks_cons reads_torn)
open Engine (Holdable)
open Engine.Statement (nul_not_mem_quoteName)

namespace Slot

/-- The slot as the engine reads it. -/
def token : Slot → Token
  | bound _ => .param
  | null => .word "NULL"
  | empty => .text ""
  | blob bytes => .blob bytes

/-- A byte that is written in hexadecimal digits is read back from them. -/
theorem hexByte_readable (b : UInt8) :
    (Template.hexByte b).all Engine.Lexeme.isHexDigit = true ∧
      ∀ more, Engine.Lexeme.bytesOfHex (Template.hexByte b ++ more) =
        b :: Engine.Lexeme.bytesOfHex more := by
  have hdigits : ∀ n < 16, Engine.Lexeme.isHexDigit (Nat.digitChar n).toUpper = true ∧
      Engine.Lexeme.hexValue (Nat.digitChar n).toUpper = n := by decide
  have hb : b.toNat < 256 := b.toNat_lt
  obtain ⟨hhigh, hhighvalue⟩ := hdigits (b.toNat / 16) (by omega)
  obtain ⟨hlow, hlowvalue⟩ := hdigits (b.toNat % 16) (by omega)
  refine ⟨?_, fun more => ?_⟩
  · rw [Template.hexByte, List.all_cons, List.all_cons, hhigh, hlow]
    rfl
  · rw [Template.hexByte, List.cons_append, List.cons_append, List.nil_append,
      Engine.Lexeme.bytesOfHex, hhighvalue, hlowvalue, Nat.div_add_mod' b.toNat 16]
    rw [UInt8.ofNat_toNat]

theorem hexBytes_readable (bytes : List UInt8) :
    (bytes.flatMap Template.hexByte).all Engine.Lexeme.isHexDigit = true ∧
      (bytes.flatMap Template.hexByte).length % 2 = 0 ∧
      Engine.Lexeme.bytesOfHex (bytes.flatMap Template.hexByte) = bytes := by
  induction bytes with
  | nil => exact ⟨rfl, rfl, rfl⟩
  | cons b bytes ih =>
      obtain ⟨hdigits, heven, hbytes⟩ := ih
      obtain ⟨hdigit, hbyte⟩ := hexByte_readable b
      rw [List.flatMap_cons]
      refine ⟨?_, ?_, ?_⟩
      · rw [List.all_append, hdigit, hdigits]
        rfl
      · rw [List.length_append]
        show (2 + _) % 2 = 0
        omega
      · rw [hbyte, hbytes]

/-- The text of a slot is read as its token. -/
theorem chunk_text (slot : Slot) : Chunk slot.text.toList [slot.token] := by
  cases slot with
  | bound c =>
      have hmark : "?".toList = ['?'] := by decide
      rw [text, hmark]
      exact .param
  | null => exact .word 'N' "ULL".toList (by decide) (by decide)
  | empty => exact .emptyText
  | blob bytes =>
      obtain ⟨hdigits, heven, hbytes⟩ := hexBytes_readable bytes
      have hblob := Chunk.blob hdigits heven
      rw [hbytes] at hblob
      rw [text, Batch.toList_blobLiteral]
      exact hblob

/-- No slot brings a NUL into the statement. -/
theorem nul_not_mem_text (slot : Slot) : '\x00' ∉ slot.text.toList := by
  cases slot with
  | bound c => exact (by decide : '\x00' ∉ "?".toList)
  | null | empty => decide
  | blob bytes =>
      intro h
      rw [text, Batch.toList_blobLiteral, List.mem_append, List.mem_append] at h
      rcases h with (h | h) | h
      · exact absurd h (by decide)
      · exact Batch.not_mem_hex (by decide) h
      · exact absurd h (by decide)

/-- A slot is read as an item that has its value, if its parameter is the next one. -/
theorem itemCell_of_item? {slot : Slot} {i : Item} {n : Nat} (h : slot.token.item? n = some i)
    {params more : List Cell} (hparams : params.drop n = slot.param?.toList ++ more) :
    Statement.itemCell params i = slot.value ∧ params.drop (n + slot.token.params) = more := by
  cases slot with
  | bound c =>
      cases h
      have hnext : params[n]? = some c := by
        rw [← List.head?_drop, hparams]
        rfl
      refine ⟨?_, ?_⟩
      · rw [Statement.itemCell, hnext]
        rfl
      · show params.drop (n + 1) = more
        rw [← List.drop_drop, hparams]
        rfl
  | null | empty | blob =>
      cases h
      exact ⟨rfl, hparams⟩

end Slot

/-- A row of slots has the values that its tokens are read as, given the parameters in their
order. -/
theorem cells_of_rowOf {row : List Slot} {items : List Item} {n : Nat}
    (h : Statement.RowOf n (row.map Slot.token) items) {params more : List Cell}
    (hparams : params.drop n = row.filterMap Slot.param? ++ more) :
    items.map (Statement.itemCell params) = row.map Slot.value ∧
      params.drop (n + ((row.map Slot.token).map Token.params).sum) = more := by
  induction row generalizing n items with
  | nil =>
      cases h
      exact ⟨rfl, hparams⟩
  | cons slot row ih =>
      cases h with
      | cons hitem hmore =>
          have hfront : params.drop n =
              slot.param?.toList ++ (row.filterMap Slot.param? ++ more) := by
            rw [hparams, List.filterMap_cons]
            cases slot.param? <;> rfl
          obtain ⟨hvalue, hrest⟩ := Slot.itemCell_of_item? hitem hfront
          obtain ⟨hvalues, hleft⟩ := ih hmore hrest
          refine ⟨?_, ?_⟩
          · rw [List.map_cons, List.map_cons, hvalue, hvalues]
          · rw [List.map_cons, List.map_cons, List.sum_cons, ← Nat.add_assoc]
            exact hleft

/-- The items of a statement stand for the values of the slots, if the parameters are those of the
slots. -/
theorem cells_of_listed {rows : List (List Slot)} {items : List (List Item)} {n : Nat}
    (h : Statement.Listed Statement.RowOf (fun row => (row.map Token.params).sum) n
      (rows.map (List.map Slot.token)) items) {params : List Cell}
    (hparams : params.drop n = rows.flatten.filterMap Slot.param?) :
    items.map (List.map (Statement.itemCell params)) = rows.map (List.map Slot.value) := by
  induction rows generalizing n items with
  | nil =>
      cases h
      rfl
  | cons row rows ih =>
      cases h with
      | cons hrow hmore =>
          rw [List.flatten_cons, List.filterMap_append] at hparams
          obtain ⟨hvalues, hleft⟩ := cells_of_rowOf hrow hparams
          rw [List.map_cons, List.map_cons, hvalues, ih hmore hleft]

namespace Batch

/-- The tokens of such a statement. -/
def slotTokens (table : String) (columns : List String) (rows : List (List Slot)) : List Token :=
  .word "INSERT" :: .word "INTO" :: .name table :: (Statement.nameTokens columns ++
    .word "VALUES" :: [Token.symbol ','].intercalate
      ((rows.map (List.map Slot.token)).map Statement.rowTokens))

variable {table : String} {columns : List String} {rows : List (List Slot)}

/-- A row of slots is read as the tokens of the row. -/
theorem chunk_row {row : List Slot} (hne : row ≠ []) :
    Chunk (rowText (row.map fun slot => slot.text.toList))
      (Statement.rowTokens (row.map Slot.token)) := by
  have hlist := Chunk.joined (f := fun slot : Slot => slot.text.toList)
    (g := fun slot => [slot.token]) hne fun slot _ => slot.chunk_text
  rw [rowText, Statement.rowTokens, List.map_map, List.append_assoc]
  exact hlist.group

/-- The names of columns are read as the tokens of a list of names. -/
theorem chunk_names (hcolumns : columns ≠ []) :
    Chunk ("(" ++ quoteNames columns ++ ")").toList (Statement.nameTokens columns) := by
  have hlist := Chunk.joined (f := fun c : String => (quoteName c).toList)
    (g := fun c => [.name c]) hcolumns fun c _ => Chunk.name c
  have htext : ("(" ++ quoteNames columns ++ ")").toList =
      '(' :: ([',', ' '].intercalate (columns.map fun c => (quoteName c).toList) ++ [')']) := by
    rw [String.toList_append, String.toList_append, quoteNames, String.toList_intercalate,
      List.map_map]
    rfl
  rw [htext]
  exact hlist.group

/-- In front of names, the statement is read as an insert into the table. -/
theorem chunk_target (table : String) :
    Chunk ("INSERT INTO ".toList ++ (quoteName table).toList)
      [.word "INSERT", .word "INTO", .name table] := by
  have hinsert := Chunk.word 'I' "NSERT".toList (by decide) (by decide)
  have hinto := Chunk.word 'I' "NTO".toList (by decide) (by decide)
  exact hinsert.spaced (hinto.spaced (Chunk.name table))

/-- The front of an insert is read as its words and names. -/
theorem chunk_head (table : String) (hcolumns : columns ≠ []) :
    Chunk (head table columns).toList
      (.word "INSERT" :: .word "INTO" :: .name table ::
        (Statement.nameTokens columns ++ [.word "VALUES"])) := by
  have hvalues := Chunk.word 'V' "ALUES".toList (by decide) (by decide)
  have hhead := (chunk_target table).spaced ((chunk_names hcolumns).spaced hvalues)
  have htext : (head table columns).toList =
      ("INSERT INTO ".toList ++ (quoteName table).toList) ++
        ' ' :: (("(" ++ quoteNames columns ++ ")").toList ++ ' ' :: "VALUES".toList) := by
    simp only [head, String.toList_append, List.append_assoc]
    rfl
  rw [htext]
  exact hhead

/-- The statement is read as its tokens. -/
theorem chunk_slotStatement (hcolumns : columns ≠ []) (hrows : rows ≠ [])
    (hne : ∀ row ∈ rows, row ≠ []) :
    Chunk (slotStatement table columns rows).toList (slotTokens table columns rows) := by
  have hjoined := Chunk.joined
    (f := fun row : List Slot => rowText (row.map fun slot => slot.text.toList))
    (g := fun row => Statement.rowTokens (row.map Slot.token)) hrows
    fun row hrow => chunk_row (hne row hrow)
  have htexts : ((rows.map (List.map Slot.text)).map (List.map String.toList)).map rowText =
      rows.map fun row => rowText (row.map fun slot => slot.text.toList) := by
    rw [List.map_map, List.map_map]
    exact List.map_congr_left fun row _ => congrArg rowText List.map_map
  have hnone : (rows.map (List.map Slot.text)).map (List.map String.toList) ≠ [] := by
    rwa [ne_eq, List.map_eq_nil_iff, List.map_eq_nil_iff]
  have htokens : (rows.map (List.map Slot.token)).map Statement.rowTokens =
      rows.map fun row => Statement.rowTokens (row.map Slot.token) := List.map_map
  rw [slotStatement, toList_skeleton, layout, if_neg hnone, htexts, slotTokens, htokens]
  have hwhole := (chunk_head table hcolumns).spaced hjoined
  rw [List.cons_append, List.cons_append, List.cons_append, List.append_assoc,
    List.singleton_append] at hwhole
  exact hwhole

/-- The statement ends nowhere before its end. -/
theorem nul_not_mem_slotStatement (htable : Holdable table)
    (hcolumns : ∀ column ∈ columns, Holdable column) (rows : List (List Slot)) :
    '\x00' ∉ (slotStatement table columns rows).toList := by
  have hcomma : '\x00' ∉ [',', ' '] := by decide
  have hhead : '\x00' ∉ (head table columns).toList := by
    simp only [head, quoteNames, String.toList_append, String.toList_intercalate]
    refine List.not_mem_append (List.not_mem_append (List.not_mem_append (List.not_mem_append
      (by decide) (nul_not_mem_quoteName htable)) (by decide)) fun h => ?_) (by decide)
    rcases mem_of_mem_intercalate h with h | ⟨text, htext, h⟩
    · exact hcomma h
    · obtain ⟨name, hname, rfl⟩ := List.mem_map.mp htext
      obtain ⟨column, hcolumn, rfl⟩ := List.mem_map.mp hname
      exact nul_not_mem_quoteName (hcolumns column hcolumn) h
  have hrow : ∀ row : List Slot, '\x00' ∉ rowText ((row.map Slot.text).map String.toList) := by
    intro row
    refine List.not_mem_append (List.not_mem_append (by decide) fun h => ?_) (by decide)
    rcases mem_of_mem_intercalate h with h | ⟨text, htext, h⟩
    · exact hcomma h
    · obtain ⟨slottext, hslot, rfl⟩ := List.mem_map.mp htext
      obtain ⟨slot, -, rfl⟩ := List.mem_map.mp hslot
      exact slot.nul_not_mem_text h
  rw [slotStatement, toList_skeleton, layout]
  refine List.not_mem_append hhead ?_
  split
  · exact List.not_mem_nil
  · rw [List.mem_cons, not_or]
    refine ⟨by decide, fun h => ?_⟩
    rcases mem_of_mem_intercalate h with h | ⟨text, htext, h⟩
    · exact hcomma h
    · rw [List.map_map, List.map_map] at htext
      obtain ⟨row, -, rfl⟩ := List.mem_map.mp htext
      exact hrow row h

/-- A statement whose names the engine can hold is read as an insert of its rows. -/
theorem read_slotStatement (hcolumns : columns ≠ []) (hrows : rows ≠ [])
    (hne : ∀ row ∈ rows, row ≠ []) (htable : Holdable table)
    (hnames : ∀ column ∈ columns, Holdable column) :
    ∃ s n, Statement.Inserts table columns (rows.map (List.map Slot.token)) s ∧
      Statement.read (slotStatement table columns rows).toList = .ok (some (s, n), []) := by
  have hitems : ∀ row ∈ rows.map (List.map Slot.token), ∀ t ∈ row, ∀ n,
      ∃ i, t.item? n = some i := by
    intro row hrow t ht n
    obtain ⟨slots, -, rfl⟩ := List.mem_map.mp hrow
    obtain ⟨slot, -, rfl⟩ := List.mem_map.mp ht
    cases slot <;> exact ⟨_, rfl⟩
  have hfull : ∀ row ∈ rows.map (List.map Slot.token), row ≠ [] := by
    intro row hrow
    obtain ⟨slots, hslots, rfl⟩ := List.mem_map.mp hrow
    exact fun h => hne slots hslots (List.map_eq_nil_iff.mp h)
  obtain ⟨s, hs, hread⟩ := Statement.read_of_gives
    (nul_not_mem_slotStatement htable hnames rows)
    (chunk_slotStatement hcolumns hrows hne).tokens_ofText nofun
    (Statement.gives_insert hcolumns (fun h => hrows (List.map_eq_nil_iff.mp h)) hfull hitems)
  exact ⟨s, _, hs, hread⟩

/-- Names of columns with a comma behind each. -/
def followed (names : List String) : List Char :=
  names.flatMap fun name => (quoteName name).toList ++ [',', ' ']

/-- Names without a NUL make a text without one. -/
theorem nul_not_mem_followed {names : List String} (h : ∀ name ∈ names, Holdable name) :
    '\x00' ∉ followed names := by
  intro hnul
  obtain ⟨name, hname, hnul⟩ := List.mem_flatMap.mp hnul
  exact List.not_mem_append (nul_not_mem_quoteName (h name hname)) (by decide) hnul

/-- Names that are each followed by a comma are read as such. -/
theorem reads_followed (names : List String) {rest : List Char}
    (hrest : ∀ d ∈ rest.head?, Lexeme.isSpace d = false) :
    Reads (followed names) (names.flatMap fun name => [.name name, .symbol ',']) rest := by
  induction names with
  | nil => exact .nil rest
  | cons name names ih =>
      have hnext : ∀ d ∈ (followed names ++ rest).head?, Lexeme.isSpace d = false := by
        cases names with
        | nil => exact hrest
        | cons next names =>
            intro d hd
            rw [followed, List.flatMap_cons, toList_quoteName] at hd
            rw [← Option.some.inj hd]
            rfl
      have hcomma := (Reads.symbol (c := ',') (by decide) _).append
        ((Reads.space hnext).append ih)
      rw [followed, List.flatMap_cons, List.flatMap_cons, List.append_assoc, ← followed]
      have hname := (Chunk.name name).reads ([','] ++ ([' '] ++ followed names) ++ rest)
        (breaks_cons (by decide) _)
      exact hname.append hcomma

/-- Something that is no name, where the name of a column should be. -/
theorem read_none_of_column (htable : Holdable table) {good : List String}
    (hgood : ∀ column ∈ good, Holdable column) {rest stop more : List Char} {t : Token}
    (ht : Statement.NoName t) (hcut : rest.takeWhile (· ≠ '\x00') = stop ++ more)
    (hspace : ∀ d ∈ (stop ++ more).head?, Lexeme.isSpace d = false)
    (hstop : Reads stop [t] more) :
    ∃ m, Statement.read ("INSERT INTO ".toList ++
      ((quoteName table).toList ++ ' ' :: '(' :: (followed good ++ rest))) = .error m := by
  let front := ("INSERT INTO ".toList ++ (quoteName table).toList) ++ ' ' :: '(' :: followed good
  have hfront : '\x00' ∉ front :=
    List.not_mem_append (List.not_mem_append (by decide) (nul_not_mem_quoteName htable))
      (List.not_mem_append (s := [' ', '(']) (by decide) (nul_not_mem_followed hgood))
  have htext : "INSERT INTO ".toList ++
      ((quoteName table).toList ++ ' ' :: '(' :: (followed good ++ rest)) = front ++ rest := by
    simp only [front, List.append_assoc, List.cons_append]
  have hlist := (reads_followed good hspace).append hstop
  have hopen := Reads.append (Reads.symbol (c := '(') (by decide) _) hlist
  have hspaced := Reads.append
    (Reads.space fun d hd => by rw [← Option.some.inj hd]; rfl) hopen
  have hreads := Reads.append
    ((chunk_target table).reads _ (breaks_cons (c := ' ') (by decide) _)) hspaced
  obtain ⟨us, htokens⟩ := hreads.exists_tokens
  have hshape : (("INSERT INTO ".toList ++ (quoteName table).toList) ++
      ([' '] ++ (['('] ++ (followed good ++ stop)))) ++ more = front ++ (stop ++ more) := by
    simp only [front, List.append_assoc, List.cons_append, List.nil_append]
  rw [hshape] at htokens
  rw [← hcut, ← Statement.takeWhile_of_not_mem hfront] at htokens
  simp only [List.append_assoc, List.cons_append, List.nil_append] at htokens
  rw [htext]
  exact Statement.read_of_gives_none htokens nofun (Statement.gives_insert_columns_none ht good)

/-- A list with a comma between two names begins with those in front of one of them. -/
theorem exists_toList_quoteNames (good : List String) (name : String) (more : List String) :
    ∃ rest, (quoteNames (good ++ name :: more)).toList =
      followed good ++ ((quoteName name).toList ++ rest) := by
  rw [quoteNames, String.toList_intercalate, List.map_map]
  induction good with
  | nil =>
      cases more with
      | nil => exact ⟨[], by simp [followed]⟩
      | cons next more =>
          refine ⟨", ".toList ++ ", ".toList.intercalate
            ((next :: more).map (String.toList ∘ quoteName)), ?_⟩
          rw [List.nil_append, List.map_cons, List.map_cons, List.intercalate_cons_cons,
            List.append_assoc, followed, List.flatMap_nil, List.nil_append, Function.comp_apply]
  | cons first good ih =>
      obtain ⟨rest, hrest⟩ := ih
      obtain ⟨next, others, hnext⟩ := List.exists_cons_of_ne_nil
        (List.append_ne_nil_of_right_ne_nil good (List.cons_ne_nil name more))
      refine ⟨rest, ?_⟩
      rw [hnext, List.map_cons] at hrest
      rw [List.cons_append, hnext, List.map_cons, List.map_cons, List.intercalate_cons_cons]
      have hcomma : ", ".toList = [',', ' '] := rfl
      rw [hrest, hcomma, followed, followed, List.flatMap_cons, List.append_assoc,
        List.append_assoc, List.append_assoc]
      rfl

/-- A statement that names no columns, or one that the engine cannot hold, is not read. -/
theorem read_slotStatement_none (htable : Holdable table)
    (h : columns = [] ∨ ∃ name ∈ columns, ¬ Holdable name) (rows : List (List Slot)) :
    ∃ m, Statement.read (slotStatement table columns rows).toList = .error m := by
  obtain ⟨tail, htail⟩ : ∃ tail, (slotStatement table columns rows).toList =
      "INSERT INTO ".toList ++ ((quoteName table).toList ++
        ' ' :: '(' :: ((quoteNames columns).toList ++ ')' :: tail)) := by
    obtain ⟨values, hvalues⟩ : ∃ values, layout (head table columns).toList
        ((rows.map (List.map Slot.text)).map (List.map String.toList)) =
          (head table columns).toList ++ values := ⟨_, rfl⟩
    refine ⟨" VALUES".toList ++ values, ?_⟩
    rw [slotStatement, toList_skeleton, hvalues]
    simp only [head, String.toList_append, List.append_assoc]
    rfl
  rw [htail]
  rcases h with rfl | ⟨name, hname, hbad⟩
  · have hclose : Reads [')'] [.symbol ')'] (tail.takeWhile (· ≠ '\x00')) :=
      .symbol (by decide) _
    have hgood : ∀ column ∈ ([] : List String), Holdable column :=
      List.forall_mem_nil _
    have hnoName : Statement.NoName (.symbol ')') := trivial
    exact read_none_of_column htable hgood hnoName rfl
      (fun d hd => by rw [← Option.some.inj hd]; rfl) hclose
  · -- The text ends inside the first such name.
    have hsplit := List.takeWhile_append_dropWhile (p := fun c => decide (Holdable c))
      (l := columns)
    rcases hdrop : columns.dropWhile fun c => decide (Holdable c) with _ | ⟨first, more⟩
    · have hheld := List.dropWhile_eq_nil_iff.mp hdrop name hname
      exact absurd (of_decide_eq_true hheld) hbad
    · have hfirst : ¬ Holdable first := by
        have hnot := List.head?_dropWhile_not (fun c => decide (Holdable c)) columns
        rw [hdrop] at hnot
        simpa using hnot
      have hgood : ∀ column ∈ columns.takeWhile fun c => decide (Holdable c),
          Holdable column := by
        intro column hcolumn
        have hheld := List.mem_takeWhile_imp hcolumn
        exact of_decide_eq_true hheld
      rw [hdrop] at hsplit
      rw [← hsplit]
      obtain ⟨rest, hrest⟩ := exists_toList_quoteNames
        (columns.takeWhile fun c => decide (Holdable c)) first more
      obtain ⟨cs, htorn⟩ := Statement.exists_torn hfirst
      rw [hrest, List.append_assoc, List.append_assoc]
      exact read_none_of_column (t := .unknown) htable hgood trivial
        ((htorn _).trans (List.append_nil _).symm)
        (fun d hd => by rw [← Option.some.inj hd]; rfl) (reads_torn cs)

variable {before : Store} {statement : Statement} {n : Nat}

/-- A statement with rows that the engine compiles is an insert of them. -/
theorem inserts_of_compile (htable : Holdable table)
    (h : Engine.small.compile before (slotStatement table columns rows) =
      .ok (some (statement, n)))
    (hrows : rows ≠ []) (heven : ∀ row ∈ rows, row.length = columns.length) :
    Statement.Inserts table columns (rows.map (List.map Slot.token)) statement := by
  obtain ⟨rest, hread⟩ := Store.read_of_compile h
  have hheld : ¬ (columns = [] ∨ ∃ name ∈ columns, ¬ Holdable name) := by
    intro hbad
    obtain ⟨m, hnone⟩ := read_slotStatement_none htable hbad rows
    cases hnone.symm.trans hread
  rw [not_or] at hheld
  obtain ⟨hcolumns, hnames⟩ := hheld
  have hall : ∀ name ∈ columns, Holdable name := fun name hname =>
    not_not.mp fun hbad => hnames ⟨name, hname, hbad⟩
  have hne : ∀ row ∈ rows, row ≠ [] := by
    rintro row hrow rfl
    exact hcolumns (List.length_eq_zero_iff.mp (heven [] hrow).symm)
  obtain ⟨s, m, hs, hread'⟩ := read_slotStatement hcolumns hrows hne htable hall
  cases hread.symm.trans hread'
  exact hs

variable {t : Engine.Table} {k : Nat}

/-- With the parameters of its slots, the insert puts the values of its rows behind the others. -/
theorem execute_inserts (hinserts : Statement.Inserts table columns
      (rows.map (List.map Slot.token)) statement)
    (heven : ∀ row ∈ rows, row.length = columns.length)
    (htable : before.ledger.contents.find? table = some t) (hkeyed : t.Keyed k)
    (hfree : ∀ column ∈ columns, t.column? column ≠ some k) (hroom : t.Spacious rows.length) :
    ∃ rs, before.execute statement (rows.flatten.filterMap Slot.param?) =
        (.ok none, before.taking t rs) ∧
      Engine.Table.Takes Engine.small columns t (rows.map (List.map Slot.value)) rs := by
  obtain ⟨m, names, items, rfl, rfl, hnames, hitems⟩ := hinserts
  refine Store.execute_insert htable hnames (cells_of_listed hitems List.drop_zero) hkeyed hfree
    (by rwa [List.length_map]) fun cells hcells => ?_
  obtain ⟨row, hrow, rfl⟩ := List.mem_map.mp hcells
  rw [List.length_map, heven row hrow]

end Batch

/-- The query for the largest id is read as one for a largest value. -/
theorem Engine.Statement.read_maxIdStatement {table : String} (hheld : Holdable table) :
    ∃ s, Statement.SelectsMax table "id" s ∧
      Statement.read (Session.maxIdStatement table).toList = .ok (some (s, 0), []) := by
  have hselect := Chunk.word 'S' "ELECT".toList (by decide) (by decide)
  have hmax := Chunk.word 'M' "AX".toList (by decide) (by decide)
  have hfrom := Chunk.word 'F' "ROM".toList (by decide) (by decide)
  have hcolumn := hmax.append (Chunk.name "id").group
    (breaks_cons (by decide) _)
  have hwhole := hselect.spaced (hcolumn.spaced (hfrom.spaced (.name table)))
  have htext : (Session.maxIdStatement table).toList =
      "SELECT".toList ++ ' ' :: (("MAX".toList ++ '(' :: ((quoteName "id").toList ++ [')'])) ++
        ' ' :: ("FROM".toList ++ ' ' :: (quoteName table).toList)) := by
    have hfront : "SELECT MAX(".toList = "SELECT".toList ++ ' ' :: ("MAX".toList ++ ['(']) := rfl
    have hmiddle : ") FROM ".toList = ')' :: ' ' :: ("FROM".toList ++ [' ']) := rfl
    rw [Session.maxIdStatement, String.toList_append, String.toList_append, String.toList_append,
      hfront, hmiddle]
    simp only [List.append_assoc, List.cons_append, List.nil_append]
  have hnul : '\x00' ∉ (Session.maxIdStatement table).toList := by
    rw [Session.maxIdStatement, String.toList_append, String.toList_append, String.toList_append]
    exact List.not_mem_append (List.not_mem_append (List.not_mem_append (by decide)
      (nul_not_mem_quoteName (by decide))) (by decide))
        (nul_not_mem_quoteName hheld)
  refine Statement.read_of_gives (t := .word "SELECT") hnul ?_ nofun
    (Statement.gives_selectMax table "id")
  rw [htext]
  exact hwhole.tokens_ofText

/-- The small engine numbers the rows of every table. -/
theorem Engine.small_numbers {table : String} (hheld : Holdable table) : small.Numbers table where
  inserted {db₀ db db' p columns rows t k back} hcompile hrows heven htable hkeyed hfree hroom
      hexecute := by
    have hinserts := Batch.inserts_of_compile hheld hcompile hrows heven
    obtain ⟨rs, hdone, htakes⟩ :=
      Batch.execute_inserts hinserts heven htable hkeyed hfree hroom
    have hended : Store.execute db p.1 (rows.flatten.filterMap Slot.param?) = (.ok back, db') :=
      hexecute
    obtain ⟨hback, rfl⟩ := Prod.mk.inj (hended.symm.trans hdone)
    refine ⟨Except.ok.inj hback, rs, htakes, Tables.find?_replace htable rfl, htakes.length_eq, ?_⟩
    have hne : rows.map (List.map Slot.value) ≠ [] := fun h => hrows (List.map_eq_nil_iff.mp h)
    obtain ⟨last, hlast, -⟩ := Option.map_eq_some_iff.mp (htakes.getLast?_ids hne)
    show rs.getLast?.map Record.id = some ((rs.getLast?.map Record.id).getD _)
    rw [hlast]
    rfl
  largest {db db' p t k back} hcompile htable hkeyed hid hexecute := by
    obtain ⟨rest, hread⟩ := Store.read_of_compile hcompile
    obtain ⟨s, ⟨m, column, label, rfl, rfl, hcolumn⟩, hread'⟩ :=
      Statement.read_maxIdStatement hheld
    cases hread.symm.trans hread'
    have hdone : Store.execute db (.select [.max column label] m none none) [] = _ :=
      Store.execute_max htable hkeyed (hcolumn.symm ▸ hid) []
    have hended : Store.execute db (.select [.max column label] m none none) [] =
        (.ok back, db') := hexecute
    obtain ⟨hback, rfl⟩ := Prod.mk.inj (hended.symm.trans hdone)
    exact ⟨⟨label, Except.ok.inj hback⟩, htable⟩

end SlotQuery
