import SlotQuery.Proofs.Batch.Inserted
import SlotQuery.Proofs.Session.InsertedRows

/-!
# Generated ids are the ids of the rows

Batches that are inserted into a table one after the other leave an entry each in the log.  The ids
in the entry are those that the rows of the batch have got in the table, in the order of the rows,
and the ids of a batch follow on those of the one before it: `generated_ids`.  It makes no
difference which batches were sent as a statement and which as a staged file.

Of the engine it is asked that it numbers the rows of the table (`Engine.Numbers`), that it keeps
transactions, that a statement which fails changes nothing, and that it leaves the loading of files
to the connection.

The step is one batch (`Delivery.inserts`), and the induction is over the batches.  What carries it
is that a table that numbers its rows goes on to do so, with the next id behind the new rows.

The table is meant as the statements name it, and its name goes through the markers of templates.
So this is about batches whose statements reach the database as they were written
(`Delivery.Verbatim`).  With the markers that nobody has changed, these are the batches in whose
names no marker stands, and in whose texts neither a marker nor trusted statement text
(`Delivery.verbatim_of_builtin`).
-/

namespace SlotQuery

open Act Session
open Engine (Table Record)

/-- A batch, and the settings under which it is inserted. -/
structure Delivery where
  columns : List String
  rows : List (List Cell)
  settings : Settings

namespace Delivery

variable (d : Delivery)

/-- The batch is sent as one statement. -/
def isInline : Bool :=
  fitsInline d.settings d.rows.length

/-- What the engine is given for a cell: the value that stands for it in the statement, or the text
that it is written with in the file. -/
def given (cell : Cell) : Cell :=
  if d.isInline then (Batch.slot cell).value else Batch.loadedCell cell.written?

/-- The values of the rows that are inserted. -/
def values : List (List Cell) :=
  d.rows.map (List.map d.given)

/-- The statement that names the table reaches the database as it was written: that of the batch
itself, or the query for the largest id after its file. -/
def Verbatim (table : String) : Prop :=
  if d.isInline then
    ∀ sql p, Batch.statement d.settings table d.columns d.rows = .ok sql →
      Template.prepare d.settings sql = .ok p →
      p = ⟨Batch.skeleton table d.columns (d.rows.map (List.map Batch.mark)),
        d.rows.flatten.filterMap Batch.param?⟩
  else
    ∀ p, Template.prepare d.settings (maxIdStatement table) = .ok p →
      p = ⟨maxIdStatement table, []⟩

/-- A batch of some rows for a table that numbers its rows in a column, and which leaves the column
to the table. -/
structure Suits (d : Delivery) (t : Table) (k : Nat) (table : String) : Prop where
  nonempty : d.rows ≠ []
  free : ∀ column ∈ d.columns, t.column? column ≠ some k
  verbatim : d.Verbatim table

end Delivery

/-- More rows in the table do not matter. -/
theorem Delivery.Suits.grown {d : Delivery} {t : Table} {k : Nat} {table : String}
    (h : d.Suits t k table) (records : List Record) : d.Suits (t.grown records) k table where
  nonempty := h.nonempty
  free := h.free
  verbatim := h.verbatim

namespace Template

open Text

/-- A text that condensing copies, and of which no marker can come, reaches the database as it
is. -/
theorem prepare_of_copied {s : Settings} (hd : s.delimiters = Settings.builtin.delimiters)
    {sql : String} (hcopied : Copied (bytes sql)) {b : UInt8} (hb : (bytes sql).head? = some b)
    (hplain : IsPlain b) (hclean : (Segment.fixed sql.toList).Clean) :
    prepare s sql = .ok ⟨sql, []⟩ := by
  have hmarkers : bytes s.delimiters.opening = openingBytes ∧
      bytes s.delimiters.closing = closingBytes := by
    rw [hd]
    exact ⟨rfl, rfl⟩
  have hcondensed := condenseBytes_of_copied hcopied hb hplain (meets_nil _)
  rw [List.append_nil, rewritten_nil, List.append_nil] at hcondensed
  have hsame : condense s.delimiters sql = sql := by
    rw [condense, hmarkers.1, hmarkers.2, hcondensed, decode_bytes]
  have htyped := extract_typed_segments (List.forall_mem_singleton.mpr hclean)
  rw [List.flatMap_singleton, List.flatMap_singleton] at htyped
  show extract s.delimiters placeholder true none (condense s.delimiters sql) >>= _ = _
  rw [hsame, hd]
  rw [Segment.source, Segment.typed, String.ofList_toList] at htyped
  exact htyped

end Template

open Text Template in
/-- The query for the largest id reaches the database as it was written. -/
theorem prepare_maxIdStatement {s : Settings} (hd : s.delimiters = Settings.builtin.delimiters)
    {table : String} (htable : s.delimiters.tokenIn table = false) :
    Template.prepare s (maxIdStatement table) = .ok ⟨maxIdStatement table, []⟩ := by
  have hselect : Copied (bytes "SELECT") := Copied.of_plain (by decide) (by decide)
  have hmax : Copied (bytes "MAX") := Copied.of_plain (by decide) (by decide)
  have hfrom : Copied (bytes "FROM") := Copied.of_plain (by decide) (by decide)
  have hcolumn := hmax.append (copied_quoteNames ["id"]) (meets_cons (b := 40) rfl _ _)
  have hwhole := ((hselect.spaced hcolumn).spaced hfrom).spaced (copied_quoteName table)
  have hbytes : bytes (maxIdStatement table) =
      ((bytes "SELECT" ++ 32 :: (bytes "MAX" ++ bytes ("(" ++ quoteNames ["id"] ++ ")"))) ++
        32 :: bytes "FROM") ++ 32 :: bytes (quoteName table) := by
    have hfront : encode ("SELECT MAX(" ++ quoteName "id" ++ ") FROM ").toList =
        ((bytes "SELECT" ++ 32 :: (bytes "MAX" ++ bytes ("(" ++ quoteNames ["id"] ++ ")"))) ++
          32 :: bytes "FROM") ++ [32] := by decide
    have hjoin : ∀ front back : List UInt8, (front ++ [32]) ++ back = front ++ 32 :: back :=
      fun front back => List.append_assoc front [32] back
    have hname : encode (quoteName table).toList = bytes (quoteName table) := rfl
    rw [bytes, maxIdStatement, String.toList_append, encode_append, hfront, hjoin, hname]
  have hfront : (Segment.fixed ("SELECT MAX(" ++ quoteName "id" ++ ") FROM ").toList).Clean :=
    ⟨⟨by decide, by decide⟩, by decide, by decide⟩
  refine prepare_of_copied hd (b := 83) (hbytes ▸ hwhole) ?_ (by decide) ?_
  · have hfirst : (bytes "SELECT").head? = some 83 := by decide
    rw [hbytes, List.head?_append_of_ne_nil _ ((hselect.spaced hcolumn).spaced hfrom).ne_nil,
      List.head?_append_of_ne_nil _ (hselect.spaced hcolumn).ne_nil,
      List.head?_append_of_ne_nil _ hselect.ne_nil, hfirst]
  · rw [maxIdStatement, String.toList_append]
    exact Batch.clean_append hfront (Batch.clean_quoteName (hd ▸ htable))

/-- With the markers that nobody has changed, a batch reaches the database as it was written if no
marker stands in its names and its texts, and none of its texts is trusted statement text. -/
theorem Delivery.verbatim_of_builtin {d : Delivery} {table : String}
    (hd : d.settings.delimiters = Settings.builtin.delimiters)
    (htable : d.settings.delimiters.tokenIn table = false)
    (hcolumns : ∀ column ∈ d.columns, d.settings.delimiters.tokenIn column = false)
    (hcells : ∀ row ∈ d.rows, ∀ cell ∈ row, Batch.Wrapped d.settings cell) :
    d.Verbatim table := by
  unfold Delivery.Verbatim
  split
  · exact fun sql p hsql hp => Batch.prepared_eq hd htable hcolumns hcells hsql hp
  · exact fun p hp => (Except.ok.inj ((prepare_maxIdStatement hd htable).symm.trans hp)).symm

/-- Rows none of which is ragged have the same length. -/
theorem even_of_ragged? {width : Nat} {rows : List (List Cell)} (h : ragged? width rows = none) :
    ∀ row ∈ rows, row.length = width := by
  intro row hrow
  obtain ⟨i, hi⟩ := List.getElem?_of_mem hrow
  have hnone := List.find?_eq_none.mp (Option.map_eq_none_iff.mp h) (row, i)
    (List.mem_zipIdx_iff_getElem?.mpr hi)
  by_contra hwidth
  exact hnone (decide_eq_true hwidth)

section

variable {E : Engine} {c : ConnId} {t : Table} {k : Nat} {table : String}
variable (htrans : E.Transactional) (hcareful : E.Careful) (hfileless : E.Fileless)
variable (hE : E.Numbers table)

include htrans hcareful hfileless hE in
/-- A batch that is inserted. -/
theorem Delivery.inserts {s : State (Bench E)} {d : Delivery} (htable : s.HasTable c table t)
    (hkeyed : t.Keyed k) (hid : t.column? "id" = some k) (hroom : t.Spacious d.rows.length)
    (hd : d.Suits t k table) {changes : Overrides}
    (hset : (s.session.currentSettings s.defaults).override changes = .ok d.settings)
    (hok : (run (Session.insertRows Bench.driver table d.columns d.rows changes) s).1 =
      .ok (.bool true)) :
    ∃ rs, Inserted c table t d.columns d.values s
      (run (Session.insertRows Bench.driver table d.columns d.rows changes) s).2 rs := by
  rw [run_insertRows_of_override hd.nonempty, hset] at hok ⊢
  cases hragged : ragged? d.columns.length d.rows with
  | some place =>
      rw [hragged] at hok
      cases hok
  | none =>
      rw [hragged] at hok
      dsimp only at hok ⊢
      have heven := even_of_ragged? hragged
      have hverbatim := hd.verbatim
      unfold Delivery.Verbatim at hverbatim
      unfold Delivery.values Delivery.given
      cases hfits : d.isInline with
      | false =>
          have hlarge : fitsInline d.settings d.rows.length = false := hfits
          rw [hfits] at hverbatim
          rw [hlarge, if_neg Bool.false_ne_true] at hok ⊢
          exact bulkLoad_inserts htrans hcareful hfileless hE htable hd.nonempty heven hkeyed hid
            hd.free hroom hverbatim hok
      | true =>
          have hsmall : fitsInline d.settings d.rows.length = true := hfits
          rw [hfits] at hverbatim
          rw [hsmall, if_pos rfl] at hok ⊢
          cases hsql : Batch.statement d.settings table d.columns d.rows with
          | error e =>
              rw [hsql] at hok
              cases hok
          | ok sql =>
              rw [hsql] at hok
              cases hp : Template.prepare d.settings sql with
              | error e =>
                  have hrejected : (run (Session.run Bench.driver sql d.settings) s).1 =
                      .ok (.bool true) := hok
                  rw [run_of_rejected hp] at hrejected
                  cases hrejected
              | ok p =>
                  obtain rfl := hverbatim sql p hsql hp
                  exact run_inserts hE htable hd.nonempty heven hkeyed hd.free hroom hp hok

/-- The batches are inserted into a table one after the other, and all of them succeed. -/
inductive Delivered (table : String) :
    State (Bench E) → List Delivery → State (Bench E) → Prop
  | nil (s : State (Bench E)) : Delivered table s [] s
  | cons {s s' s'' : State (Bench E)} {d : Delivery} {more : List Delivery} {changes : Overrides}
    (hset : (s.session.currentSettings s.defaults).override changes = .ok d.settings)
    (hrun : run (Session.insertRows Bench.driver table d.columns d.rows changes) s =
      (.ok (.bool true), s'))
    (hmore : Delivered table s' more s'') : Delivered table s (d :: more) s''

/-- The rows of a batch have become these records of the table, in their order. -/
def Delivery.Becomes (E : Engine) (d : Delivery) (t : Table) (records : List Record) : Prop :=
  List.Forall₂ (fun row r => r.Stores E t d.columns (row.map d.given)) d.rows records

theorem Delivery.becomes_of_takes {d : Delivery} {records : List Record}
    (h : Table.Takes E d.columns t d.values records) : d.Becomes E t records :=
  List.forall₂_map_left_iff.mp h.stores

/-- Ids that follow one another go on where the first ones end. -/
theorem idsFrom_append (first : Int64) (m n : Nat) :
    idsFrom first m ++ idsFrom (first + Int64.ofNat m) n = idsFrom first (m + n) := by
  unfold idsFrom
  rw [List.range_add, List.map_append, List.map_map]
  congr 1
  refine List.map_congr_left fun i _ => ?_
  rw [Function.comp_apply, Int64.ofNat_add, Int64.add_assoc]

/-- The number of rows that batches have. -/
def countRows (batches : List Delivery) : Nat :=
  (batches.map fun d => d.rows.length).sum

include htrans hcareful hfileless hE in
/-- Batches are inserted one after the other, on an embedded connection, into a table that numbers
its rows in the column `id`, and none of them names that column.  Then the log has got an entry for
each batch, and the table has got the rows of the batches behind those that it had.  The ids in the
entry of a batch are the ids of its rows, in the order of the rows, and all of the ids follow one
another, from the one after the largest on. -/
theorem generated_ids {s s' : State (Bench E)} {batches : List Delivery}
    (htable : s.HasTable c table t) (hkeyed : t.Keyed k) (hid : t.column? "id" = some k)
    (hroom : t.Spacious (countRows batches)) (hsuits : ∀ d ∈ batches, d.Suits t k table)
    (h : Delivered table s batches s') :
    ∃ (entries : List LogEntry) (added : List (List Record)),
      s'.session.log = s.session.log ++ entries ∧
      s'.HasTable c table (t.grown added.flatten) ∧
      List.Forall₂ (fun d records => d.Becomes E t records) batches added ∧
      entries.map LogEntry.insertIds = added.map (List.map Record.id) ∧
      added.flatten.map Record.id = idsFrom t.nextId (countRows batches) := by
  induction h generalizing t with
  | nil s =>
      refine ⟨[], [], (List.append_nil _).symm, ?_, .nil, rfl, rfl⟩
      rw [List.flatten_nil, Table.grown_nil]
      exact htable
  | @cons s s₁ s' d more changes hset hrun hmore ih =>
      obtain ⟨hd, hothers⟩ := List.forall_mem_cons.mp hsuits
      have hcount : countRows (d :: more) = d.values.length + countRows more := by
        rw [countRows, List.map_cons, List.sum_cons, Delivery.values, List.length_map]
        rfl
      rw [hcount] at hroom ⊢
      have hone : t.Spacious d.rows.length :=
        hroom.mono (by rw [Delivery.values, List.length_map]; omega)
      obtain ⟨rs, hinserted⟩ := Delivery.inserts htrans hcareful hfileless hE htable hkeyed hid
        hone hd hset (congrArg Prod.fst hrun)
      rw [hrun] at hinserted
      obtain ⟨htakes, ⟨e, hadded, hids⟩, htable₁⟩ := hinserted
      -- The table goes on to number its rows, with the next id behind the new ones.
      obtain ⟨hkeyed₁, hroom₁, hnext⟩ := hkeyed.taken hroom htakes
      obtain ⟨entries, added, hlog, htable', hbecome, hinsertIds, hfollow⟩ :=
        ih htable₁ hkeyed₁ hid hroom₁ fun d hd => (hothers d hd).grown _
      rw [hnext] at hfollow
      refine ⟨e :: entries, rs :: added, ?_, ?_, .cons (Delivery.becomes_of_takes htakes) ?_, ?_,
        ?_⟩
      · rw [hlog, hadded.log, List.append_assoc, List.singleton_append]
      · rw [List.flatten_cons, ← Table.grown_grown]
        exact htable'
      · exact hbecome.imp fun d records h => h.imp fun row r h => ⟨h.shown, h.kept⟩
      · rw [List.map_cons, List.map_cons, hids, hinsertIds]
      · rw [List.flatten_cons, List.map_append, htakes.ids, hfollow, idsFrom_append]

end

/-- Two batches for a table in which one row is left, the first as a statement and the second as a
file. -/
theorem generated_ids_of_both_ways :
    let t : Table := ⟨"t", ["id", "a"], some 0, [⟨7, [.int 7, .null]⟩]⟩
    let embedded : Embedded Engine.small :=
      { Embedded.opened none with store := some (.opened [t]) }
    let s : State (Bench Engine.small) :=
      { wire := ⟨⟨[⟨default, .embedded embedded, ""⟩]⟩, []⟩
        session := { Session.new with connection := some 0 }
        defaults := { Settings.builtin with maxInsertRows := 1 }
        clock := id
        reports := [] }
    let first := Session.insertRows Bench.driver "t" ["a"] [[.int 1]] .none
    let second := Session.insertRows Bench.driver "t" ["a"] [[.text "b"], [.null]] .none
    let s' := (run second (run first s).2).2
    (Engine.small.Transactional ∧ Engine.small.Careful ∧ Engine.small.Fileless ∧
        Engine.small.Numbers "t") ∧
      s.HasTable 0 "t" t ∧ t.Keyed 0 ∧
      s'.session.log.map LogEntry.insertIds = [[8], [9, 10]] ∧
      (s'.table? 0 "t").map (fun t => t.rows.map Record.id) = some [7, 8, 9, 10] := by
  intro t embedded s first second s'
  have hnumbers : Engine.small.Numbers "t" := Engine.small_numbers (by decide)
  let settings : Settings := { Settings.builtin with maxInsertRows := 1 }
  let small : Delivery := ⟨["a"], [[.int 1]], settings⟩
  let large : Delivery := ⟨["a"], [[.text "b"], [.null]], settings⟩
  have hkeyed : t.Keyed 0 :=
    ⟨rfl, by decide, List.pairwise_singleton _ _, fun r hr => by rw [List.mem_singleton.mp hr]; rfl⟩
  have hroom : t.Spacious (countRows [small, large]) :=
    ⟨by decide, fun r hr => by rw [List.mem_singleton.mp hr]; decide⟩
  have hfree : ∀ column ∈ ["a"], t.column? column ≠ some 0 := by decide
  have hplain : ∀ row ∈ small.rows ++ large.rows, ∀ cell ∈ row, Batch.Inlinable settings cell := by
    decide
  have hsmall : small.Suits t 0 "t" :=
    ⟨by decide, hfree, Delivery.verbatim_of_builtin rfl (by decide) (by decide)
      fun row hrow cell hcell => (hplain row (List.mem_append_left _ hrow) cell hcell).wrapped⟩
  have hlarge : large.Suits t 0 "t" :=
    ⟨by decide, hfree, Delivery.verbatim_of_builtin rfl (by decide) (by decide)
      fun row hrow cell hcell => (hplain row (List.mem_append_right _ hrow) cell hcell).wrapped⟩
  have hfound : s.HasTable 0 "t" t := ⟨rfl, by decide, rfl, embedded, rfl, rfl⟩
  have hsent : (run first s).1 = .ok (.bool true) := by decide +kernel
  have hloaded : (run second (run first s).2).1 = .ok (.bool true) := by decide +kernel
  have hset : (s.session.currentSettings s.defaults).override .none = .ok settings := rfl
  have hset' : ((run first s).2.session.currentSettings (run first s).2.defaults).override .none =
      .ok settings := by decide +kernel
  have hdelivered : Delivered "t" s [small, large] s' :=
    .cons hset (Prod.ext hsent rfl) (.cons hset' (Prod.ext hloaded rfl) (.nil s'))
  obtain ⟨entries, added, hlog, htable, hbecome, hids, hfollow⟩ :=
    generated_ids Engine.small_transactional Engine.small_careful Engine.small_fileless hnumbers
      hfound hkeyed (by decide) hroom
      (List.forall_mem_cons.mpr ⟨hsmall, List.forall_mem_singleton.mpr hlarge⟩) hdelivered
  have hall : idsFrom t.nextId (countRows [small, large]) = [8] ++ [9, 10] := by decide
  rw [hall] at hfollow
  refine ⟨⟨Engine.small_transactional, Engine.small_careful, Engine.small_fileless, hnumbers⟩,
    hfound, hkeyed, ?_, ?_⟩
  · obtain ⟨ofSmall, more, hrows, hmore, rfl⟩ := List.forall₂_cons_left_iff.mp hbecome
    obtain ⟨ofLarge, none, -, hnone, rfl⟩ := List.forall₂_cons_left_iff.mp hmore
    obtain rfl := List.forall₂_nil_left_iff.mp hnone
    have hlength : (ofSmall.map Record.id).length = [(8 : Int64)].length := by
      rw [List.length_map]
      exact hrows.length_eq.symm
    rw [List.flatten_cons, List.flatten_singleton, List.map_append] at hfollow
    obtain ⟨hfirst, hsecond⟩ := List.append_inj hfollow hlength
    have hnew : s.session.log = [] := rfl
    rw [hlog, hnew, List.nil_append, hids, List.map_cons, List.map_singleton, hfirst, hsecond]
  · rw [htable.table, Option.map_some, Table.grown, List.map_append, hfollow]
    rfl

end SlotQuery
