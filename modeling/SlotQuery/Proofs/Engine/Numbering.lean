import SlotQuery.Proofs.Batch.Slots
import SlotQuery.Proofs.Number.Integer
import SlotQuery.Session.Insertion

/-!
# Tables that number their rows

A table with an integer key keeps its rows in the order of their ids and shows the id of each row in
the key column (`Table.Keyed`).  A row that comes without an id gets the one after the largest, and
so stands behind all others; rows that come one after the other are taken one by one
(`Table.Takes`).  Such a table goes on to number its rows (`Table.Keyed.taken`), and its new rows
have ids that follow one another (`Table.Takes.ids`).

That an engine numbers the rows of its table with a name is a promise of its documentation
(`Numbers`), of the tables that have a plain integer key and nothing beside it that changes what an
insert does.  It is about the two statements in which a batch asks for ids to be given and for the
largest one.
-/

namespace SlotQuery.Engine

open Number

/-- The record of a row shows its id in the key column, and every column that the row names keeps
one of the cells that the row has for it. -/
structure Record.Stores (E : Engine) (t : Table) (columns : List String) (cells : List Cell)
    (r : Record) : Prop where
  shown : ∀ k, t.key = some k → r.cells[k]? = some (.int r.id)
  kept : ∀ column ∈ columns, ∀ k, t.column? column = some k →
    ∃ name given cell, (name, given) ∈ columns.zip cells ∧ t.column? name = some k ∧
      r.cells[k]? = some cell ∧ E.keeps given cell

namespace Table

/-- The table numbers its rows in the column at a position: they are in the order of their ids, and
each shows its id there. -/
structure Keyed (t : Table) (k : Nat) : Prop where
  key : t.key = some k
  inside : k < t.columns.length
  ordered : t.rows.Pairwise fun r s => r.id < s.id
  shown : ∀ r ∈ t.rows, r.cells[k]? = some (.int r.id)

/-- There are ids for so many more rows, and none of them comes up to the largest integer. -/
def Spacious (t : Table) (count : Nat) : Prop :=
  (count : Int) < Int64.maxValue.toInt ∧
    ∀ r ∈ t.rows, r.id.toInt + count < Int64.maxValue.toInt

/-- The table with records behind those that it has. -/
def grown (t : Table) (rs : List Record) : Table :=
  { t with rows := t.rows ++ rs }

/-- Rows become records of a table one by one, each under the next id and behind the others. -/
inductive Takes (E : Engine) (columns : List String) :
    Table → List (List Cell) → List Record → Prop
  | nil (t : Table) : Takes E columns t [] []
  | cons {t : Table} {cells : List Cell} {rows : List (List Cell)} {r : Record} {rs : List Record}
      (hid : r.id = t.nextId) (hstores : r.Stores E t columns cells)
      (hmore : Takes E columns (t.grown [r]) rows rs) : Takes E columns t (cells :: rows) (r :: rs)

variable {E : Engine} {t : Table} {k count : Nat} {columns : List String} {cells : List Cell}
variable {rows : List (List Cell)} {r : Record} {rs : List Record}

@[simp] theorem grown_nil (t : Table) : t.grown [] = t := by
  rw [grown, List.append_nil]

theorem grown_grown (t : Table) (rs rs' : List Record) :
    (t.grown rs).grown rs' = t.grown (rs ++ rs') := by
  simp only [grown, List.append_assoc]

theorem Spacious.mono {count' : Nat} (h : t.Spacious count) (hle : count' ≤ count) :
    t.Spacious count' :=
  ⟨by have := h.1; omega, fun r hr => by have := h.2 r hr; omega⟩

/-- Below the largest integer a step up does not wrap. -/
theorem toInt_succ {i : Int64} (h : i.toInt < Int64.maxValue.toInt) :
    (i + 1).toInt = i.toInt + 1 := by
  have hlow := i.le_toInt
  have hmin := toInt_minValue
  rw [toInt_add_of_fits, Int64.toInt_one]
  exact ⟨by rw [Int64.toInt_one]; omega, by rw [Int64.toInt_one]; omega⟩

/-- The rows that a table numbers are none, or the last one has the largest id. -/
theorem Keyed.last (h : t.Keyed k) :
    t.rows = [] ∨ ∃ front last, t.rows = front ++ [last] ∧ ∀ r ∈ front, r.id < last.id := by
  rcases List.eq_nil_or_concat t.rows with hnil | ⟨front, last, hrows⟩
  · exact .inl hnil
  · have hordered := h.ordered
    rw [hrows, List.concat_eq_append, List.pairwise_append] at hordered
    rw [List.concat_eq_append] at hrows
    exact .inr ⟨front, last, hrows, fun r hr =>
      hordered.2.2 r hr last (List.mem_singleton_self last)⟩

theorem nextId_of_nil (h : t.rows = []) : t.nextId = 1 := by
  rw [nextId, lastId?, h]
  rfl

/-- The next id is the one after that of the last row. -/
theorem nextId_of_concat {front : List Record} {last : Record} (h : t.rows = front ++ [last]) :
    t.nextId = last.id + 1 := by
  rw [nextId, lastId?, h, List.getLast?_concat]
  rfl

/-- The ids of so many rows end in front of the largest integer. -/
theorem Keyed.nextId_add_le (h : t.Keyed k) (hroom : t.Spacious count) :
    t.nextId.toInt + count ≤ Int64.maxValue.toInt := by
  rcases h.last with hnil | ⟨front, last, hrows, -⟩
  · have hbelow := hroom.1
    rw [nextId_of_nil hnil, Int64.toInt_one]
    omega
  · have hbelow := hroom.2 last (by rw [hrows]; exact List.mem_concat_self)
    rw [nextId_of_concat hrows, toInt_succ (by omega)]
    omega

/-- In front of the next id there is a 64-bit integer. -/
theorem Keyed.minValue_lt_nextId (h : t.Keyed k) (hroom : t.Spacious 0) :
    Int64.minValue.toInt < t.nextId.toInt := by
  have hmin := toInt_minValue
  rcases h.last with hnil | ⟨front, last, hrows, -⟩
  · rw [nextId_of_nil hnil, Int64.toInt_one]
    omega
  · have hbelow := hroom.2 last (by rw [hrows]; exact List.mem_concat_self)
    have hlow := last.id.le_toInt
    rw [nextId_of_concat hrows, toInt_succ (by omega)]
    omega

/-- The next id comes after all that there are. -/
theorem Keyed.lt_nextId (h : t.Keyed k) (hroom : t.Spacious 1) : ∀ r ∈ t.rows, r.id < t.nextId := by
  rcases h.last with hnil | ⟨front, last, hrows, hlast⟩
  · rw [hnil]
    exact fun r hr => absurd hr List.not_mem_nil
  · have hbelow : last.id.toInt + 1 < Int64.maxValue.toInt :=
      hroom.2 last (by rw [hrows]; exact List.mem_concat_self)
    have hnext := toInt_succ (i := last.id) (by omega)
    rw [nextId_of_concat hrows]
    intro r hr
    rw [Int64.lt_iff_toInt_lt, hnext]
    rw [hrows, List.mem_append, List.mem_singleton] at hr
    rcases hr with hr | rfl
    · have := Int64.lt_iff_toInt_lt.mp (hlast r hr)
      omega
    · omega

theorem nextId_grown (t : Table) (r : Record) : (t.grown [r]).nextId = r.id + 1 :=
  nextId_of_concat rfl

/-- With a record under the next id the table goes on to number its rows. -/
theorem Keyed.grown (h : t.Keyed k) (hroom : t.Spacious (count + 1)) (hid : r.id = t.nextId)
    (hshown : r.cells[k]? = some (.int r.id)) :
    (t.grown [r]).Keyed k ∧ (t.grown [r]).Spacious count := by
  have hone := hroom.mono (Nat.le_add_left 1 count)
  refine ⟨⟨h.key, h.inside, ?_, ?_⟩, by have := hroom.1; omega, ?_⟩
  · refine List.pairwise_append.mpr ⟨h.ordered, List.pairwise_singleton _ _, fun s hs r' hr' => ?_⟩
    rw [List.mem_singleton.mp hr', hid]
    exact h.lt_nextId hone s hs
  · intro s hs
    rcases List.mem_append.mp hs with hs | hs
    · exact h.shown s hs
    · rw [List.mem_singleton.mp hs]
      exact hshown
  · intro s hs
    rcases List.mem_append.mp hs with hs | hs
    · have := hroom.2 s hs
      omega
    · have := h.nextId_add_le hroom
      rw [List.mem_singleton.mp hs, hid]
      omega

namespace Takes

/-- Every row becomes one record. -/
theorem length_eq (h : Takes E columns t rows rs) : rs.length = rows.length := by
  induction h with
  | nil => rfl
  | cons _ _ _ ih => rw [List.length_cons, List.length_cons, ih]

/-- More rows in a table do not change what its records store. -/
theorem stores (h : Takes E columns t rows rs) :
    List.Forall₂ (fun cells r => r.Stores E t columns cells) rows rs := by
  induction h with
  | nil => exact .nil
  | cons _ hstores _ ih => exact .cons hstores (ih.imp fun _ _ h => ⟨h.shown, h.kept⟩)

/-- The ids of the new rows follow one another, from the next one on. -/
theorem ids (h : Takes E columns t rows rs) :
    rs.map Record.id = idsFrom t.nextId rows.length := by
  induction h with
  | nil => rfl
  | @cons t cells rows r rs hid _ _ ih =>
      rw [List.map_cons, ih, nextId_grown, hid, idsFrom, idsFrom, List.length_cons,
        List.range_succ_eq_map, List.map_cons, List.map_map]
      congr 1
      · exact (Int64.add_zero t.nextId).symm
      · refine List.map_congr_left fun n _ => ?_
        have hsucc : 1 + Int64.ofNat n = Int64.ofNat (n + 1) := by
          rw [Int64.ofNat_add, Int64.add_comm]
          rfl
        rw [Function.comp_apply, Int64.add_assoc, hsucc]

/-- The last of the rows has the last of the ids. -/
theorem getLast?_ids (h : Takes E columns t rows rs) (hne : rows ≠ []) :
    rs.getLast?.map Record.id = some (t.nextId + Int64.ofNat rows.length - 1) := by
  obtain ⟨n, hn⟩ : ∃ n, rows.length = n + 1 :=
    Nat.exists_eq_succ_of_ne_zero fun h => hne (List.length_eq_zero_iff.mp h)
  rw [← List.getLast?_map, h.ids, hn, idsFrom, List.getLast?_map, List.getLast?_range,
    if_neg (Nat.succ_ne_zero n), Option.map_some, Int64.ofNat_add, ← Int64.add_assoc]
  exact congrArg some (Int64.add_sub_cancel _ 1).symm

/-- The largest id is then that of the last new row. -/
theorem lastId?_grown (h : Takes E columns t rows rs) (hne : rows ≠ []) :
    (t.grown rs).lastId? = some (t.nextId + Int64.ofNat rows.length - 1) := by
  have hlast := h.getLast?_ids hne
  obtain ⟨r, hr, -⟩ := Option.map_eq_some_iff.mp hlast
  rw [lastId?, Table.grown, List.getLast?_append, hr, Option.some_or, ← hr]
  exact hlast

end Takes

/-- After new rows the table numbers its rows as before, and has room for others. -/
theorem Keyed.taken (h : t.Keyed k) (hroom : t.Spacious (rows.length + count))
    (htakes : Takes E columns t rows rs) :
    (t.grown rs).Keyed k ∧ (t.grown rs).Spacious count ∧
      (t.grown rs).nextId = t.nextId + Int64.ofNat rows.length := by
  induction htakes with
  | nil t =>
      rw [grown_nil]
      exact ⟨h, hroom.mono (Nat.le_add_left _ _), (Int64.add_zero _).symm⟩
  | @cons t cells rows r rs hid hstores _ ih =>
      have hmoreroom : t.Spacious (rows.length + count + 1) :=
        hroom.mono (by rw [List.length_cons]; omega)
      obtain ⟨hkeyed, hleft⟩ := h.grown hmoreroom hid (hstores.shown k h.key)
      obtain ⟨hgrown, hspace, hnext⟩ := ih hkeyed hleft
      rw [nextId_grown, hid] at hnext
      rw [grown_grown, List.singleton_append] at hgrown hspace hnext
      refine ⟨hgrown, hspace, hnext.trans ?_⟩
      rw [List.length_cons, Int64.add_assoc, Int64.add_comm 1, Int64.ofNat_add]
      rfl

end Table

/-- In a database the rows stand behind those of a table, and the counters show how many they are
and the last of their ids. -/
structure Grows (E : Engine) (table : String) (t : Table) (columns : List String)
    (rows : List (List Cell)) (db : E.Database) (rs : List Record) : Prop where
  takes : Table.Takes E columns t rows rs
  table : E.table? (E.ledger db).contents table = some (t.grown rs)
  changes : E.changes db = rows.length
  lastId : rs.getLast?.map Record.id = some (E.lastId db)

/-- The engine numbers the rows of the table with a name, whenever the table is one that numbers its
rows: an insert that leaves the ids to it puts the rows behind the others, and the query for the
largest value of the key column brings back the id of the last row. -/
structure Numbers (E : Engine) (table : String) : Prop where
  inserted : ∀ {db₀ db db' : E.Database} {p : E.Program} {columns : List String}
    {rows : List (List Slot)} {t : Table} {k : Nat} {back : Option RowSet},
    E.compile db₀ (Batch.slotStatement table columns rows) = .ok (some p) → rows ≠ [] →
    (∀ row ∈ rows, row.length = columns.length) →
    E.table? (E.ledger db).contents table = some t → t.Keyed k →
    (∀ column ∈ columns, t.column? column ≠ some k) → t.Spacious rows.length →
    E.execute db p (rows.flatten.filterMap Slot.param?) = (.ok back, db') →
      back = none ∧ ∃ rs, E.Grows table t columns (rows.map (List.map Slot.value)) db' rs
  largest : ∀ {db db' : E.Database} {p : E.Program} {t : Table} {k : Nat} {back : Option RowSet},
    E.compile db (Session.maxIdStatement table) = .ok (some p) →
    E.table? (E.ledger db).contents table = some t → t.Keyed k → t.column? "id" = some k →
    E.execute db p [] = (.ok back, db') →
      (∃ label, back = some (.of [label] [[(t.lastId?.map Cell.int).getD .null]])) ∧
        E.table? (E.ledger db').contents table = some t

end SlotQuery.Engine
