import Mathlib.Data.List.Induction
import SlotQuery.Proofs.Engine.Numbering
import SlotQuery.Proofs.Engine.Store

/-!
# How the small engine numbers rows

A row that comes without an id gets the one after the largest and stands behind all others
(`Table.insert_keyed`); any number of such rows are taken one by one (`Table.insertAll_takes`).  So
an insert puts them behind the others (`Store.execute_insert`), and the largest value of the key
column is the id of the last row (`Store.execute_max`).
-/

namespace SlotQuery.Engine

/-- The record of a row under an id, which a key column shows. -/
def Record.under (key : Option Nat) (i : Int64) (cells : List Cell) : Record where
  id := i
  cells :=
    match key with
    | some k => cells.set k (.int i)
    | none => cells

namespace Table

variable {t : Table} {k : Nat} {cells : List Cell} {columns : List String}

/-- A row whose id is larger than all others goes to the end. -/
theorem insertSorted_of_lt {r : Record} {rs : List Record} (h : ∀ s ∈ rs, s.id < r.id) :
    insertSorted r rs = rs ++ [r] := by
  induction rs with
  | nil => rfl
  | cons s rs ih =>
      obtain ⟨hs, hrs⟩ := List.forall_mem_cons.mp h
      have hnot : ¬ r.id < s.id := by
        rw [Int64.lt_iff_toInt_lt] at hs ⊢
        omega
      rw [insertSorted, if_neg hnot, ih hrs, List.cons_append]

/-- A row without an id stands behind all others, under the next id. -/
theorem insert_keyed (h : t.Keyed k) (hroom : t.Spacious 1) (hcell : cells[k]? = some .null) :
    t.insert cells =
      .ok (t.grown [.under t.key t.nextId cells], .under t.key t.nextId cells) := by
  have hbelow := h.lt_nextId hroom
  have hfresh : t.hasId t.nextId = false := by
    refine List.any_eq_false.mpr fun r hr hsame => ?_
    have hlt := Int64.lt_iff_toInt_lt.mp (hbelow r hr)
    rw [of_decide_eq_true hsame] at hlt
    omega
  have hsorted : insertSorted (.under t.key t.nextId cells) t.rows = _ :=
    insertSorted_of_lt (r := .under t.key t.nextId cells) hbelow
  have hadd : t.add t.nextId cells =
      .ok (t.grown [.under t.key t.nextId cells], .under t.key t.nextId cells) := by
    unfold add
    rw [hfresh, if_neg Bool.false_ne_true]
    show Except.ok ({ t with rows := insertSorted (.under t.key t.nextId cells) t.rows }, _) = _
    rw [hsorted]
    rfl
  unfold insert
  rw [h.key, Option.bind_some, hcell]
  rw [h.key] at hadd
  exact hadd

/-- The cells that a row gives to columns of the table, with their positions. -/
def placedCells (t : Table) (columns : List String) (cells : List Cell) : List (Nat × Cell) :=
  (columns.zip cells).filterMap fun (n, c) => (t.column? n).map fun k => (k, c)

/-- The cells of a row in the order of the table's columns, with null where it gives none. -/
def placed (t : Table) (columns : List String) (cells : List Cell) : List Cell :=
  (List.range t.columns.length).map (Statement.cellAt t (t.placedCells columns cells))

/-- A row is filled up from its columns by their names. -/
theorem fullRow_eq_placed (t : Table) (names : List Name) (cells : List Cell) :
    Statement.fullRow t names cells = t.placed (names.map Name.text) cells := by
  unfold Statement.fullRow placed placedCells
  rw [List.zip_map_left, List.filterMap_map]
  rfl

/-- A cell is given to a column if it stands beside one of its names. -/
theorem mem_placedCells {c : Cell} :
    (k, c) ∈ t.placedCells columns cells ↔
      ∃ name, (name, c) ∈ columns.zip cells ∧ t.column? name = some k := by
  rw [placedCells, List.mem_filterMap]
  constructor
  · rintro ⟨⟨name, c'⟩, hmem, hsome⟩
    obtain ⟨j, hj, hpair⟩ := Option.map_eq_some_iff.mp hsome
    obtain ⟨rfl, rfl⟩ := Prod.mk.inj hpair
    exact ⟨name, hmem, hj⟩
  · rintro ⟨name, hmem, hk⟩
    exact ⟨(name, c), hmem, Option.map_eq_some_iff.mpr ⟨k, hk, rfl⟩⟩

/-- A column that is found is one of the table. -/
theorem column?_lt {name : String} (hkey : ∀ j ∈ t.key, j < t.columns.length)
    (h : t.column? name = some k) : k < t.columns.length := by
  unfold column? at h
  cases hfound : t.columns.findIdx? fun c => sameName c name with
  | some j =>
      rw [hfound] at h
      obtain rfl := Option.some.inj h
      exact (List.findIdx?_eq_some_iff_findIdx_eq.mp hfound).1
  | none =>
      rw [hfound] at h
      dsimp only at h
      split at h
      · exact hkey k h
      · cases h

/-- The cell of a column is one of those that the row gives it, if there are any. -/
theorem cellAt_of_given {given : List (Nat × Cell)}
    (h : given.filter (fun g => g.1 = k) ≠ []) : (k, Statement.cellAt t given k) ∈ given := by
  have hfront : ∀ g ∈ given.filter (fun g => g.1 = k), (k, g.2) ∈ given := by
    intro g hg
    obtain ⟨hmem, hk⟩ := List.mem_filter.mp hg
    rwa [← of_decide_eq_true hk]
  unfold Statement.cellAt
  dsimp only
  split
  · rw [List.getLast?_map, List.getLast?_eq_getLast_of_ne_nil h]
    exact hfront _ (List.getLast_mem h)
  · rw [List.head?_map, List.head?_eq_some_head h]
    exact hfront _ (List.head_mem h)

/-- A row that does not name the key has null in the key column. -/
theorem placed_key (hk : k < t.columns.length) (hfree : ∀ n ∈ columns, t.column? n ≠ some k)
    (cells : List Cell) : (t.placed columns cells)[k]? = some .null := by
  have hnone : (t.placedCells columns cells).filter (fun g => g.1 = k) = [] := by
    refine List.filter_eq_nil_iff.mpr fun g hg hgk => ?_
    obtain ⟨name, hmem, hname⟩ := mem_placedCells.mp hg
    exact hfree name (List.of_mem_zip hmem).1 (hname.trans (congrArg some (of_decide_eq_true hgk)))
  unfold placed
  rw [List.getElem?_map, List.getElem?_range hk, Option.map_some, Statement.cellAt, hnone]
  split
  · rfl
  · rfl

/-- The record of a row has what the row gives. -/
theorem stores_under (h : t.Keyed k) (hfree : ∀ n ∈ columns, t.column? n ≠ some k)
    (heven : cells.length = columns.length) (i : Int64) :
    (Record.under t.key i (t.placed columns cells)).Stores small t columns cells := by
  have hwidth : (t.placed columns cells).length = t.columns.length := by
    rw [placed, List.length_map, List.length_range]
  refine ⟨fun j hj => ?_, fun column hcolumn j hj => ?_⟩
  · obtain rfl : k = j := Option.some.inj (h.key.symm.trans hj)
    rw [hj]
    exact List.getElem?_set_self (hwidth ▸ h.inside)
  · have hother : k ≠ j := by
      rintro rfl
      exact hfree column hcolumn hj
    have hinside : j < t.columns.length :=
      column?_lt (fun i hi => by cases h.key.symm.trans hi; exact h.inside) hj
    obtain ⟨⟨_, cell⟩, hgiven, rfl⟩ : ∃ given ∈ columns.zip cells, given.1 = column := by
      rw [← List.map_fst_zip (Nat.le_of_eq heven.symm)] at hcolumn
      exact List.mem_map.mp hcolumn
    have hsome : (t.placedCells columns cells).filter (fun g => g.1 = j) ≠ [] :=
      List.ne_nil_of_mem (List.mem_filter.mpr
        ⟨mem_placedCells.mpr ⟨_, hgiven, hj⟩, decide_eq_true rfl⟩)
    obtain ⟨name, hmem, hname⟩ := mem_placedCells.mp (cellAt_of_given (t := t) hsome)
    refine ⟨name, _, _, hmem, hname, ?_, rfl⟩
    show (Record.under t.key i (t.placed columns cells)).cells[j]? = _
    rw [h.key]
    show ((t.placed columns cells).set k (.int i))[j]? = _
    rw [List.getElem?_set_ne hother, placed, List.getElem?_map, List.getElem?_range hinside]
    rfl

/-- Rows without ids become records one by one. -/
theorem insertAll_takes {rows : List (List Cell)} (h : t.Keyed k)
    (hfree : ∀ n ∈ columns, t.column? n ≠ some k) (hroom : t.Spacious rows.length)
    (heven : ∀ cells ∈ rows, cells.length = columns.length) :
    ∃ rs, t.insertAll (rows.map (t.placed columns)) = .ok (t.grown rs, rs) ∧
      Takes small columns t rows rs := by
  induction rows generalizing t with
  | nil => exact ⟨[], by rw [grown_nil]; rfl, .nil t⟩
  | cons cells rows ih =>
      obtain ⟨hcells, hmore⟩ := List.forall_mem_cons.mp heven
      have hone : t.Spacious 1 := hroom.mono (by rw [List.length_cons]; omega)
      let r : Record := .under t.key t.nextId (t.placed columns cells)
      have hinsert : t.insert (t.placed columns cells) = .ok (t.grown [r], r) :=
        insert_keyed h hone (placed_key h.inside hfree cells)
      have hstores : r.Stores small t columns cells := stores_under h hfree hcells t.nextId
      obtain ⟨hkeyed, hleft⟩ := h.grown (r := r) hroom rfl (hstores.shown k h.key)
      obtain ⟨rs, hrest, htakes⟩ := ih hkeyed hfree hleft hmore
      rw [grown_grown] at hrest
      refine ⟨r :: rs, ?_, .cons rfl hstores htakes⟩
      rw [List.map_cons, insertAll, hinsert]
      show ((t.grown [r]).insertAll (rows.map ((t.grown [r]).placed columns)) >>= fun p =>
        pure (p.1, _ :: p.2)) = _
      rw [hrest]
      rfl

/-- The largest of the ids that the rows show is the last one. -/
theorem foldl_larger_of_keyed (h : t.Keyed k) :
    (t.rows.map fun r => r.cells[k]?.getD .null).foldl Statement.larger .null =
      (t.lastId?.map Cell.int).getD .null := by
  have hshown : t.rows.map (fun r => r.cells[k]?.getD .null) = t.rows.map fun r => .int r.id :=
    List.map_congr_left fun r hr => by rw [h.shown r hr]; rfl
  have hordered := h.ordered
  rw [hshown, lastId?]
  generalize t.rows = rs at hordered
  induction rs using List.reverseRecOn with
  | nil => rfl
  | append_singleton front last ih =>
      obtain ⟨hfront, -, hlast⟩ := List.pairwise_append.mp hordered
      rw [List.map_append, List.foldl_append, ih hfront, List.getLast?_concat]
      -- The last one is compared with the one before it, if there is one.
      rcases hbefore : front.getLast? with _ | r
      · rfl
      · have hr : r.id < last.id :=
          hlast r (List.mem_of_getLast? hbefore) last (List.mem_singleton_self last)
        show Statement.larger (.int r.id) (.int last.id) = _
        rw [Statement.larger, if_pos hr]
        rfl

end Table

/-- A table that was put in the place of another is found under the names of that one. -/
theorem Tables.find?_replace {ts : Tables} {name : String} {t t' : Table}
    (h : ts.find? name = some t) (hname : t'.name = t.name) :
    (ts.replace t').find? name = some t' := by
  induction ts with
  | nil => cases h
  | cons u ts ih =>
      rw [find?, List.find?_cons] at h
      rw [replace]
      cases hu : sameName u.name name with
      | true =>
          rw [hu] at h
          obtain rfl := Option.some.inj h
          rw [if_pos hname.symm, find?, List.find?_cons, hname, hu]
      | false =>
          rw [hu] at h
          have hother : u.name ≠ t'.name := by
            intro hsame
            have hfound : sameName t.name name = true :=
              List.find?_some (p := fun t : Table => sameName t.name name) h
            rw [← hname, ← hsame, hu] at hfound
            cases hfound
          rw [if_neg hother, find?, List.find?_cons, hu]
          exact ih h

namespace Store

variable {s : Store} {t : Table} {k : Nat}

/-- The store after records were put behind those of a table. -/
def taking (s : Store) (t : Table) (added : List Record) : Store where
  ledger := { s.ledger with contents := s.ledger.contents.replace (t.grown added) }
  changes := added.length
  lastId := (added.getLast?.map Record.id).getD s.lastId

/-- An insert of rows without ids puts them behind the others. -/
theorem execute_insert {table : Name} {names : List Name} {columns : List String}
    {params : List Cell} {items : List (List Item)} {rows : List (List Cell)}
    (htable : s.ledger.contents.find? table.text = some t) (hnames : names.map Name.text = columns)
    (hrows : items.map (List.map (Statement.itemCell params)) = rows)
    (hkeyed : t.Keyed k) (hfree : ∀ n ∈ columns, t.column? n ≠ some k)
    (hroom : t.Spacious rows.length) (heven : ∀ cells ∈ rows, cells.length = columns.length) :
    ∃ rs, s.execute (.insert table names items []) params = (.ok none, s.taking t rs) ∧
      Table.Takes small columns t rows rs := by
  obtain ⟨rs, hadded, htakes⟩ := Table.insertAll_takes hkeyed hfree hroom heven
  have hcells : (items.map fun row =>
      Statement.fullRow t names (row.map (Statement.itemCell params))) =
      rows.map (t.placed columns) := by
    rw [← hrows, List.map_map, ← hnames]
    exact List.map_congr_left fun row _ => Table.fullRow_eq_placed t names _
  have htarget : Statement.target s.ledger.contents table = .ok t := by
    rw [Statement.target, htable]
  have happly : Statement.apply s.ledger.contents params (.insert table names items []) =
      .ok ⟨s.ledger.contents.replace (t.grown rs), none, some rs.length,
        rs.getLast?.map Record.id⟩ := by
    unfold Statement.apply
    dsimp only
    rw [htarget]
    show t.insertAll (items.map fun row =>
      Statement.fullRow t names (row.map (Statement.itemCell params))) >>= _ = _
    rw [hcells, hadded]
    rfl
  refine ⟨rs, ?_, htakes⟩
  rw [execute_of_no_step rfl, change, happly]
  rfl

/-- The query for the largest value of the key column brings back the last id. -/
theorem execute_max {table column : Name} {label : String} {order : Option Name}
    (htable : s.ledger.contents.find? table.text = some t) (hkeyed : t.Keyed k)
    (hcolumn : t.column? column.text = some k) (params : List Cell) :
    s.execute (.select [.max column label] table none order) params =
      (.ok (some (.of [label] [[(t.lastId?.map Cell.int).getD .null]])), s) := by
  have hall : t.rows.filter (Statement.picks t params none) = t.rows :=
    List.filter_eq_self.mpr fun _ _ => rfl
  have hanswer : Statement.answer t [.max column label] t.rows =
      .of [label] [[(t.lastId?.map Cell.int).getD .null]] := by
    have hmax : Statement.aggregate t t.rows (Statement.shownRow? [.max column label] t.rows)
        (.max column label) = [(label, (t.lastId?.map Cell.int).getD .null)] := by
      rw [Statement.aggregate, hcolumn, ← Table.foldl_larger_of_keyed hkeyed]
    have haggregate : [Selected.max column label].any Statement.isAggregate = true := rfl
    unfold Statement.answer
    rw [if_pos haggregate, List.flatMap_singleton, hmax]
    rfl
  have htarget : Statement.target s.ledger.contents table = .ok t := by
    rw [Statement.target, htable]
  have happly : Statement.apply s.ledger.contents params
      (.select [.max column label] table none order) =
        .ok ⟨s.ledger.contents, some (.of [label] [[(t.lastId?.map Cell.int).getD .null]]), none,
          none⟩ := by
    unfold Statement.apply
    dsimp only
    rw [htarget]
    show Except.ok _ = _
    rw [hall, hanswer]
  rw [execute_of_no_step rfl, change, happly]
  rfl

end Store

end SlotQuery.Engine
