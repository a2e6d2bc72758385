import SlotQuery.Proofs.Batch.Keyword
import SlotQuery.Proofs.Batch.Loaded
import SlotQuery.Proofs.Driver.Executed
import SlotQuery.Proofs.Engine.Numbering

/-!
# How a table behind a connection grows

An embedded connection holds a table that numbers its rows (`Embedded.HasTable`,
`Engine.Table.Keyed`).  A statement for a batch that succeeds puts the rows of the batch behind the
others, and the counters of the connection then show how many they are and which id the first of
them has (`attains_insert`).  A staged file that is loaded does the same to the table, line by line
(`attains_loaded`), and the query for the largest id brings back the id of the last row
(`attains_max`).  No reckoning of ids leaves the 64 bits in this.
-/

namespace SlotQuery

open Engine (Table Record)
open Number

variable {E : Engine}

namespace Embedded

/-- The connection is open, and this is its table with the name; `flag` tells whether a reckoning of
ids has left the 64 bits. -/
def HasTable (name : String) (t : Table) (flag : Bool) (e : Embedded E) : Prop :=
  ∃ db, e.At db flag ∧ E.table? (E.ledger db).contents name = some t

end Embedded

namespace Batch

open Embedded (lineCells insertLines)

variable {file : Load} {t : Table} {k : Nat} {db db' : E.Database} {p : E.Program}

/-- Every line has a field. -/
theorem fields_ne_nil (terminator : Char) (line : List Char) : fields terminator line ≠ [] := by
  induction line with
  | nil => exact List.cons_ne_nil _ _
  | cons c line ih =>
      rw [fields]
      split
      · exact List.cons_ne_nil _ _
      · split <;> exact List.cons_ne_nil _ _

/-- A line that is inserted stands behind the others.  The statement may have been compiled some
lines before. -/
theorem line_takes (hE : E.Numbers file.table) {db₀ : E.Database}
    (hcompile : E.compile db₀ (Embedded.lineStatement file) = .ok (some p)) {line : List Char}
    (hwidth : (lineCells file line).length = file.columns.length) {back : Option RowSet}
    (h : E.execute db p (lineCells file line) = (.ok back, db'))
    (htable : E.table? (E.ledger db).contents file.table = some t) (hkeyed : t.Keyed k)
    (hfree : ∀ column ∈ file.columns, t.column? column ≠ some k) (hroom : t.Spacious 1) :
    ∃ rs, Table.Takes E file.columns t [lineCells file line] rs ∧
      E.table? (E.ledger db').contents file.table = some (t.grown rs) := by
  let row : List Slot := (lineCells file line).map .bound
  have hparams : [row].flatten.filterMap Slot.param? = lineCells file line := by
    rw [List.flatten_singleton, List.filterMap_map]
    exact List.filterMap_some
  have hvalues : [row].map (List.map Slot.value) = [lineCells file line] := by
    rw [List.map_singleton, List.map_map]
    exact congrArg (fun cells => [cells]) (List.map_id _)
  have heven : ∀ r ∈ [row], r.length = file.columns.length := by
    intro r hr
    rw [List.mem_singleton.mp hr, List.length_map, hwidth]
  rw [lineStatement_eq (lineCells file line) hwidth] at hcompile
  rw [← hparams] at h
  obtain ⟨-, rs, hgrows⟩ :=
    hE.inserted hcompile (List.cons_ne_nil _ _) heven htable hkeyed hfree hroom h
  have htakes := hgrows.takes
  rw [hvalues] at htakes
  exact ⟨rs, htakes, hgrows.table⟩

/-- Lines are inserted behind the others, up to the last one.  The statement was compiled before the
first of them. -/
theorem insertLines_takes (hE : E.Numbers file.table) {db₀ : E.Database}
    (hcompile : E.compile db₀ (Embedded.lineStatement file) = .ok (some p))
    {lines : List (List Char)} {count total : Nat} {first last : Option Int64}
    (h : insertLines file p count first lines db = (.ok (total, last), db'))
    (htable : E.table? (E.ledger db).contents file.table = some t) (hkeyed : t.Keyed k)
    (hfree : ∀ column ∈ file.columns, t.column? column ≠ some k) (hroom : t.Spacious lines.length) :
    ∃ rs, Table.Takes E file.columns t (lines.map (lineCells file)) rs ∧
      E.table? (E.ledger db').contents file.table = some (t.grown rs) ∧
      ∀ line ∈ lines, (lineCells file line).length = file.columns.length := by
  induction lines generalizing count first db t with
  | nil =>
      cases h
      exact ⟨[], .nil t, by rw [Table.grown_nil]; exact htable, List.forall_mem_nil _⟩
  | cons line lines ih =>
      rw [insertLines] at h
      split at h
      · cases h
      · next hwidth =>
          have hwidth : (lineCells file line).length = file.columns.length := not_not.mp hwidth
          have hspace : t.Spacious ([lineCells file line].length + lines.length) := by
            rw [List.length_singleton, Nat.add_comm]
            exact hroom
          split at h
          · cases h
          · next back next hexecute =>
              obtain ⟨rs, htaken, hbefore⟩ := line_takes hE hcompile hwidth hexecute htable hkeyed
                hfree (hspace.mono (Nat.le_add_right _ _))
              obtain ⟨hgrown, hleft, -⟩ := hkeyed.taken hspace htaken
              obtain ⟨more, hmore, htable', hlines⟩ := ih h hbefore hgrown hfree hleft
              cases htaken with
              | @cons _ _ _ r _ hid hstores hnone =>
                  cases hnone
                  rw [Table.grown_grown, List.singleton_append] at htable'
                  exact ⟨r :: more, .cons hid hstores hmore, htable',
                    List.forall_mem_cons.mpr ⟨hwidth, hlines⟩⟩

/-- A staged file that is loaded puts its rows behind the others. -/
theorem load_takes (hE : E.Numbers file.table) {e : Embedded E} {flag : Bool}
    (h : e.HasTable file.table t flag)
    {count : Nat} (hok : (e.load file).1 = .ok count) (hkeyed : t.Keyed k)
    (hfree : ∀ column ∈ file.columns, t.column? column ≠ some k)
    (hroom : t.Spacious (storedRows file).length) :
    ∃ rs, Table.Takes E file.columns t (storedRows file) rs ∧
      (e.load file).2.HasTable file.table (t.grown rs) flag ∧
      (lines file.contents ≠ [] → file.columns ≠ []) := by
  obtain ⟨db, ⟨hstore, hflag⟩, htable⟩ := h
  obtain ⟨db₁, p, first, db', hstore', hcompile, hlines, hloaded⟩ := exists_of_load hok
  obtain rfl : db = db₁ := Option.some.inj (hstore.symm.trans hstore')
  obtain ⟨rs, htakes, htable', hwidths⟩ := insertLines_takes hE hcompile hlines htable hkeyed hfree
    (by rwa [storedRows, List.length_map] at hroom)
  rw [hloaded]
  refine ⟨rs, htakes, ⟨db', ⟨rfl, hflag⟩, htable'⟩, fun hne hnone => ?_⟩
  obtain ⟨line, hline⟩ := List.exists_mem_of_ne_nil _ hne
  have hwidth := hwidths line hline
  rw [hnone, List.length_nil, Embedded.lineCells, List.length_map] at hwidth
  exact fields_ne_nil _ _ (List.length_eq_zero_iff.mp hwidth)

end Batch

/-- The query for the largest id is not taken for an insert. -/
theorem Session.isInsert_maxIdStatement (table : String) :
    Batch.isInsert (maxIdStatement table) = false := by
  have hword : "SELECT MAX(".toList = 'S' :: 'E' :: "LECT MAX(".toList := by decide
  rw [maxIdStatement, String.append_assoc, String.append_assoc]
  exact Batch.isInsert_of_word hword (by decide) (by decide) (by decide) _

namespace Bench

open Driver (Attains)
open Embedded (At HasTable)

variable {c : ConnId} {t : Table} {k : Nat} {table : String} {columns : List String}
variable {rows : List (List Cell)} {flag : Bool}

/-- What an action attains from an open connection it attains from one with the table. -/
theorem attains_of_at {α ε : Type} {m : StateM (Wire (Bench E)) (Except ε α)}
    {Q : α → Bench E → Prop}
    (h : ∀ before : E.Database, E.table? (E.ledger before).contents table = some t →
      Attains (Has c (At before flag)) Q m) :
    Attains (Has c (HasTable table t flag)) Q m := by
  rintro w ⟨e, he, db, hat, htable⟩
  exact h db htable w ⟨e, he, hat⟩

/-- The rows of a batch stand behind the others, and the counters show them. -/
structure Counted (t t' : Table) (table : String) (count : Nat) (e : Embedded E) : Prop where
  table : e.HasTable table t' false
  affected : e.affected = count
  firstId : e.lastInsertId = t.nextId

/-- An insert of rows that was executed, as the connection shows it. -/
theorem counted_of_shown (hE : E.Numbers table) {before : E.Database} {slots : List (List Slot)}
    (x : Embedded.Execution before (Batch.slotStatement table columns slots)
      (slots.flatten.filterMap Slot.param?)) {e : Embedded E} (h : x.Shown false e)
    (hslots : slots ≠ []) (heven : ∀ row ∈ slots, row.length = columns.length)
    (hinsert : Batch.isInsert (Batch.slotStatement table columns slots) = true)
    (htable : E.table? (E.ledger before).contents table = some t) (hkeyed : t.Keyed k)
    (hfree : ∀ column ∈ columns, t.column? column ≠ some k) (hroom : t.Spacious slots.length) :
    x.reply = .done true ∧ ∃ rs,
      Table.Takes E columns t (slots.map (List.map Slot.value)) rs ∧
        Counted t (t.grown rs) table slots.length e := by
  obtain ⟨hback, rs, hgrows⟩ :=
    hE.inserted x.compiled hslots heven htable hkeyed hfree hroom x.executed
  have hpos : 0 < slots.length := List.length_pos_iff.mpr hslots
  have hend := hkeyed.nextId_add_le hroom
  have hsmall := Int.le_of_lt hroom.1
  have hcount : x.affected = slots.length := by
    unfold Embedded.Execution.affected
    rw [hback]
    exact hgrows.changes.trans (List.length_map _)
  have hreply : x.reply = .done true := by
    unfold Embedded.Execution.reply
    rw [hback]
    rfl
  have hlastId : E.lastId x.after = t.nextId + Int64.ofNat slots.length - 1 := by
    have hlast := hgrows.takes.getLast?_ids fun h => hslots (List.map_eq_nil_iff.mp h)
    rw [List.length_map, hgrows.lastId] at hlast
    exact Option.some.inj hlast
  have hwithin : x.beyond = false := by
    have hlow := hkeyed.minValue_lt_nextId (hroom.mono (Nat.zero_le _))
    have hhigh := t.nextId.toInt_le
    have hmin := toInt_minValue
    have hmax := toInt_maxValue
    refine decide_eq_false fun hbeyond => hbeyond.2 ?_
    rw [hlastId, hcount, toInt_add_ofNat_sub_one hpos hend, toInt_saturated_of_le hsmall, FitsInt64]
    omega
  refine ⟨hreply, rs, hgrows.takes, ⟨x.after, ⟨h.store, ?_⟩, hgrows.table⟩,
    h.affected.trans hcount, ?_⟩
  · rw [h.overflowed, hwithin]
    rfl
  · rw [h.firstId hinsert (hcount ▸ hpos), hlastId, hcount, saturated_of_le hsmall, Int64.sub_sub,
      Int64.add_comm 1, ← Int64.sub_sub, Int64.add_sub_cancel, Int64.sub_add_cancel]

/-- The statement for a batch, where it succeeds. -/
theorem attains_insert (hE : E.Numbers table) (charset : String) (hrows : rows ≠ [])
    (heven : ∀ row ∈ rows, row.length = columns.length) (hkeyed : t.Keyed k)
    (hfree : ∀ column ∈ columns, t.column? column ≠ some k) (hroom : t.Spacious rows.length) :
    Attains (Has (E := E) c (HasTable table t false))
      (fun reply b => (∃ ok, reply = .done ok) ∧ ∃ rs,
        Table.Takes E columns t (rows.map (List.map fun cell => (Batch.slot cell).value)) rs ∧
          b.Has c (Counted t (t.grown rs) table rows.length))
      (Session.performUnder driver charset c
        ⟨Batch.skeleton table columns (rows.map (List.map Batch.mark)),
          rows.flatten.filterMap Batch.param?⟩) := by
  have hinsert := Batch.isInsert_skeleton table columns (rows.map (List.map Batch.mark))
  rw [Batch.skeleton_eq_slotStatement] at hinsert
  refine attains_of_at fun before htable => ?_
  refine (attains_performUnder charset _).mono fun reply b hreplied => ?_
  dsimp only at hreplied
  rw [Batch.params_eq, Batch.skeleton_eq_slotStatement] at hreplied
  obtain ⟨x, ⟨e, he, hshown⟩, hpasses⟩ := hreplied
  have hslots : rows.map (List.map Batch.slot) ≠ [] := fun h => hrows (List.map_eq_nil_iff.mp h)
  have hwidth : ∀ row ∈ rows.map (List.map Batch.slot), row.length = columns.length := by
    intro row hrow
    obtain ⟨cells, hcells, rfl⟩ := List.mem_map.mp hrow
    rw [List.length_map]
    exact heven cells hcells
  obtain ⟨hreply, rs, htakes, hcounted⟩ := counted_of_shown hE x hshown hslots hwidth hinsert
    htable hkeyed hfree (by rwa [List.length_map])
  rw [hreply] at hpasses
  have hvalues : (List.map Slot.value) ∘ (List.map Batch.slot) =
      List.map fun cell => (Batch.slot cell).value := funext fun row => List.map_map
  rw [List.map_map, hvalues] at htakes
  rw [List.length_map] at hcounted
  exact ⟨by cases hpasses <;> exact ⟨_, rfl⟩, rs, htakes, e, he, hcounted⟩

/-- A staged file, where it is loaded. -/
theorem attains_loaded (hfileless : E.Fileless) {file : Batch.Load} (hE : E.Numbers file.table)
    (hkeyed : t.Keyed k) (hfree : ∀ column ∈ file.columns, t.column? column ≠ some k)
    (hroom : t.Spacious (Batch.storedRows file).length) :
    Attains (Has (E := E) c (HasTable file.table t flag))
      (fun _ b => ∃ rs, Table.Takes E file.columns t (Batch.storedRows file) rs ∧
        b.Has c (HasTable file.table (t.grown rs) flag) ∧
        (Batch.lines file.contents ≠ [] → file.columns ≠ []))
      (driver.load c file) := by
  refine attains_of_at fun before htable => ?_
  have hloaded : Attains (Has (E := E) c (At before flag)) (fun _ => Has c fun e =>
      ∃ rs, Table.Takes E file.columns t (Batch.storedRows file) rs ∧
        e.HasTable file.table (t.grown rs) flag ∧
        (Batch.lines file.contents ≠ [] → file.columns ≠ [])) (driver.load c file) :=
    attains_load hfileless fun e count hat hok =>
      Batch.load_takes hE ⟨before, hat, htable⟩ hok hkeyed hfree hroom
  refine hloaded.mono ?_
  rintro count b ⟨e, he, rs, htakes, htable', hcolumns⟩
  exact ⟨rs, htakes, ⟨e, he, htable'⟩, hcolumns⟩

/-- The query for the largest id brings back the id of the last row. -/
theorem attains_max (hE : E.Numbers table) (charset : String) (hkeyed : t.Keyed k)
    (hid : t.column? "id" = some k) :
    Attains (Has (E := E) c (HasTable table t false))
      (fun reply b => b.Has c (HasTable table t false) ∧ ∃ label : String,
        reply = .rows (.of [label] [[(t.lastId?.map Cell.int).getD .null]]))
      (Session.performUnder driver charset c ⟨Session.maxIdStatement table, []⟩) := by
  refine attains_of_at fun before htable => ?_
  refine (attains_performUnder charset _).mono fun reply b hreplied => ?_
  obtain ⟨x, ⟨e, he, hshown⟩, hpasses⟩ := hreplied
  obtain ⟨⟨label, hback⟩, htable'⟩ := hE.largest x.compiled htable hkeyed hid x.executed
  have hreply : x.reply = .rows (.of [label] [[(t.lastId?.map Cell.int).getD .null]]) := by
    unfold Embedded.Execution.reply
    rw [hback]
    rfl
  have hwithin : x.beyond = false := by
    refine decide_eq_false fun hbeyond => ?_
    rw [Session.isInsert_maxIdStatement] at hbeyond
    exact Bool.false_ne_true hbeyond.1.1
  refine ⟨⟨e, he, x.after, ⟨hshown.store, ?_⟩, htable'⟩, label, ?_⟩
  · rw [hshown.overflowed, hwithin]
    rfl
  · rw [hreply] at hpasses
    cases hpasses
    rfl

end Bench

end SlotQuery
