import SlotQuery.Proofs.Engine.Failure
import SlotQuery.Proofs.Engine.Inserting

/-!
# The counter of the small engine

The small engine counts the rows that a statement changes: those which the statement gives, for an
insert, and those which its condition picks, for an update or a deletion
(`Statement.changed_of_apply`).  The counter keeps the newest count, since statements that change no
rows leave it alone (`small_counting`).
-/

namespace SlotQuery.Engine

/-- An update counts the rows that it picks. -/
theorem Table.count_of_updateRows {t t' : Table} {picks : Record → Bool}
    {changes : List (Nat × Cell)} {n : Nat} (h : t.updateRows picks changes = .ok (t', n)) :
    n = t.rows.countP picks := by
  unfold updateRows at h
  have hcount : n = 0 + t.rows.countP picks := countP_of_foldlM (by
    intro acc r acc' hstep
    dsimp only at hstep
    cases hpick : picks r with
    | false =>
        rw [hpick, if_pos (by decide)] at hstep
        cases hstep
        rfl
    | true =>
        rw [hpick, if_neg (by decide)] at hstep
        obtain ⟨changed, -, hrest⟩ := exists_of_bind_eq_ok hstep
        split at hrest
        · cases hrest
        · cases hrest
          rfl) h
  rw [hcount, Nat.zero_add]

/-- A statement counts the rows that it changes, if it is one that does so. -/
theorem Statement.changed_of_apply {statement : Statement} {ts : Tables} {params : List Cell}
    {effect : Effect} (h : statement.apply ts params = .ok effect) :
    effect.changed =
      if statement.changesRows then some (statement.concerned ts params) else none := by
  cases statement with
  | insert table columns rows returning =>
      obtain ⟨t, -, hrest⟩ := exists_of_bind_eq_ok h
      obtain ⟨pair, hadded, hpure⟩ := exists_of_bind_eq_ok hrest
      cases hpure
      exact congrArg some ((Table.length_of_insertAll hadded).trans (List.length_map _))
  | update table changes condition =>
      obtain ⟨t, htarget, hrest⟩ := exists_of_bind_eq_ok h
      obtain ⟨pair, hupdated, hpure⟩ := exists_of_bind_eq_ok hrest
      cases hpure
      rw [concerned, find?_of_target htarget]
      exact congrArg some (Table.count_of_updateRows hupdated)
  | delete table condition =>
      obtain ⟨t, htarget, hpure⟩ := exists_of_bind_eq_ok h
      rw [List.partition_eq_filter_filter] at hpure
      cases hpure
      rw [concerned, find?_of_target htarget]
      exact congrArg some List.countP_eq_length_filter.symm
  | create table columns =>
      rw [apply] at h
      split at h
      · cases h
      · cases h
        rfl
  | select what table condition order =>
      obtain ⟨t, -, hpure⟩ := exists_of_bind_eq_ok h
      cases hpure
      rfl
  | values | begin | commit | rollback | savepoint | rollbackTo =>
      cases h
      rfl

/-- A step with a transaction changes no rows. -/
theorem Statement.changesRows_of_step {statement : Statement} {step : Step}
    (h : statement.step? = some step) : statement.changesRows = false := by
  cases statement with
  | begin | commit | rollback | savepoint | rollbackTo => rfl
  | _ => cases h

/-- Taking a step leaves the counter alone. -/
theorem Store.changes_take (s : Store) (step : Step) : (s.take step).2.changes = s.changes := by
  unfold take
  split
  · rfl
  · rfl

/-- The counter of the small engine shows how many rows the newest statement has changed that is one
to change rows. -/
theorem small_counting : small.Counting where
  done {db db' p params rows} h := by
    have hexecute : Store.execute db p.1 params = (.ok rows, db') := h
    show db'.changes =
      if p.1.changesRows then p.1.concerned db.ledger.contents params else db.changes
    cases hstep : p.1.step? with
    | some step =>
        rw [Store.execute_step hstep] at hexecute
        rw [Statement.changesRows_of_step hstep, if_neg Bool.false_ne_true,
          ← Store.changes_take db step, hexecute]
    | none =>
        rw [Store.execute_of_no_step hstep, Store.change] at hexecute
        cases happly : p.1.apply db.ledger.contents params with
        | error e =>
            rw [happly] at hexecute
            cases hexecute
        | ok effect =>
            rw [happly] at hexecute
            obtain ⟨-, rfl⟩ := Prod.mk.inj hexecute
            show effect.changed.getD db.changes = _
            rw [Statement.changed_of_apply happly]
            split
            · rfl
            · rfl
  failed {db db' p params e} h hwrites := by
    have hexecute : Store.execute db p.1 params = (.error e, db') := h
    have hkeeps : p.1.changesRows = false := hwrites
    show db'.changes = db.changes
    cases hstep : p.1.step? with
    | some step =>
        rw [Store.execute_step hstep] at hexecute
        rw [← Store.changes_take db step, hexecute]
    | none =>
        rw [Store.execute_of_no_step hstep, Store.change, hkeeps] at hexecute
        cases happly : p.1.apply db.ledger.contents params with
        | ok effect =>
            rw [happly] at hexecute
            cases hexecute
        | error e' =>
            rw [happly] at hexecute
            obtain ⟨-, rfl⟩ := Prod.mk.inj hexecute
            rfl
  known {db sql p} hinsert hcompile := by
    obtain ⟨rest, hread⟩ := Store.read_of_compile hcompile
    exact (Statement.isInsert_of_read hinsert hread).changesRows

end SlotQuery.Engine
