import SlotQuery.Proofs.Engine.Store
import SlotQuery.Proofs.Outcome

/-!
# Statements of the small engine that change nothing

The small engine is as it was after a statement that failed (`small_careful`), and holds what it
held after one that brought back rows, but none at all (`small_returning`): an insert brings back a
row for each that it adds.
-/

namespace SlotQuery.Engine

/-- As many rows are added as there were to add. -/
theorem Table.length_of_insertAll {t t' : Table} {cells : List (List Cell)} {added : List Record}
    (h : t.insertAll cells = .ok (t', added)) : added.length = cells.length := by
  induction cells generalizing t t' added with
  | nil =>
      cases h
      rfl
  | cons row cells ih =>
      obtain ⟨first, -, hrest⟩ := exists_of_bind_eq_ok h
      obtain ⟨rest, hmore, hpure⟩ := exists_of_bind_eq_ok hrest
      cases hpure
      rw [List.length_cons, List.length_cons, ih hmore]

/-- The target of a statement is the table with its name. -/
theorem Statement.find?_of_target {ts : Tables} {n : Name} {t : Table}
    (h : target ts n = .ok t) : ts.find? n.text = some t := by
  unfold target at h
  cases hfind : ts.find? n.text with
  | none =>
      rw [hfind] at h
      cases h
  | some t' =>
      rw [hfind] at h
      rw [Except.ok.inj h]

theorem project_eq_nil {t : Table} {what : List Selected} {rs : List Record}
    (h : (Statement.project t what rs).rows = []) : rs = [] :=
  List.map_eq_nil_iff.mp (List.map_eq_nil_iff.mp h)

/-- Nothing is added where there are no rows to add. -/
theorem Table.eq_of_insertAll_nil {t t' : Table} {cells : List (List Cell)}
    (h : t.insertAll cells = .ok (t', [])) : t' = t := by
  obtain rfl := List.length_eq_zero_iff.mp (length_of_insertAll h).symm
  cases h
  rfl

/-- A table that is put in its own place changes nothing. -/
theorem Tables.replace_self {ts : Tables} {name : String} {t : Table}
    (h : ts.find? name = some t) : ts.replace t = ts := by
  induction ts with
  | nil => rfl
  | cons u ts ih =>
      have hfound : sameName t.name name = true :=
        List.find?_some (p := fun t : Table => sameName t.name name) h
      rw [find?, List.find?_cons] at h
      rw [replace]
      cases hu : sameName u.name name with
      | true =>
          rw [hu] at h
          rw [Option.some.inj h, if_pos rfl]
      | false =>
          rw [hu] at h
          have hother : u.name ≠ t.name := by
            intro hsame
            rw [hsame, hfound] at hu
            cases hu
          rw [if_neg hother, ih h]

/-- What brings back rows, but none at all, leaves the tables as they were. -/
theorem Statement.apply_of_no_rows {statement : Statement} {ts : Tables} {params : List Cell}
    {effect : Effect} (h : statement.apply ts params = .ok effect) {set : RowSet}
    (hset : effect.rows = some set) (hnone : set.rows = []) : effect.tables = ts := by
  unfold Statement.apply at h
  cases statement with
  | create table columns =>
      dsimp only at h
      split at h
      · cases h
      · cases h
        cases hset
  | insert table columns rows returning =>
      obtain ⟨t, htarget, hrest⟩ := exists_of_bind_eq_ok h
      obtain ⟨⟨t', added⟩, hadded, hpure⟩ := exists_of_bind_eq_ok hrest
      cases hpure
      dsimp only at hset
      split at hset
      · cases hset
      · obtain rfl := Option.some.inj hset
        obtain rfl : added = [] := project_eq_nil hnone
        obtain rfl := Table.eq_of_insertAll_nil hadded
        exact Tables.replace_self (Statement.find?_of_target htarget)
  | update table changes condition =>
      obtain ⟨t, -, hrest⟩ := exists_of_bind_eq_ok h
      obtain ⟨pair, -, hpure⟩ := exists_of_bind_eq_ok hrest
      cases hpure
      cases hset
  | delete table condition =>
      obtain ⟨t, -, hpure⟩ := exists_of_bind_eq_ok h
      cases hpure
      cases hset
  | select what table condition order =>
      obtain ⟨t, -, hpure⟩ := exists_of_bind_eq_ok h
      cases hpure
      rfl
  | values items =>
      cases h
      rfl
  | begin | commit | rollback | savepoint | rollbackTo =>
      cases h
      rfl

/-- A statement of the small engine that fails leaves the tables and the transaction as they
were. -/
theorem small_careful : small.Careful := by
  intro db db' p params e h
  have hexecute : Store.execute db p.1 params = (.error e, db') := h
  cases hstep : p.1.step? with
  | some step => exact small_transactional.refused (congrArg (Option.map Control.step) hstep) h
  | none =>
      rw [Store.execute_of_no_step hstep, Store.change] at hexecute
      cases happly : p.1.apply db.ledger.contents params with
      | ok effect =>
          rw [happly] at hexecute
          cases hexecute
      | error e' =>
          rw [happly] at hexecute
          obtain ⟨-, rfl⟩ := Prod.mk.inj hexecute
          show Store.ledger (if _ then _ else _) = db.ledger
          split
          · rfl
          · rfl

/-- A statement of the small engine that brings back rows, but none at all, leaves the tables as
they were. -/
theorem small_returning : small.Returning := by
  intro db db' p params set h hnone
  have hexecute : Store.execute db p.1 params = (.ok (some set), db') := h
  cases hstep : p.1.step? with
  | some step =>
      cases (small_transactional.taken (congrArg (Option.map Control.step) hstep) h).1
  | none =>
      rw [Store.execute_of_no_step hstep, Store.change] at hexecute
      cases happly : p.1.apply db.ledger.contents params with
      | error e =>
          rw [happly] at hexecute
          cases hexecute
      | ok effect =>
          rw [happly] at hexecute
          obtain ⟨hrows, rfl⟩ := Prod.mk.inj hexecute
          exact Statement.apply_of_no_rows happly (Except.ok.inj hrows) hnone

end SlotQuery.Engine
