import SlotQuery.Proofs.Outcome
import SlotQuery.Result.Output

/-!
# What a shape keeps of the rows

Five shapes show the same rows in five ways, and two of them are made by taking the one value out of
every row.  A row without exactly one value has none to take, so a shape could lose it; that it
never does is what this file proves.

An output is looked at through four views that know nothing of settings: `Output.contents`, the
values that it holds, row by row; `Output.Bare`, its rows have been reduced to their values;
`Output.Alone`, a row stands in it without a list; and `Output.held`, the rows that it holds as they
were.

* `contents_ofRows`: a shape holds the values of all its rows, in their order.
* `bare_ofList_iff`, `bare_ofRow_iff`: rows are reduced exactly if every one of them can be.
* `ofRows_faithful`: all that a shape depends on, for any rows and any settings.
-/

namespace SlotQuery

/-- A row has a single value exactly if it is the only one of its values. -/
theorem Row.single?_eq_some_iff {r : Row} {c : Cell} : r.single? = some c ↔ r.cells = [c] := by
  unfold Row.single?
  split
  · next d hd => simp [hd]
  · next hnone =>
      constructor
      · intro h
        cases h
      · intro h
        exact absurd h (hnone c)

namespace Output

/-- The values that an output holds, row by row. -/
def contents : Output → List (List Cell)
  | bool _ => []
  | scalar c => [[c]]
  | row r => [r.cells]
  | scalars cs => cs.map fun c => [c]
  | rows rs => rs.map Row.cells

/-- The rows have been reduced to their values. -/
def Bare : Output → Prop
  | scalar _ | scalars _ => True
  | bool _ | row _ | rows _ => False

/-- A row, or the value of one, stands by itself and not in a list. -/
def Alone : Output → Prop
  | scalar _ | row _ => True
  | bool _ | scalars _ | rows _ => False

/-- The rows that an output holds as they were, with the names of their columns. -/
def held : Output → List Row
  | row r => [r]
  | rows rs => rs
  | bool _ | scalar _ | scalars _ => []

/-- The output shows all of these rows, and the rows themselves where it does not reduce them. -/
structure Shows (o : Output) (rs : List Row) : Prop where
  contents : o.contents = rs.map Row.cells
  rowCount : o.rowCount = rs.length
  held : ¬ o.Bare → o.held = rs
  rowBearing : ∀ b, o ≠ bool b

theorem singleColumn_iff {rs : List Row} :
    singleColumn rs = true ↔ ∀ r ∈ rs, r.cells.length = 1 := by
  simp only [singleColumn, List.all_eq_true, decide_eq_true_eq]

/-- A row of one value has a value to take. -/
theorem exists_single? {r : Row} (h : r.cells.length = 1) :
    ∃ c, r.single? = some c ∧ r.cells = [c] := by
  obtain ⟨c, hc⟩ := List.length_eq_one_iff.mp h
  exact ⟨c, Row.single?_eq_some_iff.mpr hc, hc⟩

/-- Of rows of one value each, all values are taken. -/
theorem filterMap_single? {rs : List Row} (h : ∀ r ∈ rs, r.cells.length = 1) :
    (rs.filterMap Row.single?).map (fun c => [c]) = rs.map Row.cells := by
  induction rs with
  | nil => rfl
  | cons r rs ih =>
      obtain ⟨hr, hrs⟩ := List.forall_mem_cons.mp h
      obtain ⟨c, hsingle, hcells⟩ := exists_single? hr
      rw [List.filterMap_cons_some hsingle, List.map_cons, List.map_cons, ih hrs, hcells]

/-- A row on its own is the value that it has, or the row; it never comes to a truth value. -/
theorem ofRow_cases (s : Settings) (r : Row) :
    (∃ c, s.omitSingleKey = true ∧ r.cells = [c] ∧ ofRow s r = scalar c) ∨
      ¬ (s.omitSingleKey = true ∧ r.cells.length = 1) ∧ ofRow s r = row r := by
  unfold ofRow
  split
  · next h =>
      obtain ⟨c, hsingle, hcells⟩ := exists_single? h.2
      rw [hsingle]
      exact .inl ⟨c, h.1, hcells, rfl⟩
  · next h => exact .inr ⟨h, rfl⟩

/-- A row is shown with all that it holds. -/
theorem shows_ofRow (s : Settings) (r : Row) : (ofRow s r).Shows [r] := by
  obtain ⟨c, -, hcells, hshape⟩ | ⟨-, hshape⟩ := ofRow_cases s r
  · rw [hshape]
    exact ⟨by simp [contents, hcells], rfl, fun h => absurd trivial h, fun _ h => nomatch h⟩
  · rw [hshape]
    exact ⟨rfl, rfl, fun _ => rfl, fun _ h => nomatch h⟩

/-- Rows in a list are shown with all that they hold. -/
theorem shows_ofList (s : Settings) (rs : List Row) : (ofList s rs).Shows rs := by
  unfold ofList
  split
  · next h =>
      have hcells := filterMap_single? (singleColumn_iff.mp h.2)
      have hlength := congrArg List.length hcells
      rw [List.length_map, List.length_map] at hlength
      exact ⟨hcells, hlength, fun h => absurd trivial h, fun _ h => nomatch h⟩
  · exact ⟨rfl, rfl, fun _ => rfl, fun _ h => nomatch h⟩

/-- A row comes without its name exactly if that is wanted and it has one column. -/
theorem bare_ofRow_iff (s : Settings) (r : Row) :
    (ofRow s r).Bare ↔ s.omitSingleKey = true ∧ r.cells.length = 1 := by
  obtain ⟨c, homit, hcells, hshape⟩ | ⟨hnot, hshape⟩ := ofRow_cases s r
  · simp [hshape, Bare, homit, hcells]
  · rw [hshape]
    exact ⟨fun h => h.elim, fun h => absurd h hnot⟩

/-- In a list the names are left out only if every row has a single column. -/
theorem bare_ofList_iff (s : Settings) (rs : List Row) :
    (ofList s rs).Bare ↔ s.omitSingleKey = true ∧ ∀ r ∈ rs, r.cells.length = 1 := by
  rw [← singleColumn_iff]
  unfold ofList
  split
  · next h => exact ⟨fun _ => h, fun _ => trivial⟩
  · next h => exact ⟨fun hbare => hbare.elim, fun hbare => absurd hbare h⟩

theorem alone_ofRow (s : Settings) (r : Row) : (ofRow s r).Alone := by
  obtain ⟨c, -, -, hshape⟩ | ⟨-, hshape⟩ := ofRow_cases s r <;> rw [hshape] <;> trivial

theorem not_alone_ofList (s : Settings) (rs : List Row) : ¬ (ofList s rs).Alone := by
  unfold ofList
  split <;> exact id

theorem ofRows_nil (s : Settings) :
    ofRows s [] = if s.noRowsAsArray then rows [] else bool false :=
  rfl

/-- Rows stand in a list, unless there is only one and it need not be indexed. -/
theorem ofRows_of_ne_nil (s : Settings) {rs : List Row} (hrs : rs ≠ []) :
    (∃ r, rs = [r] ∧ s.rowsIndexed = false ∧ ofRows s rs = ofRow s r) ∨
      ((rs.length = 1 → s.rowsIndexed = true) ∧ ofRows s rs = ofList s rs) := by
  match rs with
  | [] => exact absurd rfl hrs
  | [r] =>
      cases hindexed : s.rowsIndexed with
      | false => exact .inl ⟨r, rfl, rfl, by simp [ofRows, hindexed]⟩
      | true => exact .inr ⟨fun _ => rfl, by simp [ofRows, hindexed]⟩
  | r :: r' :: rest => exact .inr ⟨fun h => by simp at h, rfl⟩

/-- Rows are shown with all that they hold, be they one or several. -/
theorem shows_ofRows (s : Settings) {rs : List Row} (hrs : rs ≠ []) : (ofRows s rs).Shows rs := by
  obtain ⟨r, rfl, -, hshape⟩ | ⟨-, hshape⟩ := ofRows_of_ne_nil s hrs
  · rw [hshape]
    exact shows_ofRow s r
  · rw [hshape]
    exact shows_ofList s rs

/-- A shape holds the values of all its rows, in their order. -/
theorem contents_ofRows (s : Settings) (rs : List Row) :
    (ofRows s rs).contents = rs.map Row.cells := by
  by_cases hrs : rs = []
  · subst hrs
    rw [ofRows_nil]
    split <;> rfl
  · exact (shows_ofRows s hrs).contents

/-- A shape stands for as many rows as it was made of. -/
theorem rowCount_ofRows (s : Settings) (rs : List Row) : (ofRows s rs).rowCount = rs.length := by
  by_cases hrs : rs = []
  · subst hrs
    rw [ofRows_nil]
    split <;> rfl
  · exact (shows_ofRows s hrs).rowCount

/-- Only no rows are shown as a truth value, which is `false`. -/
theorem ofRows_eq_bool_iff {s : Settings} {rs : List Row} {b : Bool} :
    ofRows s rs = bool b ↔ b = false ∧ rs = [] ∧ s.noRowsAsArray = false := by
  by_cases hrs : rs = []
  · subst hrs
    rw [ofRows_nil]
    cases s.noRowsAsArray <;> simp [eq_comm]
  · have hnone := (shows_ofRows s hrs).rowBearing b
    simp [hnone, hrs]

/-- What a shape depends on.  It is `false` exactly for no rows that are not to be a list, and it is
never `true`.  It holds the values of its rows in their order and counts them; rows that are not
reduced to their values are held as they were.  Rows are reduced exactly if each has one value and
the settings ask for it, and a row stands by itself exactly if it is the only one and is not to be
indexed. -/
theorem ofRows_faithful (s : Settings) (rs : List Row) :
    (∀ b, ofRows s rs = bool b ↔ b = false ∧ rs = [] ∧ s.noRowsAsArray = false) ∧
      (ofRows s rs).contents = rs.map Row.cells ∧
      (ofRows s rs).rowCount = rs.length ∧
      (¬ (ofRows s rs).Bare → (ofRows s rs).held = rs) ∧
      ((ofRows s rs).Bare ↔
        rs ≠ [] ∧ s.omitSingleKey = true ∧ ∀ r ∈ rs, r.cells.length = 1) ∧
      ((ofRows s rs).Alone ↔ rs.length = 1 ∧ s.rowsIndexed = false) := by
  refine ⟨fun b => ofRows_eq_bool_iff, contents_ofRows s rs, rowCount_ofRows s rs, ?_⟩
  by_cases hrs : rs = []
  · subst hrs
    rw [ofRows_nil]
    cases s.noRowsAsArray <;> simp [held, Bare, Alone]
  refine ⟨(shows_ofRows s hrs).held, ?_⟩
  obtain ⟨r, rfl, hindexed, hshape⟩ | ⟨hindexed, hshape⟩ := ofRows_of_ne_nil s hrs
  · rw [hshape, bare_ofRow_iff]
    have halone := alone_ofRow s r
    simp [halone, hindexed]
  · rw [hshape, bare_ofList_iff]
    refine ⟨by simp [hrs], fun h => absurd h (not_alone_ofList s rs), fun h => ?_⟩
    exact absurd (hindexed h.1) (by simp [h.2])

/-- One row that cannot be reduced keeps the others from being reduced. -/
example :
    ofRows { Settings.builtin with omitSingleKey := true } [⟨["a"], [.int 1]⟩, ⟨["a"], []⟩] =
      rows [⟨["a"], [.int 1]⟩, ⟨["a"], []⟩] := by
  decide

end Output

end SlotQuery
