import SlotQuery.Proofs.Driver.Growing
import SlotQuery.Proofs.Session.FailedBatch
import SlotQuery.Proofs.Session.IdRange
import SlotQuery.Proofs.Session.Reckoning

/-!
# What a batch that succeeds does to its table

A batch goes to an embedded connection as one statement or as a staged file.  Where it succeeds, its
rows stand behind those that the table had, and the log has got one entry, whose ids are those of
the rows: `run_inserts` says so of the statement and `bulkLoad_inserts` of the file.

The two come to the ids in different ways.  The statement leaves the first one in a counter of the
connection.  The file is loaded in a unit of its own, which keeps what its work has left if it
succeeds (`transact_of_ok`), and the largest id is asked for afterwards (`maxId_of_ok`).  Neither of
the two reckonings leaves the 64 bits (`endsBeyond_eq_false`, `startsBeyond_eq_false`).
-/

namespace SlotQuery

open Act Session
open Engine (Ledger Table Record)
open Number

variable {E : Engine} {α : Type} {c : ConnId} {s : State (Bench E)}

section

variable {first : Int64} {count : Nat}

/-- The range of an insert ends in range if its end is no larger than the largest integer. -/
theorem endsBeyond_eq_false (h : first.toInt + count ≤ Int64.maxValue.toInt) :
    endsBeyond first count = false := by
  refine Bool.eq_false_iff.mpr fun hbeyond => ?_
  have hends := (endsBeyond_iff (by omega)).mp hbeyond
  omega

/-- The ids that an entry records from the first one on. -/
theorem LogEntry.insertIds_withIds (e : LogEntry) (hcount : 0 < count)
    (h : first.toInt + count ≤ Int64.maxValue.toInt) (hsmall : count < Int64.maxValue.toInt) :
    (e.withIds first count).insertIds = idsFrom first count := by
  have hrecords := e.records_withIds hcount (endsBeyond_eq_false h)
  refine integers_injective ?_
  rw [hrecords.exact_iff.mpr (Int.le_of_lt hsmall), integers_idsFrom (by omega)]

/-- The ids in the entry of an insert that is answered. -/
theorem LogEntry.insertIds_answered {e : LogEntry} (hinsert : Batch.isInsert e.statement = true)
    (reply : Reply) (hcount : 0 < count) (hsmall : count < Int64.maxValue.toInt)
    (h : first.toInt + count ≤ Int64.maxValue.toInt) :
    (answered e reply count first).insertIds = idsFrom first count := by
  unfold answered
  dsimp only
  rw [if_pos ⟨hcount, hinsert⟩]
  exact insertIds_withIds _ hcount h hsmall

section

variable (hcount : 0 < count) (h : first.toInt + count ≤ Int64.maxValue.toInt)

include hcount h

variable (hfront : Int64.minValue.toInt < first.toInt)

include hfront

/-- The reckoning back from the last id is in range if there is an integer in front of the first
one. -/
theorem startsBeyond_eq_false : startsBeyond (first + Int64.ofNat count - 1) count = false := by
  have hlast := toInt_add_ofNat_sub_one hcount h
  refine Bool.eq_false_iff.mpr fun hbeyond => ?_
  have hstarts := (startsBeyond_iff (by omega)).mp hbeyond
  omega

/-- The ids that an entry records back from the last one. -/
theorem LogEntry.insertIds_reckoned (e : LogEntry) (hsmall : count < Int64.maxValue.toInt) :
    (e.reckoned count (some (first + Int64.ofNat count - 1))).insertIds = idsFrom first count := by
  have hrecords := e.records_idsUpTo hcount (startsBeyond_eq_false hcount h hfront)
  have hfirst : first.toInt + count - 1 - count + 1 = first.toInt := by omega
  refine integers_injective ?_
  rw [hrecords.exact_iff.mpr (Int.le_of_lt hsmall), toInt_add_ofNat_sub_one hcount h, hfirst,
    integers_idsFrom (by omega)]

end

end

/-- The table with the name, as the session sees it. -/
def State.table? (c : ConnId) (name : String) (s : State (Bench E)) : Option Table :=
  (s.contents c).bind fun contents => E.table? contents name

/-- The session is on the connection and sees the table with the name there, and no reckoning of
ids has left the 64 bits. -/
structure State.HasTable (c : ConnId) (name : String) (t : Table) (s : State (Bench E)) : Prop where
  connection : s.session.connection = some c
  table : s.table? c name = some t
  inRange : s.InRange c

section

variable {name : String} {t : Table}

/-- The session sees the table that the connection has. -/
theorem State.table?_of_has {flag : Bool}
    (h : s.wire.world.Has c (Embedded.HasTable name t flag)) : s.table? c name = some t := by
  obtain ⟨e, he, db, ⟨hstore, -⟩, htable⟩ := h
  have hcontents : s.contents c = some (E.ledger db).contents := by
    refine State.contents_eq ⟨e, he, ?_⟩
    show (e.store.map E.ledger).map Ledger.contents = _
    rw [hstore]
    rfl
  rw [State.table?, hcontents]
  exact htable

/-- A session that sees a table is on an open connection. -/
theorem State.exists_ledger_of_table (h : s.table? c name = some t) :
    ∃ l, s.ledger? c = some l := by
  obtain ⟨contents, hcontents, -⟩ := Option.bind_eq_some_iff.mp h
  obtain ⟨l, hl, -⟩ := Option.map_eq_some_iff.mp hcontents
  exact ⟨l, hl⟩

/-- The table is the one that the connection has. -/
theorem State.embedded_of_table (h : s.table? c name = some t) :
    ∃ e, s.wire.world.embedded? c = some e ∧ e.HasTable name t e.overflowed := by
  obtain ⟨contents, hcontents, htable⟩ := Option.bind_eq_some_iff.mp h
  obtain ⟨l, hl, rfl⟩ := Option.map_eq_some_iff.mp hcontents
  obtain ⟨e, he, hledger⟩ := Bench.ledger?_eq_some_iff.mp hl
  obtain ⟨db, hstore, rfl⟩ := Option.map_eq_some_iff.mp hledger
  exact ⟨e, he, db, ⟨hstore, rfl⟩, htable⟩

/-- The connection has the table that the session sees, in range. -/
theorem State.HasTable.has (h : s.HasTable c name t) :
    s.wire.world.Has c (Embedded.HasTable name t false) := by
  obtain ⟨e, he, hhas⟩ := State.embedded_of_table h.table
  obtain ⟨e', he', hrange⟩ := h.inRange.connection
  obtain rfl := Option.some.inj (he'.symm.trans he)
  rw [hrange] at hhas
  exact ⟨e', he', hhas⟩

/-- The session sees the table that its connection has, in range. -/
theorem State.HasTable.of_has (hc : s.session.connection = some c) (hrange : s.overflowed = false)
    (h : s.wire.world.Has c (Embedded.HasTable name t false)) : s.HasTable c name t where
  connection := hc
  table := State.table?_of_has h
  inRange :=
    { session := hrange
      connection := h.mono fun _ ⟨_, hat, _⟩ => hat.2 }

end

/-- A unit that succeeds has started with what the database held, and keeps what its work has
left. -/
theorem transact_of_ok (hE : E.Transactional) {work : Act (Bench E) α}
    (hc : s.session.connection = some c) {l : Ledger E.Contents} (hl : s.ledger? c = some l)
    (hstart : s.Starts Bench.driver c) (hwork : ∀ f, Maintains (Standing c f []) work)
    {propagate : Bool} {a : α}
    (hok : (run (transact Bench.driver propagate work) s).1 = .ok (some a)) :
    (s.starting Bench.driver c).contents c = s.contents c ∧
      (run work (s.starting Bench.driver c)).1 = .ok a ∧
      (run (transact Bench.driver propagate work) s).2.contents c =
        (run work (s.starting Bench.driver c)).2.contents c := by
  obtain ⟨l₁, l', result, hstarted, hl₁, hresult, -, -, hl', -, hsettled, -⟩ :=
    unitBody_ends hE hc hl hstart fun f => hwork f _
  obtain ⟨hwire, -, -⟩ := recorded_beside (run (unitBody Bench.driver s work) s).2
    (run (unitBody Bench.driver s work) s).1
  rw [run_transact, hresult] at hok
  obtain rfl := reported_eq_some_iff.mp hok
  obtain ⟨hworked, hkept⟩ := hsettled.of_ok
  refine ⟨hstarted.trans (congrArg (Option.map Ledger.contents) hl).symm, hworked, ?_⟩
  rw [run_transact, State.contents, State.ledger?, hwire, State.contents, hl₁]
  rw [show Bench.ledger? c _ = some l' from hl']
  exact congrArg some hkept

/-- From the first state to the second some rows were put behind the others of a table, and the log
has got one entry, with their ids. -/
structure Inserted (c : ConnId) (table : String) (t : Table) (columns : List String)
    (values : List (List Cell)) (s s' : State (Bench E)) (rs : List Record) : Prop where
  takes : Table.Takes E columns t values rs
  entry : ∃ e, Added [e] s s' ∧ e.insertIds = rs.map Record.id
  table : s'.HasTable c table (t.grown rs)

/-- Nothing that happens before without being logged changes what was inserted. -/
theorem Inserted.after {table : String} {t : Table} {columns : List String}
    {values : List (List Cell)} {before s s' : State (Bench E)} {rs : List Record}
    (h : Inserted c table t columns values s s' rs) (hbefore : Unlogged before s) :
    Inserted c table t columns values before s' rs := by
  obtain ⟨htakes, ⟨e, hadded, hids⟩, htable⟩ := h
  exact ⟨htakes, ⟨e, hadded.framed hbefore (.refl s'), hids⟩, htable⟩

section

variable {t : Table} {k : Nat} {table : String} {columns : List String} {rows : List (List Cell)}
variable {st : Settings} (hE : E.Numbers table) (htable : s.HasTable c table t)

section

variable (hrows : rows ≠ []) (heven : ∀ row ∈ rows, row.length = columns.length)
variable (hkeyed : t.Keyed k) (hfree : ∀ column ∈ columns, t.column? column ≠ some k)
variable (hroom : t.Spacious rows.length)

include hE htable hrows heven hkeyed hfree hroom

/-- A statement for a batch that succeeds. -/
theorem run_inserts {sql : String} (hp : Template.prepare st sql = .ok
      ⟨Batch.skeleton table columns (rows.map (List.map Batch.mark)),
        rows.flatten.filterMap Batch.param?⟩)
    (hok : (run (Session.run Bench.driver sql st) s).1 = .ok (.bool true)) :
    ∃ rs, Inserted c table t columns (rows.map (List.map fun cell => (Batch.slot cell).value)) s
      (run (Session.run Bench.driver sql st) s).2 rs := by
  have hattained := Bench.attains_insert hE st.charset hrows heven hkeyed hfree hroom s.wire
    htable.has
  have hinsert := Batch.isInsert_skeleton table columns (rows.map (List.map Batch.mark))
  rcases hsent : performUnder (Bench.driver (E := E)) st.charset c
    ⟨Batch.skeleton table columns (rows.map (List.map Batch.mark)),
      rows.flatten.filterMap Batch.param?⟩ s.wire with ⟨answer, w⟩
  have hadded := runOn_adds sql st _ hsent
  obtain ⟨htold, hbeside, -⟩ := run_of_prepared hp htable.connection hsent
  rw [hsent] at hattained
  rw [htold] at hok
  rw [← run_eq_runOn hp htable.connection] at hadded
  obtain ⟨reply, rfl⟩ : ∃ reply, answer = .ok reply := by
    cases answer with
    | ok reply => exact ⟨reply, rfl⟩
    | error e =>
        unfold told at hok
        dsimp only at hok
        split at hok <;> cases hok
  have hflag := overflowed_runOn sql st _ hsent
  rw [← run_eq_runOn hp htable.connection] at hflag
  obtain ⟨⟨ok, rfl⟩, rs, htakes, e, he, hcounted⟩ := hattained reply rfl
  obtain ⟨haffected, hfirst⟩ := Bench.counters_of_embedded he
  rw [hcounted.affected] at haffected
  rw [hcounted.firstId] at hfirst
  have hpos := List.length_pos_iff.mpr hrows
  have hend := hkeyed.nextId_add_le hroom
  refine ⟨rs, htakes, ⟨_, hadded, ?_⟩,
    .of_has (hbeside.connection.trans htable.connection) ?_ ?_⟩
  · show (answered _ (.done ok) _ _).insertIds = _
    rw [haffected, hfirst, htakes.ids, List.length_map]
    refine LogEntry.insertIds_answered ?_ _ hpos hroom.1 hend
    exact hinsert
  · rw [hflag, htable.inRange.session, answeredBeyond, haffected, hfirst, endsBeyond_eq_false hend,
      Bool.and_false, Bool.or_false]
  · rw [hbeside.wire]
    exact ⟨e, he, hcounted.table⟩

end

include hE htable in
/-- The query for the largest id, where it succeeds.  It finds the id of the last row and leaves no
trace in the log. -/
theorem maxId_of_ok (hkeyed : t.Keyed k) (hid : t.column? "id" = some k)
    (hquery : ∀ p, Template.prepare st (maxIdStatement table) = .ok p →
      p = ⟨maxIdStatement table, []⟩)
    {found : Option Int64} (hok : (run (maxId Bench.driver table st) s).1 = .ok found) :
    found = t.lastId? ∧ Added [] s (run (maxId Bench.driver table st) s).2 ∧
      (run (maxId Bench.driver table st) s).2.HasTable c table t := by
  have hc := htable.connection
  cases hp : Template.prepare st (maxIdStatement table) with
  | error e =>
      rw [maxId_of_rejected hp] at hok
      cases hok
  | ok p =>
      obtain rfl := hquery p hp
      have hadded := maxId_added (D := Bench.driver) hc hp
      have hattained := Bench.attains_max hE st.charset hkeyed hid s.wire htable.has
      rcases hsent : performUnder (Bench.driver (E := E)) st.charset c ⟨maxIdStatement table, []⟩
        s.wire with ⟨answer, w⟩
      rw [hsent] at hattained
      have hbare : Template.prepare (bareValue st) (maxIdStatement table) = .ok _ := hp
      have hrun := (run_eq_runOn hbare hc).trans
        (run_runOn_eq (maxIdStatement table) (bareValue st) _ hsent)
      rw [run_maxId] at hok hadded ⊢
      rw [hrun] at hok hadded ⊢
      cases answer with
      | error e => cases hok
      | ok reply =>
          obtain ⟨hhas, label, rfl⟩ := hattained reply rfl
          refine ⟨?_, hadded, .of_has hc ?_ hhas⟩
          · rw [← Except.ok.inj hok]
            cases t.lastId? with
            | none => rfl
            | some last => rfl
          · show (s.overflowed || answeredBeyond (maxIdStatement table) _ _) = false
            rw [htable.inRange.session, answeredBeyond, isInsert_maxIdStatement, Bool.and_false]
            rfl

end

/-- The rows of a file were loaded, and the log has got one entry. -/
structure FileKept (c : ConnId) (file : Batch.Load) (t : Table) (s s' : State (Bench E))
    (entry : LogEntry) (rs : List Record) : Prop where
  takes : Table.Takes E file.columns t (Batch.storedRows file) rs
  columns : Batch.lines file.contents ≠ [] → file.columns ≠ []
  added : Added [entry] s s'
  ofLoad : entry.OfLoad s'.wire.trace
  granted : entry.error = none
  table : s'.HasTable c file.table (t.grown rs)

section

variable (htrans : E.Transactional) (hcareful : E.Careful) (hfileless : E.Fileless)
variable {t : Table} {k : Nat} {st : Settings}

include htrans hcareful hfileless in
/-- A staged file whose unit succeeds. -/
theorem fileKept_of_ok {file : Batch.Load} (hE : E.Numbers file.table)
    (htable : s.HasTable c file.table t) (hkeyed : t.Keyed k)
    (hfree : ∀ column ∈ file.columns, t.column? column ≠ some k)
    (hroom : t.Spacious (Batch.storedRows file).length) {propagate : Bool} {i : Nat}
    (hok : (run (transact Bench.driver propagate (loadStaged Bench.driver file st)) s).1 =
      .ok (some i)) :
    i = s.session.log.length ∧ ∃ entry rs, FileKept c file t s
      (run (transact Bench.driver propagate (loadStaged Bench.driver file st)) s).2 entry rs := by
  have hc := htable.connection
  obtain ⟨l, hl⟩ := State.exists_ledger_of_table htable.table
  have hunit := transact_loadStaged (D := Bench.driver) hc file st propagate
  have hconn := connection_of_loading (D := Bench.driver) hc file st propagate
  have hrange := htable.inRange.unit_of_load hc file st propagate
  have hwork : ∀ f, Maintains (Standing c f []) (loadStaged Bench.driver file st) := fun f =>
    (Standing.undisturbed htrans hcareful c).loadStaged (f, [])
      (Standing.onWire fun _ => Bench.keeps_load htrans hcareful file) st
  have hkept : s.Starts Bench.driver c → _ := fun hstart =>
    transact_of_ok htrans hc hl hstart hwork hok
  rcases hrun : run (transact Bench.driver propagate (loadStaged Bench.driver file st)) s with
    ⟨result, loaded⟩
  rw [hrun] at hok hunit hconn hrange hkept
  cases hunit with
  | unstarted h => cases hok
  | loaded hstart hadded hsent hvalue =>
      obtain ⟨hstarted, hworked, hended⟩ := hkept hstart
      obtain ⟨rfl, hgranted⟩ := hvalue i hok
      have hbefore : (s.starting Bench.driver c).table? c file.table = some t := by
        rw [State.table?, hstarted]
        exact htable.table
      obtain ⟨e, he, hhas⟩ := State.embedded_of_table hbefore
      have hattained := Bench.attains_loaded hfileless hE hkeyed hfree hroom
        (s.starting Bench.driver c).wire ⟨e, he, hhas⟩
      rw [run_loadStaged (connection_starting (D := Bench.driver) hc)] at hworked hended
      obtain ⟨count, hcount⟩ : ∃ count,
          (Bench.driver.load c file (s.starting Bench.driver c).wire).1 = .ok count := by
        cases hanswer : (Bench.driver.load c file (s.starting Bench.driver c).wire).1 with
        | ok count => exact ⟨count, rfl⟩
        | error e =>
            rw [hanswer] at hworked
            cases hworked
      obtain ⟨rs, htakes, hhas, hcolumns⟩ := hattained count hcount
      refine ⟨rfl, _, rs, htakes, hcolumns, hadded, (loadEntry_describes file st).ofLoad hsent.mem,
        hgranted, hconn, ?_, hrange⟩
      rw [State.table?, hended]
      exact State.table?_of_has hhas

/-- What follows the unit of a file, where it succeeds. -/
theorem afterLoad_inserts {table : String} (hE : E.Numbers table) {columns : List String}
    {values : List (List Cell)} {loaded : State (Bench E)} {entry : LogEntry} {rs : List Record}
    {count : Nat} (htakes : Table.Takes E columns t values rs)
    (htable : loaded.HasTable c table (t.grown rs)) (hadded : Added [entry] s loaded)
    (hload : entry.OfLoad loaded.wire.trace) (hgranted : entry.error = none) (hkeyed : t.Keyed k)
    (hid : t.column? "id" = some k) (hlength : values.length = count) (hcount : 0 < count)
    (hroom : t.Spacious count)
    (hquery : ∀ p, Template.prepare st (maxIdStatement table) = .ok p →
      p = ⟨maxIdStatement table, []⟩)
    (hok : (run (afterLoad Bench.driver table count st (some s.session.log.length))
      loaded).1 = .ok (.bool true)) :
    Inserted c table t columns values s
      (run (afterLoad Bench.driver table count st (some s.session.log.length)) loaded).2 rs := by
  have hvalues : values ≠ [] := by
    rintro rfl
    exact absurd hlength (Nat.ne_of_lt hcount)
  have hspace : t.Spacious (values.length + 0) := by rwa [hlength, Nat.add_zero]
  obtain ⟨hgrown, -, -⟩ := hkeyed.taken hspace htakes
  have hend := hkeyed.nextId_add_le hroom
  have hfront := hkeyed.minValue_lt_nextId (hroom.mono (Nat.zero_le _))
  rcases hmax : run (maxId Bench.driver table st) loaded with ⟨e | found, asked⟩
  · rw [run_afterLoad_of_error hmax] at hok
    cases hok
  · have hfound : (run (maxId Bench.driver table st) loaded).1 = .ok found := by rw [hmax]
    obtain ⟨rfl, hquiet, hasked⟩ := maxId_of_ok hE htable hgrown hid hquery hfound
    rw [hmax] at hquiet hasked
    rw [htakes.lastId?_grown hvalues, hlength] at hmax
    rw [run_afterLoad_of_ok hmax]
    have hbeside := asked.beside_withLast s.session.log.length count
      (some (t.nextId + Int64.ofNat count - 1))
    refine ⟨htakes, ⟨_, (hadded.trans hquiet).withLast (hload.mono hquiet.trace) hgranted count
      (some (t.nextId + Int64.ofNat count - 1)), ?_⟩,
      .of_has (hbeside.connection.trans hasked.connection) ?_ ?_⟩
    · rw [LogEntry.insertIds_reckoned hcount hend hfront _ hroom.1, htakes.ids, hlength]
    · show (asked.overflowed || startsBeyond _ count) = false
      rw [hasked.inRange.session, startsBeyond_eq_false hcount hend hfront]
      rfl
    · rw [hbeside.wire]
      exact hasked.has

section

variable {table : String} {columns : List String} {rows : List (List Cell)}
variable (hE : E.Numbers table) (htable : s.HasTable c table t) (hrows : rows ≠ [])
variable (heven : ∀ row ∈ rows, row.length = columns.length) (hkeyed : t.Keyed k)
variable (hid : t.column? "id" = some k) (hfree : ∀ column ∈ columns, t.column? column ≠ some k)
variable (hroom : t.Spacious rows.length)
variable (hquery : ∀ p, Template.prepare st (maxIdStatement table) = .ok p →
  p = ⟨maxIdStatement table, []⟩)

include htrans hcareful hfileless hE htable hrows heven hkeyed hid hfree hroom hquery

/-- A file that is loaded in its unit, and what follows, where it all succeeds. -/
theorem staged_inserts {path contents : String} (hstage : Batch.stage rows = .ok contents)
    (hok : (run (transact Bench.driver st.throwErrors
        (loadStaged Bench.driver (.staged path table columns contents) st) >>=
      afterLoad Bench.driver table rows.length st) s).1 = .ok (.bool true)) :
    ∃ rs, Inserted c table t columns
      (rows.map (List.map fun cell => Batch.loadedCell cell.written?)) s
      (run (transact Bench.driver st.throwErrors
          (loadStaged Bench.driver (.staged path table columns contents) st) >>=
        afterLoad Bench.driver table rows.length st) s).2 rs := by
  let file : Batch.Load := .staged path table columns contents
  have hlines : (Batch.lines file.contents).length = rows.length := by
    show (Batch.lines contents).length = _
    rw [Batch.lines_stage hstage, List.length_map]
  rcases hrun : run (transact Bench.driver st.throwErrors (loadStaged Bench.driver file st)) s with
    ⟨e | _ | i, loaded⟩
  · rw [run_bind_of_error hrun] at hok
    cases hok
  · rw [run_bind_of_ok hrun] at hok
    cases hok
  · have hspace : t.Spacious (Batch.storedRows file).length := by
      rwa [Batch.storedRows, List.length_map, hlines]
    have hunit : (run (transact Bench.driver st.throwErrors
        (loadStaged Bench.driver file st)) s).1 = .ok (some i) := by rw [hrun]
    obtain ⟨rfl, entry, rs, hfile⟩ :=
      fileKept_of_ok htrans hcareful hfileless hE htable hkeyed hfree hspace hunit
    rw [hrun] at hfile
    rw [run_bind_of_ok hrun] at hok ⊢
    have hcolumns : columns ≠ [] := hfile.columns fun hnone =>
      hrows (List.length_eq_zero_iff.mp (by rw [← hlines, hnone, List.length_nil]))
    have hne : ∀ row ∈ rows, row ≠ [] := by
      rintro row hrow rfl
      exact hcolumns (List.length_eq_zero_iff.mp (heven [] hrow).symm)
    have htakes := hfile.takes
    rw [Batch.storedRows_stage hstage hne] at htakes
    exact ⟨rs, afterLoad_inserts hE htakes hfile.table hfile.added hfile.ofLoad hfile.granted
      hkeyed hid (List.length_map _) (List.length_pos_iff.mpr hrows) hroom hquery hok⟩

/-- A staged batch that succeeds. -/
theorem bulkLoad_inserts
    (hok : (run (bulkLoad Bench.driver table columns rows st) s).1 = .ok (.bool true)) :
    ∃ rs, Inserted c table t columns
      (rows.map (List.map fun cell => Batch.loadedCell cell.written?)) s
      (run (bulkLoad Bench.driver table columns rows st) s).2 rs := by
  have hc := htable.connection
  cases hbulk : (Bench.driver.capabilities c s.wire.world).bulkLoad with
  | false =>
      rw [run_bulkLoad_of_missing hc hbulk] at hok
      cases hok
  | true =>
      rw [run_bulkLoad hc hbulk] at hok ⊢
      cases hstage : Batch.stage rows with
      | error e =>
          rw [hstage] at hok
          cases hok
      | ok contents =>
          rw [hstage] at hok
          have hticked : Unlogged s s.ticked := .unseen rfl rfl rfl rfl
          have hinRange : s.ticked.InRange c := ⟨htable.inRange.session, htable.inRange.connection⟩
          obtain ⟨rs, hinserted⟩ := staged_inserts (s := s.ticked) htrans hcareful hfileless hE
            ⟨hc, htable.table, hinRange⟩ hrows heven hkeyed hid hfree hroom hquery hstage hok
          exact ⟨rs, hinserted.after hticked⟩

end

end

end SlotQuery
