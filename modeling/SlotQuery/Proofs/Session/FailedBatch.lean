import SlotQuery.Proofs.Batch.Staged
import SlotQuery.Proofs.Session.Answers
import SlotQuery.Proofs.Session.Atomicity
import SlotQuery.Proofs.Session.Requests

/-!
# Batches that fail

A batch that is inserted on an embedded connection fails for many reasons: its rows are ragged or
cannot be secured or staged, the engine refuses a statement, no transaction can begin or the one
that has begun cannot be committed, a line of the staged file does not fit.  The main statement is
`failed_insert`: whatever the reason, the database then holds what it held, with one exception.  The
query for the largest id is sent when the staged file has been loaded and its unit has ended.  If
that query fails, the caller is told of its error, and the rows stay.

The transaction that a session is in may be one of its own units or one that its statements have
begun, the connection may be closed, and it may have faults that come before a statement is done.
Of the engine it is asked that a statement which fails changes nothing, and that one which brings
back rows, but none, has changed nothing.  `unitBody_refused` is about units that cannot start, and
`transact_kept` says what is left of a unit, whether it starts or not.  How far rows get before
anything is sent is in `run_insertRows_of_override`, and what follows a load in
`run_afterLoad_of_error` and `run_afterLoad_of_ok`.
-/

namespace SlotQuery

open Act Session
open Engine (Ledger)

variable {E : Engine} {α : Type} {c : ConnId}

/-- What the session sees of the database is what the connection has. -/
theorem State.contents_eq {s : State (Bench E)} {found : Option E.Contents}
    (h : s.wire.world.Has c fun e => e.contents? = found) : s.contents c = found := by
  obtain ⟨e, he, rfl⟩ := h
  rw [State.contents, State.ledger?, Bench.ledger?, he]
  rfl

/-- A connection has the contents that the session sees. -/
theorem has_contents {s : State (Bench E)} (h : s.wire.world.Has c fun _ => True) :
    s.wire.world.Has c fun e => e.contents? = s.contents c := by
  obtain ⟨e, he, -⟩ := h
  exact ⟨e, he, (State.contents_eq ⟨e, he, rfl⟩).symm⟩

/-- A candid connection has the contents that the session sees. -/
theorem hasCandid_contents {s : State (Bench E)} (h : s.wire.world.HasCandid c fun _ => True) :
    s.wire.world.HasCandid c fun e => e.contents? = s.contents c := by
  obtain ⟨endpoint, e, hendpoint, hfaults, hpeer, -⟩ := h
  refine ⟨endpoint, e, hendpoint, hfaults, hpeer, (State.contents_eq ⟨e, ?_, rfl⟩).symm⟩
  rw [Bench.embedded?, hendpoint]
  show endpoint.peer.embedded? = some e
  rw [hpeer]
  rfl

/-- A unit starts on an open connection only. -/
theorem State.Starts.exists_ledger {s : State (Bench E)} (hstart : s.Starts Bench.driver c)
    (hhas : s.wire.world.Has c fun _ => True) : ∃ l, s.ledger? c = some l := by
  obtain ⟨e, he, -⟩ := hhas
  have hopen : ∀ {l}, e.ledger? = some l → s.ledger? c = some l := fun hl =>
    Bench.ledger?_eq_some_iff.mpr ⟨e, he, hl⟩
  cases hin : s.session.inTransaction with
  | true =>
      obtain ⟨reply, w, hset, -⟩ := hstart.exists_set hin
      obtain ⟨l, hl⟩ := open_of_send (.savepoint s.nextSavepoint) he hset
      exact ⟨l, hopen hl⟩
  | false =>
      obtain ⟨w, w', hflag, hbegin, -⟩ := hstart.exists_begun hin
      obtain ⟨-, he'⟩ := Bench.respond_of_spared (r := .autocommit false) (fun _ => rfl) he
      obtain ⟨-, rfl⟩ := Prod.mk.inj hflag
      obtain ⟨l, hl⟩ := open_of_send .begin he' hbegin
      exact ⟨l, hopen hl⟩

section

variable (hE : E.Transactional) {s : State (Bench E)} {work : Act (Bench E) α}
variable (hc : s.session.connection = some c) (hhas : s.wire.world.Has c fun _ => True)

include hE hc hhas

/-- A unit that is refused leaves what the database holds. -/
theorem unitBody_refused (hrefused : ¬ s.Starts Bench.driver c) :
    (run (unitBody Bench.driver s work) s).2.contents c = s.contents c := by
  have hflag : ∀ (on : Bool) {w : Wire (Bench E)} {found : Option E.Contents},
      w.world.Has c (fun e => e.contents? = found) →
      (Bench.driver.send c (.autocommit on) w).2.world.Has c fun e => e.contents? = found :=
    fun on {w found} h => h.respond fun e he => (e.setAutocommit_contents hE on).trans he
  cases hin : s.session.inTransaction with
  | true =>
      obtain ⟨e, he, -⟩ := hhas
      have hledger : s.wire.world.Has c fun e' => e'.ledger? = e.ledger? := ⟨e, he, rfl⟩
      obtain ⟨error, w, hrun, hkept⟩ := nested_refused hE hc hin hledger hrefused work
      have hcontents : w.world.Has c fun e' => e'.contents? = e.contents? :=
        hkept.mono fun e' he' => congrArg (Option.map Ledger.contents) he'
      rw [unitBody_inside _ hin, hrun]
      exact (State.contents_eq hcontents).trans (State.contents_eq ⟨e, he, rfl⟩).symm
  | false =>
      have hcontents := has_contents hhas
      obtain ⟨error, hrefuses⟩ := State.exists_refuses hrefused
      rw [State.Refuses, hin, if_neg Bool.false_ne_true] at hrefuses
      obtain ⟨e, w, -, hset | ⟨w', hset, hbegin⟩⟩ := hrefuses
      · rw [unitBody_outermost _ hin, run_outermost_of_flag_refused Bench.driver hc hset]
        have hkept := hflag false hcontents
        rw [hset] at hkept
        exact State.contents_eq hkept
      · rw [unitBody_outermost _ hin, run_outermost_of_begin_refused Bench.driver hc hset hbegin]
        have hkept := hflag false hcontents
        rw [hset] at hkept
        obtain ⟨e', he', hcontents'⟩ := hkept
        refine State.contents_eq (hflag _ ?_)
        exact (has_of_refused_send hE .begin trivial ⟨e', he', rfl⟩ hbegin).mono fun e'' he'' =>
          (congrArg (Option.map Ledger.contents) he'').trans hcontents'

/-- A unit whose work leaves every unit standing keeps what the database holds or succeeds, and the
outermost one leaves no transaction behind if it succeeds. -/
theorem transact_kept (hwork : ∀ f, Maintains (Standing c f []) work) (propagate : Bool) :
    (run (transact Bench.driver propagate work) s).2.contents c = s.contents c ∨
      ∃ a, (run (transact Bench.driver propagate work) s).1 = .ok (some a) ∧
        (s.session.scopes = [] → ∃ l,
          (run (transact Bench.driver propagate work) s).2.ledger? c = some l ∧
          l.transaction = none) := by
  rw [run_transact]
  obtain ⟨hwire, -, -⟩ := recorded_beside (run (unitBody Bench.driver s work) s).2
    (run (unitBody Bench.driver s work) s).1
  rw [State.contents, State.ledger?, hwire]
  by_cases hstart : s.Starts Bench.driver c
  · obtain ⟨l, hl⟩ := hstart.exists_ledger hhas
    obtain ⟨l₁, l', result, -, -, hresult, -, -, hl', hidle, hsettled, -⟩ :=
      unitBody_ends hE hc hl hstart fun f => hwork f _
    cases result with
    | error e =>
        left
        rw [State.contents, hl]
        rw [show Bench.ledger? c _ = some l' from hl']
        exact congrArg some hsettled.of_error
    | ok a => exact .inr ⟨a, by rw [hresult]; rfl, fun hout => ⟨l', hl', hidle hout⟩⟩
  · exact .inl (unitBody_refused hE hc hhas hstart)

end

/-- What follows the unit in which a staged file was loaded. -/
def afterLoad {Address World : Type} (D : Driver Address World) (table : String) (count : Nat)
    (st : Settings) : Option Nat → Act World Output
  | none => return .bool false
  | some position => do
    match ← maxId D table st with
    | none => return .bool true
    | some last =>
      amendEntry position fun entry =>
        { entry with insertId := some last, insertIds := idsUpTo last count }
      noteOverflow (startsBeyond last count)
      return .bool true

/-- Rows come to an end where they are ragged, where the overrides are rejected and where a value
cannot be secured; or they make one statement or one staged batch. -/
theorem run_insertRows_of_override {Address World : Type} {D : Driver Address World}
    {s : State World} {table : String} {columns : List String} {rows : List (List Cell)}
    (hsome : rows ≠ []) (changes : Overrides) :
    run (Session.insertRows D table columns rows changes) s =
      match ragged? columns.length rows,
        (s.session.currentSettings s.defaults).override changes with
      | some (i, row), _ => (.error (.value (.raggedRow i row.length columns.length)), s)
      | none, .error e => (.error e, s)
      | none, .ok st =>
        if fitsInline st rows.length then
          match Batch.statement st table columns rows with
          | .error e => (.error e, s)
          | .ok sql => run (Session.run D sql st) s
        else run (bulkLoad D table columns rows st) s := by
  have hfull : rows.isEmpty = false := List.isEmpty_eq_false_iff.mpr hsome
  unfold Session.insertRows
  rw [hfull]
  simp only [Bool.false_eq_true, if_false]
  cases ragged? columns.length rows with
  | some place => rfl
  | none =>
      dsimp only
      rw [run_bind, run_effective]
      cases (s.session.currentSettings s.defaults).override changes with
      | error e => rfl
      | ok st =>
          dsimp only
          split
          · cases Batch.statement st table columns rows with
            | error e => rfl
            | ok sql => rfl
          · rfl

/-- A driver that does not load files is asked for nothing. -/
theorem run_bulkLoad_of_missing {Address World : Type} {D : Driver Address World} {s : State World}
    (hc : s.session.connection = some c)
    (hbulk : (D.capabilities c s.wire.world).bulkLoad = false) (table : String)
    (columns : List String) (rows : List (List Cell)) (st : Settings) :
    run (bulkLoad D table columns rows st) s = (.error (.missingCapability .bulkLoad), s) := by
  unfold bulkLoad
  rw [run_connected_bind hc, run_get_bind, hbulk]
  rfl

/-- A large batch is staged, loaded in a unit, and followed by the query for its ids. -/
theorem run_bulkLoad {Address World : Type} {D : Driver Address World} {s : State World}
    (hc : s.session.connection = some c)
    (hbulk : (D.capabilities c s.wire.world).bulkLoad = true) (table : String)
    (columns : List String) (rows : List (List Cell)) (st : Settings) :
    run (bulkLoad D table columns rows st) s =
      match Batch.stage rows with
      | .error e => (.error e, s)
      | .ok contents =>
        run (transact D st.throwErrors
            (loadStaged D (.staged (stagedPath (s.clock 0)) table columns contents) st) >>=
          afterLoad D table rows.length st) s.ticked := by
  unfold bulkLoad
  rw [run_connected_bind hc, run_get_bind]
  simp only [hbulk, not_true_eq_false, if_false]
  cases Batch.stage rows with
  | error e => rfl
  | ok contents => rfl

/-- The state with the ids of a batch in the entry at a position, if the last of them was found.
They may have been reckoned from beyond the 64-bit integers. -/
def State.withLast {World : Type} (s : State World) (position count : Nat) :
    Option Int64 → State World
  | none => s
  | some last => (run (amendEntry position fun entry =>
      { entry with insertId := some last, insertIds := idsUpTo last count }) s).2.reckoned
        (startsBeyond last count)

theorem State.beside_withLast {World : Type} (s : State World) (position count : Nat)
    (last : Option Int64) : Beside s (s.withLast position count last) := by
  cases last <;> exact ⟨rfl, rfl, rfl, rfl, rfl, rfl⟩

section

variable {Address World : Type} {D : Driver Address World} {s asked : State World}
variable {table : String} {st : Settings}

/-- The error of the query for the largest id is the batch's. -/
theorem run_afterLoad_of_error {e : Error} (h : run (maxId D table st) s = (.error e, asked))
    (count position : Nat) :
    run (afterLoad D table count st (some position)) s = (.error e, asked) :=
  run_bind_of_error h

/-- What the query for the largest id finds goes into the entry of the load. -/
theorem run_afterLoad_of_ok {last : Option Int64} (h : run (maxId D table st) s = (.ok last, asked))
    (count position : Nat) :
    run (afterLoad D table count st (some position)) s =
      (.ok (.bool true), asked.withLast position count last) := by
  unfold afterLoad
  rw [run_bind_of_ok h]
  cases last <;> rfl

end

/-- The settings under which the largest id is asked for. -/
def bareValue (st : Settings) : Settings :=
  { st with omitSingleKey := true, rowsIndexed := false, throwErrors := true }

/-- The query for the largest id is a statement after which the newest entry is taken back. -/
theorem run_maxId {Address World : Type} {D : Driver Address World} (table : String)
    (st : Settings) (s : State World) :
    run (maxId D table st) s =
      ((run (Session.run D (maxIdStatement table) (bareValue st)) s).1.map fun output =>
          output.scalar?.bind Cell.int?,
        { (run (Session.run D (maxIdStatement table) (bareValue st)) s).2 with
          session :=
            { (run (Session.run D (maxIdStatement table) (bareValue st)) s).2.session with
              log := (run (Session.run D (maxIdStatement table)
                (bareValue st)) s).2.session.log.dropLast } }) := by
  unfold maxId bareValue
  rw [run_observe_bind, run_updateSession_bind]
  cases (run (Session.run D (maxIdStatement table) _) s).1 <;> rfl

/-- The rows were loaded and their unit has ended, which leaves no transaction behind where it was
the outermost one.  Then the query for the largest id failed, and its error is the batch's. -/
inductive FailsAfterLoad (c : ConnId) (table : String) (columns : List String)
    (rows : List (List Cell)) (st : Settings) (s : State (Bench E)) :
    Except Error Output × State (Bench E) → Prop
  | intro {contents : String} {position : Nat} {loaded ended : State (Bench E)} {e : Error}
      (hstaged : Batch.stage rows = .ok contents)
      (hloaded : run (transact Bench.driver st.throwErrors (loadStaged Bench.driver
          (.staged (stagedPath (s.clock 0)) table columns contents) st)) s.ticked =
        (.ok (some position), loaded))
      (hkept : s.session.scopes = [] →
        ∃ l, loaded.ledger? c = some l ∧ l.transaction = none)
      (hquery : (run (maxId Bench.driver table st) loaded).1 = .error e)
      (hended : ended.contents c = loaded.contents c) :
      FailsAfterLoad c table columns rows st s (.error e, ended)

section

variable {s : State (Bench E)} (hE : E.Transactional) (hcareful : E.Careful)
variable (hreturning : E.Returning) (hc : s.session.connection = some c)
variable (hcandid : s.wire.world.HasCandid c fun _ => True)

include hc hcandid

include hcareful hreturning in
/-- A query for the largest id that fails leaves the tables as they were. -/
theorem maxId_barren {table : String} {st : Settings} {e : Error}
    (hfail : (run (maxId Bench.driver table st) s).1 = .error e) :
    (run (maxId Bench.driver table st) s).2.contents c = s.contents c := by
  have hrun := run_maxId (D := Bench.driver) table st s
  rw [hrun] at hfail ⊢
  have herror : ∃ e, (run (Session.run Bench.driver (maxIdStatement table)
      (bareValue st)) s).1 = .error e := by
    cases hresult : (run (Session.run Bench.driver (maxIdStatement table)
      (bareValue st)) s).1 with
    | error e' => exact ⟨e', rfl⟩
    | ok output =>
        rw [hresult] at hfail
        cases hfail
  have hbarren := run_barren hcareful hreturning hc (hasCandid_contents hcandid) (.inr herror)
  exact State.contents_eq hbarren.has

include hE hcareful in
/-- The unit that a file is loaded in keeps the tables, or ends with the file loaded. -/
theorem unit_of_load_kept (file : Batch.Load) (st : Settings) :
    (run (transact Bench.driver st.throwErrors (loadStaged Bench.driver file st)) s).2.contents c =
        s.contents c ∨
      ∃ position, (run (transact Bench.driver st.throwErrors
          (loadStaged Bench.driver file st)) s).1 = .ok (some position) ∧
        (s.session.scopes = [] → ∃ l,
          (run (transact Bench.driver st.throwErrors
            (loadStaged Bench.driver file st)) s).2.ledger? c = some l ∧
          l.transaction = none) :=
  transact_kept hE hc hcandid.has
    (fun f => (Standing.undisturbed hE hcareful c).loadStaged (f, [])
      (Standing.onWire fun _ => Bench.keeps_load hE hcareful file) st) st.throwErrors

/-- The session stays on the connection in that unit. -/
theorem onConnection_unit_of_load (file : Batch.Load) (st : Settings) :
    OnConnection c (Bench.HasCandid (E := E) c fun _ => True)
      (run (transact Bench.driver st.throwErrors (loadStaged Bench.driver file st)) s).2 := by
  have hrequests : (Bench.driver (E := E)).KeptByRequests c (Bench.HasCandid c fun _ => True) :=
    fun r b hb => hb.respond (Q := fun _ => Bench.HasCandid c fun _ => True)
      (fun _ _ _ hb' => hb') fun _ _ _ hb' => hb'.mono fun _ _ => trivial
  have hload := (undisturbed_of_requests hrequests).loadStaged ()
    (OnConnection.onWire (hrequests.load file)) st
  exact (OnConnection.outlives_steering hrequests).transact hload st.throwErrors s ⟨hc, hcandid⟩

include hE hcareful hreturning

/-- A staged batch that fails leaves the tables as they were, or fails after its load. -/
theorem bulkLoad_failed {table : String} {columns : List String} {rows : List (List Cell)}
    {st : Settings}
    (hfail : (run (bulkLoad Bench.driver table columns rows st) s).1 = .ok (.bool false) ∨
      ∃ e, (run (bulkLoad Bench.driver table columns rows st) s).1 = .error e) :
    (run (bulkLoad Bench.driver table columns rows st) s).2.contents c = s.contents c ∨
      FailsAfterLoad c table columns rows st s
        (run (bulkLoad Bench.driver table columns rows st) s) := by
  have hoffered : (Bench.driver.capabilities c s.wire.world).bulkLoad = true := by
    rw [hcandid.capabilities]
    rfl
  have hrun := run_bulkLoad hc hoffered table columns rows st
  cases hstaged : Batch.stage rows with
  | error e =>
      rw [hstaged] at hrun
      rw [hrun]
      exact .inl rfl
  | ok contents =>
      rw [hstaged] at hrun
      dsimp only at hrun
      let file : Batch.Load := .staged (stagedPath (s.clock 0)) table columns contents
      have hafter := unit_of_load_kept (s := s.ticked) hE hcareful hc hcandid file st
      have hon := onConnection_unit_of_load (s := s.ticked) hc hcandid file st
      -- The unit fails, answers nothing, or ends with its rows loaded; only the last can lead to
      -- a failure that leaves them.
      rcases htransact : run (transact Bench.driver st.throwErrors
          (loadStaged Bench.driver file st)) s.ticked with ⟨e | position, loaded⟩
      · rw [htransact] at hafter
        rw [hrun, run_bind_of_error htransact]
        rcases hafter with hkept | ⟨a, ha, -⟩
        · exact .inl hkept
        · cases ha
      · rw [htransact] at hafter hon
        rw [hrun, run_bind_of_ok htransact] at hfail ⊢
        cases position with
        | none =>
            rcases hafter with hkept | ⟨a, ha, -⟩
            · exact .inl hkept
            · cases ha
        | some position =>
            rcases hmax : run (maxId Bench.driver table st) loaded with ⟨e | last, ended⟩
            · have hbarren := maxId_barren hcareful hreturning hon.1 hon.2 (congrArg Prod.fst hmax)
              rw [hmax] at hbarren
              rw [run_afterLoad_of_error hmax]
              rcases hafter with hkept | ⟨a, -, hidle⟩
              · exact .inl (hbarren.trans hkept)
              · exact .inr (.intro hstaged htransact hidle (congrArg Prod.fst hmax) hbarren)
            · rw [run_afterLoad_of_ok hmax] at hfail
              rcases hfail with hfail | ⟨e, hfail⟩
              · cases hfail
              · cases hfail

/-- A batch that fails leaves the tables as they were, whatever it failed for, except that it may
fail after its rows were loaded and kept. -/
theorem failed_insert {table : String} {columns : List String} {rows : List (List Cell)}
    {changes : Overrides}
    (hfail : (run (Session.insertRows Bench.driver table columns rows changes) s).1 =
        .ok (.bool false) ∨
      ∃ e, (run (Session.insertRows Bench.driver table columns rows changes) s).1 = .error e) :
    (run (Session.insertRows Bench.driver table columns rows changes) s).2.contents c =
        s.contents c ∨
      ∃ settings, (s.session.currentSettings s.defaults).override changes = .ok settings ∧
        fitsInline settings rows.length = false ∧
        FailsAfterLoad c table columns rows settings s
          (run (Session.insertRows Bench.driver table columns rows changes) s) := by
  by_cases hsome : rows = []
  · subst hsome
    exact .inl rfl
  rw [run_insertRows_of_override hsome] at hfail ⊢
  cases hragged : ragged? columns.length rows with
  | some place => exact .inl rfl
  | none =>
      rw [hragged] at hfail
      cases hset : (s.session.currentSettings s.defaults).override changes with
      | error e => exact .inl rfl
      | ok settings =>
          rw [hset] at hfail
          dsimp only at hfail ⊢
          cases hfits : fitsInline settings rows.length with
          | true =>
              rw [hfits, if_pos rfl] at hfail
              rw [if_pos rfl]
              left
              cases hsql : Batch.statement settings table columns rows with
              | error e => rfl
              | ok sql =>
                  rw [hsql] at hfail
                  have hbarren :=
                    run_barren hcareful hreturning hc (hasCandid_contents hcandid) hfail
                  exact State.contents_eq hbarren.has
          | false =>
              rw [hfits, if_neg Bool.false_ne_true] at hfail
              rw [if_neg Bool.false_ne_true]
              rcases bulkLoad_failed hE hcareful hreturning hc hcandid hfail with hkept | hafter
              · exact .inl hkept
              · exact .inr ⟨settings, rfl, hfits, hafter⟩

end

/-- A batch that is staged, and that holds bytes. -/
theorem failed_insert_of_bytes :
    let store : Engine.Store := .opened [⟨"t", ["a"], none, [⟨1, [.null]⟩]⟩]
    let embedded : Embedded Engine.small := { Embedded.opened none with store := some store }
    let s : State (Bench Engine.small) :=
      { wire := ⟨⟨[⟨⟨[], [], [], [], none, [], false⟩, .embedded embedded, ""⟩]⟩, []⟩
        session :=
          { Session.new with
            connection := some 0
            settings := some { Settings.builtin with maxInsertRows := 0 } }
        defaults := .builtin
        clock := id
        reports := [] }
    let insert := Session.insertRows Bench.driver "t" ["a"] [[.blob [10]]] .none
    (Engine.small.Transactional ∧ Engine.small.Careful ∧ Engine.small.Returning) ∧
      s.wire.world.HasCandid 0 (fun _ => True) ∧
      (run insert s).1 = .error (.value .blobInBulk) ∧
      (run insert s).2.contents 0 = some store.ledger.contents := by
  intro store embedded s insert
  have hcandid : s.wire.world.HasCandid 0 fun _ => True :=
    ⟨_, _, rfl, ⟨rfl, rfl⟩, rfl, trivial⟩
  have hfailed : (run insert s).1 = .error (.value .blobInBulk) := rfl
  refine ⟨⟨Engine.small_transactional, Engine.small_careful, Engine.small_returning⟩, hcandid,
    hfailed, ?_⟩
  rcases failed_insert Engine.small_transactional Engine.small_careful Engine.small_returning
    (c := 0) (s := s) rfl hcandid (.inr ⟨_, hfailed⟩) with hkept | hafter
  · exact hkept
  · obtain ⟨settings, -, -, hafter⟩ := hafter
    cases hafter with
    | intro hstaged => cases hstaged

end SlotQuery
