import SlotQuery.Proofs.Number.Integer
import SlotQuery.Proofs.Session.Loading

/-!
# Ranges of ids at the ends of 64 bits

The ids of an entry are consecutive integers, reckoned in 64 bits from one end of the range.  An
insert knows the first id and goes up to an end that is left out; a staged batch finds the last id
and goes down to the one in front of its first.  Either integer is one too many: it may be none in
64 bits though all of the ids are, and then the program stops and records nothing.

An insert of several rows stops exactly if its last id is the largest integer (`endsBeyond_iff`), a
batch exactly if its first id is the least one (`startsBeyond_iff`).  Where the program goes on, the
ids are the right ones (`LogEntry.records_withIds` and `records_idsUpTo`), except that there are
never more of them than the largest integer says.  `recorded_ids` has both ways, for every range
that 64 bits can hold.
-/

namespace SlotQuery

open Act Session
open Number

/-- Consecutive integers, so many from the first on. -/
def consecutive (first : Int) (count : Nat) : List Int :=
  (List.range count).map fun i : Nat => first + i

/-- Ids are the same if they are the same integers. -/
theorem integers_injective : Function.Injective (List.map Int64.toInt) :=
  List.map_injective_iff.mpr fun _ _ h => Int64.toInt_inj.mp h

theorem length_consecutive (first : Int) (count : Nat) :
    (consecutive first count).length = count := by
  rw [consecutive, List.length_map, List.length_range]

/-- The entry holds the id that the database named, and the ids of so many rows from the first one
on.  If these are more than the largest integer says, it holds as many as that from another one
on. -/
structure LogEntry.Records (e : LogEntry) (named : Int64) (first cut : Int) (count : Nat) :
    Prop where
  named : e.insertId = some named
  exact_iff : e.insertIds.map Int64.toInt = consecutive first count ↔
    count ≤ Int64.maxValue.toInt
  limited : Int64.maxValue.toInt < count →
    e.insertIds.map Int64.toInt = consecutive cut Int64.maxValue.toInt.toNat

section

variable {first last stop : Int64} {count : Nat}

/-- Ids that stay below the end of the 64-bit integers are consecutive integers. -/
theorem integers_idsFrom (h : first.toInt + count ≤ Int64.maxValue.toInt + 1) :
    (idsFrom first count).map Int64.toInt = consecutive first.toInt count := by
  rw [idsFrom, consecutive, List.map_map]
  refine List.map_congr_left fun i hi => ?_
  have hbelow := List.mem_range.mp hi
  exact toInt_add_ofNat (by omega)

/-- Up to an end that is left out, no integer is passed over. -/
theorem integers_idsBefore (first stop : Int64) :
    (idsBefore first stop).map Int64.toInt =
      consecutive first.toInt (stop.toInt - first.toInt).toNat := by
  have hstop := stop.toInt_le
  have hfirst := first.toInt_le
  exact integers_idsFrom (by omega)

/-- Up to an end that is included, no integer is passed over. -/
theorem integers_idsThrough (first last : Int64) :
    (idsThrough first last).map Int64.toInt =
      consecutive first.toInt (last.toInt - first.toInt + 1).toNat := by
  have hlast := last.toInt_le
  have hfirst := first.toInt_le
  exact integers_idsFrom (by omega)

/-- So many ids as the largest integer allows are all of the ids if there are no more. -/
theorem LogEntry.Records.of_saturated {e : LogEntry} {named : Int64} {start : Int}
    (hnamed : e.insertId = some named)
    (hids : e.insertIds.map Int64.toInt = consecutive start (saturated count).toInt.toNat)
    {first cut : Int} (hfirst : count ≤ Int64.maxValue.toInt → start = first)
    (hcut : Int64.maxValue.toInt < count → start = cut) :
    e.Records named first cut count := by
  have hvalue := toInt_saturated count
  have hmax := toInt_maxValue
  refine ⟨hnamed, ⟨fun h => ?_, fun h => ?_⟩, fun hlarge => ?_⟩
  · have hlength := congrArg List.length (hids.symm.trans h)
    rw [length_consecutive, length_consecutive] at hlength
    omega
  · rw [hids, toInt_saturated_of_le h, hfirst h, Int.toNat_natCast]
  · have hcounted : (saturated count).toInt = Int64.maxValue.toInt := by omega
    rw [hids, hcut hlarge, hcounted]

/-- Of an insert whose ids 64 bits can hold, the end that is left out is beyond them only where the
last id is the largest integer. -/
theorem endsBeyond_iff (hrange : first.toInt + count - 1 ≤ Int64.maxValue.toInt) :
    endsBeyond first count = true ↔
      1 < count ∧ count ≤ Int64.maxValue.toInt ∧
        first.toInt + count - 1 = Int64.maxValue.toInt := by
  have hvalue := toInt_saturated count
  have hmax := toInt_maxValue
  have hmin := toInt_minValue
  have hlow := first.le_toInt
  unfold endsBeyond
  rw [Bool.and_eq_true, decide_eq_true_iff, decide_eq_true_iff, one_lt_saturated, FitsInt64]
  omega

/-- What is recorded of an insert, where the end of its range is a 64-bit integer or there is a
single row. -/
theorem LogEntry.records_withIds (e : LogEntry) (hcount : 0 < count)
    (hwithin : endsBeyond first count = false) :
    (e.withIds first count).Records first first.toInt first.toInt count := by
  have hvalue := toInt_saturated count
  have hmax := toInt_maxValue
  suffices hids : (e.withIds first count).insertIds.map Int64.toInt =
      consecutive first.toInt (saturated count).toInt.toNat from
    .of_saturated rfl hids (fun _ => rfl) fun _ => rfl
  unfold withIds
  dsimp only
  by_cases hsingle : count = 1
  · have hcounted : (saturated count).toInt.toNat = 1 := by omega
    rw [if_neg (fun h => Nat.ne_of_gt (one_lt_saturated.mp h) hsingle), hcounted, consecutive,
      List.range_one, List.map_singleton, List.map_singleton]
    exact congrArg (fun i => [i]) (Int.add_zero first.toInt).symm
  · have hmany : 1 < count := by omega
    unfold endsBeyond at hwithin
    simp only [one_lt_saturated, hmany, decide_true, Bool.true_and, decide_eq_false_iff_not,
      Decidable.not_not] at hwithin
    rw [if_pos (one_lt_saturated.mpr hmany), integers_idsBefore, toInt_add_of_fits hwithin]
    congr 2
    omega

/-- Of a batch whose ids 64 bits can hold, the integer in front of the first one is beyond them only
where the first id is the least integer. -/
theorem startsBeyond_iff (hrange : Int64.minValue.toInt ≤ last.toInt - count + 1) :
    startsBeyond last count = true ↔
      count ≤ Int64.maxValue.toInt ∧ last.toInt - count + 1 = Int64.minValue.toInt := by
  have hvalue := toInt_saturated count
  have hmax := toInt_maxValue
  have hmin := toInt_minValue
  have hhigh := last.toInt_le
  rw [startsBeyond, decide_eq_true_iff, FitsInt64]
  omega

/-- The ids that are reckoned back from the last one, where the integer in front of the first is a
64-bit integer.  The step from there to the first cannot fail. -/
theorem LogEntry.records_idsUpTo (e : LogEntry) (hcount : 0 < count)
    (hwithin : startsBeyond last count = false) :
    (e.reckoned count (some last)).Records last (last.toInt - count + 1)
      (last.toInt - Int64.maxValue.toInt + 1) count := by
  have hvalue := toInt_saturated count
  have hmax := toInt_maxValue
  have hhigh := last.toInt_le
  have hfits : FitsInt64 (last.toInt - (saturated count).toInt) := by
    unfold startsBeyond at hwithin
    exact Decidable.not_not.mp (decide_eq_false_iff_not.mp hwithin)
  have hfirst : (last - saturated count + 1).toInt =
      last.toInt - (saturated count).toInt + 1 := by
    have hsub := toInt_sub_of_fits hfits
    obtain ⟨hlow, -⟩ := hfits
    rw [toInt_add_of_fits, hsub, Int64.toInt_one]
    rw [hsub, Int64.toInt_one, FitsInt64]
    omega
  have hids : (idsUpTo last count).map Int64.toInt =
      consecutive (last.toInt - (saturated count).toInt + 1) (saturated count).toInt.toNat := by
    rw [idsUpTo, integers_idsThrough, hfirst]
    congr 1
    omega
  exact .of_saturated rfl hids (fun h => by omega) fun h => by omega

end

variable {Address World : Type}

/-- A statement that inserts was run on the connection of a session, and the connection shows how
many rows it concerned and the first id. -/
structure FoundFirst (D : Driver Address World) (c : ConnId) (sql : String) (st : Settings)
    (s : State World) (reply : Reply) (count : Nat) (first : Int64) : Prop where
  running : s.overflowed = false
  connection : s.session.connection = some c
  found : ∃ p w, Template.prepare st sql = .ok p ∧ Batch.isInsert p.sql = true ∧
    performUnder D st.charset c p s.wire = (.ok reply, w) ∧
    D.affected c w.world = count ∧ D.lastInsertId c w.world = first

/-- The ids of the rows are reckoned from the first one. -/
theorem FoundFirst.run {D : Driver Address World} {c : ConnId} {sql : String} {st : Settings}
    {s : State World} {reply : Reply} {count : Nat} {first : Int64}
    (h : FoundFirst D c sql st s reply count first) (hcount : 0 < count) :
    (Act.run (Session.run D sql st) s).1 = .ok (shape st reply) ∧
      (Act.run (Session.run D sql st) s).2.overflowed = endsBeyond first count ∧
      ∃ entry : LogEntry, (Act.run (Session.run D sql st) s).2.session.log =
        s.session.log ++ [entry.withIds first count] := by
  obtain ⟨hrunning, hc, p, w, hp, hinsert, hsent, rfl, rfl⟩ := h
  rw [run_eq_runOn hp hc, run_runOn_eq sql st p hsent]
  refine ⟨rfl, ?_, ?_⟩
  · show (s.overflowed || answeredBeyond p.sql (D.affected c w.world)
      (D.lastInsertId c w.world)) = _
    rw [hrunning, answeredBeyond, hinsert, decide_eq_true hcount]
    rfl
  · unfold LogEntry.concluded answered
    dsimp only
    rw [if_pos ⟨hcount, hinsert⟩]
    exact ⟨_, rfl⟩

/-- A large batch was staged on the connection of a session, its file was loaded in a unit that has
kept that, and the query for the largest id has found one. -/
structure FoundLast (D : Driver Address World) (c : ConnId) (table : String) (columns : List String)
    (rows : List (List Cell)) (st : Settings) (s : State World) (last : Int64) : Prop where
  connection : s.session.connection = some c
  offered : (D.capabilities c s.wire.world).bulkLoad = true
  found : ∃ contents position loaded asked, Batch.stage rows = .ok contents ∧
    run (transact D st.throwErrors
      (loadStaged D (.staged (stagedPath (s.clock 0)) table columns contents) st)) s.ticked =
        (.ok (some position), loaded) ∧
    run (maxId D table st) loaded = (.ok (some last), asked) ∧
    asked.overflowed = false

/-- What three runs come to is that the last id was found. -/
theorem FoundLast.of_runs {D : Driver Address World} {c : ConnId} {table : String}
    {columns : List String} {rows : List (List Cell)} {st : Settings} {s : State World}
    {last : Int64} (hc : s.session.connection = some c)
    (hoffered : (D.capabilities c s.wire.world).bulkLoad = true) (contents : String)
    (position : Nat) (hstage : Batch.stage rows = .ok contents)
    (hfound :
      let loading := run (transact D st.throwErrors
        (loadStaged D (.staged (stagedPath (s.clock 0)) table columns contents) st)) s.ticked
      let asking := run (maxId D table st) loading.2
      loading.1 = .ok (some position) ∧ asking.1 = .ok (some last) ∧
        asking.2.overflowed = false) :
    FoundLast D c table columns rows st s last :=
  ⟨hc, hoffered, contents, position, _, _, hstage, Prod.ext hfound.1 rfl, Prod.ext hfound.2.1 rfl,
    hfound.2.2⟩

/-- The entry of such a batch is there, with the ids reckoned back from the last one. -/
theorem FoundLast.run_bulkLoad {D : Driver Address World} {c : ConnId} {table : String}
    {columns : List String} {rows : List (List Cell)} {st : Settings} {s : State World}
    {last : Int64} (h : FoundLast D c table columns rows st s last) :
    (run (bulkLoad D table columns rows st) s).1 = .ok (.bool true) ∧
      (run (bulkLoad D table columns rows st) s).2.overflowed = startsBeyond last rows.length ∧
      ∃ entry : LogEntry, (run (bulkLoad D table columns rows st) s).2.session.log =
        s.session.log ++ [entry.reckoned rows.length (some last)] := by
  obtain ⟨hc, hbulk, contents, position, loaded, asked, hstage, hrun, hmax, hrunning⟩ := h
  have hloaded := transact_loadStaged (D := D) (s := s.ticked) hc
    (.staged (stagedPath (s.clock 0)) table columns contents) st st.throwErrors
  have hconn := connection_of_loading (D := D) (s := s.ticked) hc
    (.staged (stagedPath (s.clock 0)) table columns contents) st st.throwErrors
  rw [hrun] at hloaded hconn
  cases hloaded with
  | loaded hstart hadded hsent hvalue =>
      obtain ⟨rfl, -⟩ := hvalue position rfl
      obtain ⟨entry, hadded⟩ : ∃ entry, Added [entry] s.ticked loaded := ⟨_, hadded⟩
      cases hp : Template.prepare st (maxIdStatement table) with
      | error e =>
          rw [maxId_of_rejected hp] at hmax
          cases (Prod.mk.inj hmax).1
      | ok p =>
          have hquery := maxId_added (D := D) hconn hp
          rw [hmax] at hquery
          rw [SlotQuery.run_bulkLoad hc hbulk, hstage]
          dsimp only
          rw [run_bind_of_ok hrun]
          rw [run_afterLoad_of_ok hmax]
          refine ⟨rfl, ?_, entry, ?_⟩
          · show (asked.overflowed || startsBeyond last rows.length) = _
            rw [hrunning, Bool.false_or]
          · show asked.session.log.modify _ _ = _
            rw [(hadded.trans hquery).log]
            exact modify_length_append _ _ _

/-- Of every insert and every batch whose ids 64 bits can hold, the id that the database named is
recorded together with the ids, unless the program stops.  As long as the rows are no more than the
largest integer, it stops at an insert of several rows whose last id is that integer, and at a batch
whose first id is the least one; where it goes on, exactly the ids are recorded.  Of more rows it
records as many ids as the largest integer says: the first ones of an insert, the last ones of a
batch. -/
theorem recorded_ids (D : Driver Address World) (c : ConnId) (s : State World) (st : Settings) :
    (∀ (e : LogEntry) (first : Int64) (count : Nat), 0 < count →
      first.toInt + count - 1 ≤ Int64.maxValue.toInt →
        (endsBeyond first count = true ↔
          1 < count ∧ count ≤ Int64.maxValue.toInt ∧
            first.toInt + count - 1 = Int64.maxValue.toInt) ∧
        (endsBeyond first count = false →
          (e.withIds first count).Records first first.toInt first.toInt count)) ∧
    (∀ (sql : String) (reply : Reply) (first : Int64) (count : Nat),
      FoundFirst D c sql st s reply count first → 0 < count →
      first.toInt + count - 1 ≤ Int64.maxValue.toInt →
        ((run (Session.run D sql st) s).2.overflowed = true ↔
          1 < count ∧ count ≤ Int64.maxValue.toInt ∧
            first.toInt + count - 1 = Int64.maxValue.toInt) ∧
        ((run (Session.run D sql st) s).2.overflowed = false →
          (run (Session.run D sql st) s).1 = .ok (shape st reply) ∧
          ∃ entry : LogEntry, (run (Session.run D sql st) s).2.session.log =
              s.session.log ++ [entry] ∧
            entry.Records first first.toInt first.toInt count)) ∧
    ∀ (table : String) (columns : List String) (rows : List (List Cell)) (last : Int64),
      FoundLast D c table columns rows st s last → rows ≠ [] →
      Int64.minValue.toInt ≤ last.toInt - rows.length + 1 →
        ((run (bulkLoad D table columns rows st) s).2.overflowed = true ↔
          rows.length ≤ Int64.maxValue.toInt ∧
            last.toInt - rows.length + 1 = Int64.minValue.toInt) ∧
        ((run (bulkLoad D table columns rows st) s).2.overflowed = false →
          (run (bulkLoad D table columns rows st) s).1 = .ok (.bool true) ∧
          ∃ entry : LogEntry, (run (bulkLoad D table columns rows st) s).2.session.log =
              s.session.log ++ [entry] ∧
            entry.Records last (last.toInt - rows.length + 1)
              (last.toInt - Int64.maxValue.toInt + 1) rows.length) := by
  refine ⟨fun e first count hcount hrange => ?reckoning, fun sql reply first count hfound hcount
    hrange => ?insert, fun table columns rows last hfound hrows hrange => ?batch⟩
  case reckoning => exact ⟨endsBeyond_iff hrange, e.records_withIds hcount⟩
  case insert =>
    obtain ⟨hanswer, hflag, entry, hlog⟩ := hfound.run hcount
    rw [hflag]
    exact ⟨endsBeyond_iff hrange, fun hwithin =>
      ⟨hanswer, _, hlog, entry.records_withIds hcount hwithin⟩⟩
  case batch =>
    obtain ⟨hanswer, hflag, entry, hlog⟩ := hfound.run_bulkLoad
    rw [hflag]
    exact ⟨startsBeyond_iff hrange, fun hwithin =>
      ⟨hanswer, _, hlog, entry.records_idsUpTo (List.length_pos_iff.mpr hrows) hwithin⟩⟩

/-- An insert of the two largest integers and a batch of the two least ones stop the program; a
batch of one row less does not. -/
theorem recorded_ids_at_both_ends :
    let scenario : Scenario :=
      { capabilities := .all
        database := ""
        failures := []
        rowSets := [("MAX(", ⟨some ["id"], [⟨["id"], [.int (Int64.minValue + 1)]⟩]⟩)]
        insertId := Int64.maxValue - 1
        insertCount := 2 }
    let D := Bench.driver (E := Engine.small)
    let s : State (Bench Engine.small) :=
      { wire := ⟨⟨[⟨default, .scripted (.opened scenario), ""⟩]⟩, []⟩
        session := { Session.new with connection := some 0 }
        defaults := .builtin
        clock := id
        reports := [] }
    (run (Session.run D "INSERT INTO t VALUES (1), (2)" .builtin) s).2.overflowed = true ∧
      (run (bulkLoad D "t" ["a"] [[.int 1], [.int 2]] .builtin) s).2.overflowed = true ∧
      (run (bulkLoad D "t" ["a"] [[.int 1]] .builtin) s).2.session.log.map
        (fun e => e.insertIds.map Int64.toInt) = [[Int64.minValue.toInt + 1]] := by
  intro scenario D s
  let p : Template.Prepared := ⟨"INSERT INTO t VALUES (1), (2)", []⟩
  have hsent : (performUnder D Settings.builtin.charset 0 p s.wire).1 = .ok (.done true) := by
    decide +kernel
  have hfirst : FoundFirst D 0 "INSERT INTO t VALUES (1), (2)" .builtin s (.done true) 2
      (Int64.maxValue - 1) :=
    { running := rfl
      connection := rfl
      found := ⟨p, _, by decide +kernel, by decide +kernel, Prod.ext hsent rfl,
        by decide +kernel, by decide +kernel⟩ }
  obtain ⟨-, hinsert, hbatch⟩ := recorded_ids D 0 s .builtin
  obtain ⟨hstops, -⟩ := hinsert _ _ _ 2 hfirst (by decide) (by decide)
  obtain ⟨hstopsBatch, -⟩ := hbatch "t" ["a"] [[.int 1], [.int 2]] (Int64.minValue + 1)
    (.of_runs rfl rfl "1\n2\n" 0 (by decide +kernel) (by decide +kernel)) (by decide) (by decide)
  obtain ⟨hstopsSingle, hrecords⟩ := hbatch "t" ["a"] [[.int 1]] (Int64.minValue + 1)
    (.of_runs rfl rfl "1\n" 0 (by decide +kernel) (by decide +kernel)) (by decide) (by decide)
  refine ⟨hstops.mpr (by decide), hstopsBatch.mpr (by decide), ?_⟩
  obtain ⟨-, entry, hlog, hentry⟩ := hrecords (Bool.eq_false_iff.mpr fun h =>
    absurd (hstopsSingle.mp h) (by decide))
  have hnew : s.session.log = [] := rfl
  rw [hlog, hnew, List.nil_append, List.map_singleton, hentry.exact_iff.mpr (by decide)]
  rfl

end SlotQuery
