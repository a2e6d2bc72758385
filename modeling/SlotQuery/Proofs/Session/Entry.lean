import SlotQuery.Proofs.Result.Shape
import SlotQuery.Session.Insertion

/-!
# What a completed entry says

An entry of the log is made before its statement runs and is completed once, by the outcome: by the
reply to a statement (`concluded`), or by the number of rows that a script has changed or a file has
brought (`counted`).  The ids of a loaded file are recorded later (`reckoned`).

`Consistent` says how the parts of a completed entry fit together, and each of the three completions
has this property: `consistent_concluded`, `consistent_counted`, `Consistent.reckoned`.  Ids that
were not generated by an insert belong to a load, which the trace of the wire has to bear out.
-/

namespace SlotQuery

/-- A shaped reply stands for as many rows as came back. -/
theorem Session.rowCount_shape (st : Settings) (reply : Reply) :
    (shape st reply).rowCount = replyRows reply := by
  cases reply with
  | rows set => exact Output.rowCount_ofRows st set.rows
  | done ok => rfl

namespace LogEntry

/-- The entry is of a staged file that some connection was asked to load. -/
def OfLoad (trace : List Event) (e : LogEntry) : Prop :=
  ∃ c file, .sent c (.load file) ∈ trace ∧ e.query = file.statement ∧
    e.statement = file.statement ∧ e.params = []

/-- The entry is complete, and its parts fit together. -/
structure Consistent (trace : List Event) (e : LogEntry) : Prop where
  /-- A letter for each parameter, in its place. -/
  types : e.paramTypes.toList = e.params.map fun p => p.type.tag
  completed : e.result ≠ none
  /-- An error leaves nothing to count. -/
  failed : e.error ≠ none → e.result = some (.bool false) ∧ e.affected = 0 ∧ e.rowCount = 0 ∧
    e.insertId = none ∧ e.insertIds = []
  rows : e.error = none → ∀ output, e.result = some output → e.rowCount = output.rowCount
  /-- Only inserts that changed rows and loads have generated ids. -/
  ids : e.insertId ≠ none ∨ e.insertIds ≠ [] →
    (0 < e.affected ∧ Batch.isInsert e.statement = true) ∨ e.OfLoad trace

/-- The entry tells how the loading of a file ended. -/
structure Describes (file : Batch.Load) (answer : Except DriverError Nat) (e : LogEntry) :
    Prop where
  query : e.query = file.statement
  statement : e.statement = file.statement
  params : e.params = []
  outcome : match answer with
    | .ok count => e.error = none ∧ e.affected = count ∧ e.result = some (.bool true)
    | .error error => e.error = some error ∧ e.affected = 0 ∧ e.result = some (.bool false)

/-- A load that is on the trace stays on it. -/
theorem OfLoad.mono {trace trace' : List Event} {e : LogEntry} (h : e.OfLoad trace)
    (htrace : trace <+: trace') : e.OfLoad trace' := by
  obtain ⟨c, file, hsent, hentry⟩ := h
  exact ⟨c, file, htrace.subset hsent, hentry⟩

/-- A consistent entry stays so as the trace grows. -/
theorem Consistent.mono {trace trace' : List Event} {e : LogEntry} (h : e.Consistent trace)
    (htrace : trace <+: trace') : e.Consistent trace' where
  types := h.types
  completed := h.completed
  failed := h.failed
  rows := h.rows
  ids hids := (h.ids hids).imp_right fun hload => hload.mono htrace

/-- A new entry has a letter for each parameter. -/
theorem toList_tags (params : List Param) :
    (Param.tags params).toList = params.map fun p => p.type.tag :=
  String.toList_ofList

/-- The entry of a statement, once the reply is there and the counters have been read. -/
def concluded (e : LogEntry) (affected : Nat) (firstId : Int64) :
    Except Error Reply → LogEntry
  | .ok reply => Session.answered e reply affected firstId
  | .error error => e.failed error.driver?

/-- The entry of a script or of a load, once it is known how many rows it concerned. -/
def counted (e : LogEntry) : Except DriverError Nat → LogEntry
  | .ok count => { e with affected := count, result := some (.bool true) }
  | .error error => e.failed (some error)

/-- An entry keeps its settings when it is completed by an answer. -/
@[simp] theorem settings_concluded (e : LogEntry) (affected : Nat) (firstId : Int64)
    (answer : Except Error Reply) :
    (e.concluded affected firstId answer).settings = e.settings := by
  cases answer with
  | error error => rfl
  | ok reply =>
      unfold concluded Session.answered
      dsimp only
      split <;> rfl

@[simp] theorem settings_counted (e : LogEntry) (answer : Except DriverError Nat) :
    (e.counted answer).settings = e.settings := by
  cases answer <;> rfl

/-- An entry keeps its query when it is completed by an answer. -/
@[simp] theorem query_concluded (e : LogEntry) (affected : Nat) (firstId : Int64)
    (answer : Except Error Reply) :
    (e.concluded affected firstId answer).query = e.query := by
  cases answer with
  | error error => rfl
  | ok reply =>
      unfold concluded Session.answered
      dsimp only
      split <;> rfl

/-- An outcome changes neither the statement of an entry nor its parameters. -/
theorem fields_concluded (e : LogEntry) (affected : Nat) (firstId : Int64)
    (answer : Except Error Reply) :
    (e.concluded affected firstId answer).statement = e.statement ∧
      (e.concluded affected firstId answer).params = e.params := by
  cases answer with
  | error error => exact ⟨rfl, rfl⟩
  | ok reply =>
      unfold concluded Session.answered
      dsimp only
      split <;> exact ⟨rfl, rfl⟩

@[simp] theorem statement_counted (e : LogEntry) (answer : Except DriverError Nat) :
    (e.counted answer).statement = e.statement := by
  cases answer <;> rfl

/-- The entry of a load, with the ids of a batch reckoned back from the last one if that was
found. -/
def reckoned (e : LogEntry) (count : Nat) : Option Int64 → LogEntry
  | none => e
  | some last => { e with insertId := some last, insertIds := Session.idsUpTo last count }

@[simp] theorem settings_reckoned (e : LogEntry) (count : Nat) (last : Option Int64) :
    (e.reckoned count last).settings = e.settings := by
  cases last <;> rfl

variable {trace : List Event} {executedAt : Nat} {query statement database : String}
variable {st : Settings} {params : List Param}

/-- Ids are recorded for inserts that changed rows, and for loads. -/
theorem Consistent.record {e : LogEntry} (he : e.Consistent trace) (hgranted : e.error = none)
    (hids : (0 < e.affected ∧ Batch.isInsert e.statement = true) ∨ e.OfLoad trace)
    (first : Option Int64) (ids : List Int64) :
    ({ e with insertId := first, insertIds := ids } : LogEntry).Consistent trace where
  types := he.types
  completed := he.completed
  failed h := absurd hgranted h
  rows := he.rows
  ids _ := hids

/-- An entry that is completed by an error is consistent. -/
theorem consistent_failed (error : Option DriverError) :
    ((opening executedAt query statement database st params).failed error).Consistent trace where
  types := toList_tags params
  completed := Option.some_ne_none _
  failed _ := ⟨rfl, rfl, rfl, rfl, rfl⟩
  rows _ output houtput := by
    rw [← Option.some.inj houtput]
    rfl
  ids hids := absurd hids (by simp [LogEntry.failed, opening])

/-- An entry that has got its counts and its result, but no ids. -/
theorem consistent_succeeded (affected rowCount : Nat) {output : Output}
    (hrows : rowCount = output.rowCount) :
    ({ opening executedAt query statement database st params with
      affected := affected, rowCount := rowCount, result := some output } :
        LogEntry).Consistent trace where
  types := toList_tags params
  completed := Option.some_ne_none _
  failed h := absurd rfl h
  rows _ output' houtput := by
    rw [← Option.some.inj houtput]
    exact hrows
  ids hids := absurd hids (by simp [opening])

/-- An entry that is completed by the answer to its statement is consistent. -/
theorem consistent_concluded (affected : Nat) (firstId : Int64) (answer : Except Error Reply) :
    ((opening executedAt query statement database st params).concluded affected firstId
      answer).Consistent trace := by
  cases answer with
  | error error => exact consistent_failed error.driver?
  | ok reply =>
      have hanswered : ({ opening executedAt query statement database st params with
          affected := affected, rowCount := Session.replyRows reply
          result := some (Session.shape st reply) } : LogEntry).Consistent trace :=
        consistent_succeeded affected (Session.replyRows reply)
          (Session.rowCount_shape st reply).symm
      show (Session.answered _ reply affected firstId).Consistent trace
      unfold Session.answered
      dsimp only
      split
      · next hinserts => exact hanswered.record rfl (.inl hinserts) _ _
      · exact hanswered

/-- An entry that is completed by a count is consistent. -/
theorem consistent_counted (answer : Except DriverError Nat) :
    ((opening executedAt query statement database st params).counted answer).Consistent trace := by
  cases answer with
  | error error => exact consistent_failed (some error)
  | ok count => exact consistent_succeeded count 0 rfl

/-- The entry of a file describes its load. -/
theorem describes_counted (file : Batch.Load) (answer : Except DriverError Nat) :
    ((opening executedAt file.statement file.statement database st []).counted answer).Describes
      file answer := by
  cases answer with
  | ok count => exact ⟨rfl, rfl, rfl, rfl, rfl, rfl⟩
  | error error => exact ⟨rfl, rfl, rfl, rfl, rfl, rfl⟩

/-- With the ids of its rows it still does. -/
theorem Describes.reckoned {file : Batch.Load} {answer : Except DriverError Nat} {e : LogEntry}
    (h : e.Describes file answer) (count : Nat) (last : Option Int64) :
    (e.reckoned count last).Describes file answer := by
  cases last with
  | none => exact h
  | some last => exact ⟨h.query, h.statement, h.params, h.outcome⟩

/-- An entry that describes a load whose request is on the trace is one of a load. -/
theorem Describes.ofLoad {file : Batch.Load} {answer : Except DriverError Nat} {e : LogEntry}
    (h : e.Describes file answer) {c : ConnId} (hsent : .sent c (.load file) ∈ trace) :
    e.OfLoad trace :=
  ⟨c, file, hsent, h.query, h.statement, h.params⟩

/-- With ids recorded, the entry of a load stays consistent. -/
theorem Consistent.reckoned {e : LogEntry} (he : e.Consistent trace) (hload : e.OfLoad trace)
    (hgranted : e.error = none) (count : Nat) (last : Option Int64) :
    (e.reckoned count last).Consistent trace := by
  cases last with
  | none => exact he
  | some last => exact he.record hgranted (.inr hload) _ _

end LogEntry

end SlotQuery
