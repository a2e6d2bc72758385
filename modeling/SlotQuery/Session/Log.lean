import SlotQuery.Json.Codec
/-!
# The log of a session

A session keeps an entry for every statement that it ran, oldest first.  An entry starts out with
what is known before the statement runs and is completed once, by the outcome.
-/

namespace SlotQuery

open Number (FitsInt64 saturated)

/-- A statement that was run. -/
structure LogEntry where
  /-- The reading of the session's clock when the entry was made. -/
  executedAt : Nat
  /-- The statement as the caller gave it. -/
  query : String
  /-- The statement as the driver got it. -/
  statement : String
  database : String
  settings : Settings
  params : List Param
  /-- The types of the parameters, a letter each. -/
  paramTypes : String
  error : Option DriverError
  affected : Nat
  rowCount : Nat
  result : Option Output
  /-- The first generated id, or after a bulk load the last. -/
  insertId : Option Int64
  insertIds : List Int64
deriving DecidableEq, Inhabited

/-- So many integers, from the first on. -/
def idsFrom (first : Int64) (count : Nat) : List Int64 :=
  (List.range count).map fun i => first + Int64.ofNat i

/-- The integers from the first up to one that is left out. -/
def idsBefore (first stop : Int64) : List Int64 :=
  idsFrom first (stop.toInt - first.toInt).toNat

/-- The integers from the first to the last, both included. -/
def idsThrough (first last : Int64) : List Int64 :=
  idsFrom first (last.toInt - first.toInt + 1).toNat

/-- A range of so many ids is reckoned up to an end that is no 64-bit integer. -/
def endsBeyond (first : Int64) (count : Nat) : Bool :=
  let count := saturated count
  1 < count && ¬ FitsInt64 (first.toInt + count.toInt)

namespace LogEntry

/-- An entry for a statement that has not run yet. -/
def opening (executedAt : Nat) (query statement database : String) (settings : Settings)
    (params : List Param) : LogEntry where
  executedAt := executedAt
  query := query
  statement := statement
  database := database
  settings := settings
  params := params
  paramTypes := Param.tags params
  error := none
  affected := 0
  rowCount := 0
  result := none
  insertId := none
  insertIds := []

/-- The driver reported no error. -/
def succeeded (e : LogEntry) : Bool :=
  e.error.isNone

/-- Records the ids of `count` rows from the first one on.  The end of the range is reckoned in 64
bits, which it must not leave (`endsBeyond`). -/
def withIds (e : LogEntry) (first : Int64) (count : Nat) : LogEntry :=
  let count := saturated count
  { e with
    insertId := some first
    insertIds := if 1 < count then idsBefore first (first + count) else [first] }

/-- Completes the entry of a statement that failed. -/
def failed (e : LogEntry) (error : Option DriverError) : LogEntry :=
  { e with error := error, result := some (.bool false) }

/-- An entry as a JSON object; `date` writes readings of the clock. -/
def toJson (date : Nat → String) (e : LogEntry) : Json :=
  let ofOption {α : Type} (f : α → Json) (a : Option α) : Json := a.elim .null f
  .obj
    [("executed_at", .str (date e.executedAt)), ("query", .str e.query),
      ("rewritten", .str e.statement), ("database", .str e.database),
      ("settings", e.settings.toJson), ("params", .arr (e.params.map Param.toJson)),
      ("param_types", .str e.paramTypes), ("error", ofOption DriverError.toJson e.error),
      ("affected_rows", .int e.affected), ("row_count", .int e.rowCount),
      ("result", ofOption Output.toJson e.result), ("insert_id", ofOption Json.ofInt64 e.insertId),
      ("insert_ids", .arr (e.insertIds.map Json.ofInt64))]

end LogEntry

/-- The log as JSON text. -/
def logText (date : Nat → String) (log : List LogEntry) : String :=
  (Json.arr (log.map (LogEntry.toJson date))).render

end SlotQuery
