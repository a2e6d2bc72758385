import SlotQuery.Batch.Statement
import SlotQuery.Session.Transaction
/-!
# Inserting batches

A batch of rows becomes one statement while it is small, and a staged file, loaded in a transaction,
when it is large.  After a load the generated ids are reckoned back from the largest id of the
table; the query for it does not stay in the log.
-/

namespace SlotQuery.Session

open Act
open Batch (Load)
open Number (FitsInt64 saturated)

variable {Address World : Type} (D : Driver Address World)

/-- Loads a staged file and keeps the log; returns the position of its entry. -/
def loadStaged (file : Load) (s : Settings) : Act World Nat := do
  let c ← connected
  let i ← openEntry D c file.statement file.statement s []
  match ← onWire (D.load c file) with
  | .ok count =>
    amendEntry i fun e => { e with affected := count, result := some (.bool true) }
    return i
  | .error e =>
    amendEntry i fun entry => entry.failed (some e)
    throw (.queryFailed e)

/-- The query for the largest id of a table. -/
def maxIdStatement (table : String) : String :=
  "SELECT MAX(" ++ quoteName "id" ++ ") FROM " ++ quoteName table

/-- The largest id of a table; the newest entry of the log is taken back afterwards. -/
def maxId (table : String) (s : Settings) : Act World (Option Int64) := do
  let s := { s with omitSingleKey := true, rowsIndexed := false, throwErrors := true }
  let output ← observe (run D (maxIdStatement table) s)
  updateSession fun session => { session with log := session.log.dropLast }
  let output ← orThrow output
  return output.scalar?.bind Cell.int?

/-- Where the staged file goes that is made at a reading of the clock. -/
def stagedPath (clock : Nat) : String :=
  "/tmp/staged-" ++ stamp clock ++ ".tsv"

/-- The ids of a batch, reckoned back from the last one in 64 bits, which must not be left
(`startsBeyond`). -/
def idsUpTo (last : Int64) (count : Nat) : List Int64 :=
  idsThrough (last - saturated count + 1) last

/-- The ids of a batch are reckoned from beyond the 64-bit integers. -/
def startsBeyond (last : Int64) (count : Nat) : Bool :=
  decide (¬ FitsInt64 (last.toInt - (saturated count).toInt))

/-- Inserts a batch through a staged file. -/
def bulkLoad (table : String) (columns : List String) (rows : List (List Cell)) (s : Settings) :
    Act World Output := do
  let c ← connected
  if ¬ (D.capabilities c (← get).wire.world).bulkLoad then throw (.missingCapability .bulkLoad)
  let contents ← orThrow (Batch.stage rows)
  let file : Load :=
    { path := stagedPath (← tick)
      table := table
      columns := columns
      terminator := Batch.fieldTerminator
      nullMarker := Batch.nullMarker
      contents := contents }
  match ← transact D s.throwErrors (loadStaged D file s) with
  | none => return .bool false
  | some i =>
    match ← maxId D table s with
    | none => return .bool true
    | some last =>
      amendEntry i fun e =>
        { e with insertId := some last, insertIds := idsUpTo last rows.length }
      noteOverflow (startsBeyond last rows.length)
      return .bool true

/-- The first row that has not one cell per column, with its position. -/
def ragged? (width : Nat) (rows : List (List Cell)) : Option (Nat × List Cell) :=
  (rows.zipIdx.find? fun (row, _) => row.length ≠ width).map fun (row, i) => (i, row)

/-- The batch is small enough for one statement. -/
def fitsInline (s : Settings) (count : Nat) : Bool :=
  s.maxInsertRows < 0 || (count : Int) ≤ s.maxInsertRows.toInt

/-- Inserts a batch of rows.  No rows are inserted without doing anything. -/
def insertRows (table : String) (columns : List String) (rows : List (List Cell))
    (changes : Overrides) : Act World Output := do
  if rows.isEmpty then return .bool true
  match ragged? columns.length rows with
  | some (i, row) => throw (.value (.raggedRow i row.length columns.length))
  | none =>
    let s ← effective changes
    if fitsInline s rows.length then
      let sql ← orThrow (Batch.statement s table columns rows)
      run D sql s
    else bulkLoad D table columns rows s

end SlotQuery.Session
