import SlotQuery.Json.Reader
import SlotQuery.Result.Output
/-!
# Values of the library as JSON

Each type has its JSON form and, where values are read back, a reader for it.

A cell carries no mark of its kind: the reader takes an integer of 64 bits for an integer cell, any
other number for a floating one, and an array of bytes for a blob.  A parameter carries its type.
Records are read from an object, each field once and unknown ones passed over, or from an array
with the fields in order.
-/

namespace SlotQuery

open Number (Binary64 toInt64? FitsInt64)

namespace Json

/-- The string of a JSON string. -/
def str? : Json → Option String
  | .str s => some s
  | _ => none

/-- The truth value of a JSON truth value. -/
def bool? : Json → Option Bool
  | .bool b => some b
  | _ => none

/-- An integer of 64 bits. -/
def int64? : Json → Option Int64
  | .int i => toInt64? i
  | _ => none

/-- An integer of 32 bits. -/
def int32? : Json → Option Int32
  | .int i =>
    if Int32.minValue.toInt ≤ i ∧ i ≤ Int32.maxValue.toInt then some (Int32.ofInt i) else none
  | _ => none

/-- A byte. -/
def byte? : Json → Option UInt8
  | .int i => if 0 ≤ i ∧ i < 256 then some (UInt8.ofNat i.toNat) else none
  | _ => none

/-- Any number, as a double. -/
def double? : Json → Option Binary64
  | .int i => some (Binary64.ofInt i)
  | .float x => some x
  | _ => none

/-- A 64-bit integer as JSON. -/
def ofInt64 (i : Int64) : Json :=
  .int i.toInt

/-- A double as JSON, which has no text for infinities and NaNs. -/
def ofDouble (x : Binary64) : Json :=
  if x.isFinite then .float x else .null

/-- A list of strings as JSON. -/
def ofStrings (ss : List String) : Json :=
  .arr (ss.map .str)

/-- The values of the named fields in the order of the names.  An object must hold each of them
exactly once; an array must hold exactly as many values. -/
def record? (names : List String) : Json → Option (List Json)
  | .arr items => if items.length = names.length then some items else none
  | .obj members =>
    names.mapM fun name =>
      match members.filter fun m => m.1 = name with
      | [(_, v)] => some v
      | _ => none
  | _ => none

end Json

namespace Cell

/-- A cell as JSON: a blob is an array of bytes, every other cell the value itself. -/
def toJson : Cell → Json
  | int i => Json.ofInt64 i
  | float x => Json.ofDouble x
  | text s => .str s
  | bool b => .bool b
  | null => .null
  | blob bytes => .arr (bytes.map fun b => .int b.toNat)

/-- The first kind of cell that the JSON value fits. -/
def ofJson? : Json → Option Cell
  | .int i =>
    match toInt64? i with
    | some w => some (int w)
    | none => some (float (Binary64.ofInt i))
  | .float x => some (float x)
  | .str s => some (text s)
  | .bool b => some (bool b)
  | .null => some null
  | .arr items => (items.mapM Json.byte?).map blob
  | _ => none

end Cell

namespace Param

/-- A parameter as JSON, with the name of its type. -/
def toJson (p : Param) : Json :=
  let value : Json :=
    match p with
    | integer i => Json.ofInt64 i
    | double x => Json.ofDouble x
    | string s => .str s
  .obj [("type", .str p.type.name), ("value", value)]

/-- Reads the value of a parameter of a named type. -/
def ofTyped? (type : String) (value : Json) : Option Param :=
  match type with
  | "integer" => value.int64?.map integer
  | "double" => value.double?.map double
  | "string" => value.str?.map string
  | _ => none

/-- The type's name in an object: a string, or the only key of an object with nothing in it. -/
def typeName? : Json → Option String
  | .str s => some s
  | .obj [(name, .null)] => some name
  | _ => none

/-- Reads a parameter with its type.  In an array the type's name is a string. -/
def ofJson? : Json → Option Param
  | .arr [.str type, value] => ofTyped? type value
  | .obj members =>
    match Json.record? ["type", "value"] (.obj members) with
    | some [type, value] => (typeName? type).bind fun name => ofTyped? name value
    | _ => none
  | _ => none

end Param

namespace Markers

/-- A pair of markers as an array of two strings. -/
def toJson (m : Markers) : Json :=
  .arr [.str m.opening, .str m.closing]

/-- Reads an array of two strings. -/
def ofJson? : Json → Option Markers
  | .arr [.str opening, .str closing] => some ⟨opening, closing⟩
  | _ => none

end Markers

namespace Settings

/-- The names of the fields of settings, in their order. -/
def fieldNames : List String :=
  ["charset", "max_insert_rows", "no_rows_as_array", "omit_single_key", "rows_indexed",
    "delimiters", "raw_fragment", "throw_errors"]

/-- Settings as an object. -/
def toJson (s : Settings) : Json :=
  .obj (fieldNames.zip
    [.str s.charset, Json.ofInt64 s.maxInsertRows, .bool s.noRowsAsArray, .bool s.omitSingleKey,
      .bool s.rowsIndexed, s.delimiters.toJson, s.rawFragment.toJson, .bool s.throwErrors])

/-- Reads settings; their values are not checked beyond their types. -/
def ofJson? (j : Json) : Option Settings :=
  match Json.record? fieldNames j with
  | some [charset, maxRows, noRows, single, indexed, delimiters, raw, throwing] => do
    return {
      charset := ← charset.str?
      maxInsertRows := ← maxRows.int64?
      noRowsAsArray := ← noRows.bool?
      omitSingleKey := ← single.bool?
      rowsIndexed := ← indexed.bool?
      delimiters := ← Markers.ofJson? delimiters
      rawFragment := ← Markers.ofJson? raw
      throwErrors := ← throwing.bool? }
  | _ => none

end Settings

namespace DriverError

/-- A driver's report as an object. -/
def toJson (e : DriverError) : Json :=
  .obj [("code", .int e.code.toInt), ("message", .str e.message)]

/-- Reads a driver's report. -/
def ofJson? (j : Json) : Option DriverError :=
  match Json.record? ["code", "message"] j with
  | some [code, message] => do return ⟨← code.int32?, ← message.str?⟩
  | _ => none

end DriverError

namespace Row

/-- A row as an object, a member for each column that has a cell. -/
def toJson (r : Row) : Json :=
  .obj (r.columns.zip (r.cells.map Cell.toJson))

end Row

namespace Output

/-- An output as JSON, without a mark of its shape. -/
def toJson : Output → Json
  | bool b => .bool b
  | scalar c => c.toJson
  | row r => r.toJson
  | scalars cs => .arr (cs.map Cell.toJson)
  | rows rs => .arr (rs.map Row.toJson)

end Output

end SlotQuery
