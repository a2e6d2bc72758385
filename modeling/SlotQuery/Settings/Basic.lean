import SlotQuery.Error
import SlotQuery.Json.Basic
/-!
# Settings

`Settings` are the resolved options of one call.  `Overrides` are a loosely spelled, partial change
to them, applied entry by entry in the order of the spellings; entries that name no setting have no
effect, and the first entry of a wrong shape fails the whole change.  Three layers use this:
process, session and call.
-/

namespace SlotQuery

/-- The options that govern one call. -/
structure Settings where
  /-- Character set requested before each statement. -/
  charset : String
  /-- The largest batch that is written into one statement; negative for any size. -/
  maxInsertRows : Int64
  /-- No rows are an empty list of rows, rather than `false`. -/
  noRowsAsArray : Bool
  /-- Rows of one column become their values. -/
  omitSingleKey : Bool
  /-- A single row stays in a list. -/
  rowsIndexed : Bool
  /-- The markers of literals in templates. -/
  delimiters : Markers
  /-- The markers of trusted statement text among values. -/
  rawFragment : Markers
  /-- Failures of the driver are raised and not only recorded. -/
  throwErrors : Bool
deriving DecidableEq, Inhabited

namespace Settings

/-- The settings nobody has changed. -/
def builtin : Settings where
  charset := "utf8"
  maxInsertRows := 1000
  noRowsAsArray := true
  omitSingleKey := false
  rowsIndexed := false
  delimiters := ⟨"<%", "%>"⟩
  rawFragment := ⟨"\x7b", "\x7d"⟩
  throwErrors := true

/-- A non-empty string. -/
def charsetOf? : Json → Option String
  | .str s => if s = "" then none else some s
  | _ => none

/-- An integer of 64 bits. -/
def integerOf? : Json → Option Int64
  | .int i => Number.toInt64? i
  | _ => none

/-- A truth value, or the integer 0 or 1. -/
def flagOf? : Json → Option Bool
  | .bool b => some b
  | .int i => if i = 0 then some false else if i = 1 then some true else none
  | _ => none

/-- An array of two strings that are usable as markers. -/
def markersOf? : Json → Option Markers
  | .arr [.str opening, .str closing] =>
    if (Markers.mk opening closing).Usable then some ⟨opening, closing⟩ else none
  | _ => none

/-- Gives one setting a new value, if the value has the right shape. -/
def set? (s : Settings) (key : Key) (value : Json) : Option Settings :=
  match key with
  | .charset => (charsetOf? value).map fun v => { s with charset := v }
  | .maxInsertRows => (integerOf? value).map fun v => { s with maxInsertRows := v }
  | .noRowsAsArray => (flagOf? value).map fun v => { s with noRowsAsArray := v }
  | .omitSingleKey => (flagOf? value).map fun v => { s with omitSingleKey := v }
  | .rowsIndexed => (flagOf? value).map fun v => { s with rowsIndexed := v }
  | .throwErrors => (flagOf? value).map fun v => { s with throwErrors := v }
  | .delimiters => (markersOf? value).map fun v => { s with delimiters := v }
  | .rawFragment => (markersOf? value).map fun v => { s with rawFragment := v }

/-- Gives one setting a new value. -/
def set (s : Settings) (key : Key) (value : Json) : Except Error Settings :=
  match s.set? key value with
  | some s' => .ok s'
  | none => .error (.config (.wrongShape key value.render))

/-- Applies one entry of overrides. -/
def applyEntry (s : Settings) (entry : String × Json) : Except Error Settings :=
  match Key.ofSpelling? entry.1 with
  | some key => s.set key entry.2
  | none => .ok s

end Settings

/-- New values for some settings, in the order of their spellings. -/
structure Overrides where
  entries : List (String × Json)
deriving Inhabited

namespace Overrides

/-- No change. -/
def none : Overrides := ⟨[]⟩

/-- Overrides from pairs of a spelling and a value; of a repeated spelling the last counts. -/
def ofList (entries : List (String × Json)) : Overrides :=
  ⟨Json.sortMembers entries⟩

/-- Overrides from a JSON object. -/
def ofJson (value : Json) : Except Error Overrides :=
  match value.sorted with
  | .obj members => .ok ⟨members⟩
  | other => .error (.config (.notAnObject other.render))

end Overrides

/-- The settings after a change. -/
def Settings.override (s : Settings) (changes : Overrides) : Except Error Settings :=
  changes.entries.foldlM Settings.applyEntry s

end SlotQuery
