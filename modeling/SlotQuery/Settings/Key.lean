import SlotQuery.Text.Blank
import SlotQuery.Text.Lowercase
/-!
# Names of settings

A setting may be spelled in any letter case and with any underscores, hyphens and blanks between
its letters.  `Key.canonical` strips a spelling to the bare small letters, and two spellings name
the same setting when these agree.
-/

namespace SlotQuery.Settings

/-- The settings that can be overridden. -/
inductive Key
  | charset
  | maxInsertRows
  | noRowsAsArray
  | omitSingleKey
  | rowsIndexed
  | delimiters
  | rawFragment
  | throwErrors
deriving DecidableEq, Inhabited

namespace Key

/-- Every setting. -/
def all : List Key :=
  [charset, maxInsertRows, noRowsAsArray, omitSingleKey, rowsIndexed, delimiters, rawFragment,
    throwErrors]

/-- The bare small letters of a setting's name. -/
def name : Key → String
  | charset => "charset"
  | maxInsertRows => "maxinsertrows"
  | noRowsAsArray => "norowsasarray"
  | omitSingleKey => "omitsinglekey"
  | rowsIndexed => "rowsindexed"
  | delimiters => "delimiters"
  | rawFragment => "rawfragment"
  | throwErrors => "throwerrors"

/-- The character separates the words of a name. -/
def isSeparator (c : Char) : Bool :=
  c = '_' || c = '-' || Text.isBlank c

/-- A spelling without separators and in small letters. -/
def canonical (spelling : String) : String :=
  String.ofList ((spelling.toList.filter fun c => !isSeparator c).flatMap Text.lowercase)

/-- The setting that a spelling names, if it names one. -/
def ofSpelling? (spelling : String) : Option Key :=
  all.find? fun k => k.name = canonical spelling

end Key

end SlotQuery.Settings
