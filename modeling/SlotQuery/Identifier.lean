import SlotQuery.Text.Search
/-!
# Quoted names

A name of a table, a column or a savepoint stands between backticks, and a backtick inside it is
written twice.
-/

namespace SlotQuery

open Text

/-- The backtick. -/
def backtick : Char := '\x60'

/-- A name between backticks. -/
def quoteName (name : String) : String :=
  String.ofList (backtick :: replaceAll backtick [backtick, backtick] name.toList ++ [backtick])

/-- Quoted names with commas between them. -/
def quoteNames (names : List String) : String :=
  ", ".intercalate (names.map quoteName)

end SlotQuery
