import SlotQuery.Identifier
import SlotQuery.Template.Secured
/-!
# A batch as one statement

A small batch of rows is written into one multi-row statement, every cell secured for its place.
The result is a template: running it binds the cells as parameters.
-/

namespace SlotQuery.Batch

open Template (secured)

/-- A row of cells between parentheses. -/
def group (s : Settings) (row : List Cell) : Except Error String :=
  (row.mapM (secured s)).map fun cells => "(" ++ ", ".intercalate cells ++ ")"

/-- The multi-row statement for a batch; fails at the first cell that cannot be secured. -/
def statement (s : Settings) (table : String) (columns : List String) (rows : List (List Cell)) :
    Except Error String :=
  (rows.mapM (group s)).map fun groups =>
    "INSERT INTO " ++ quoteName table ++ " (" ++ quoteNames columns ++ ") VALUES "
      ++ ", ".intercalate groups

end SlotQuery.Batch
