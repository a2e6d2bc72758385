import SlotQuery.Text.Search
/-!
# The name of a database

A database in a file is named after the file, without its last extension.  The file's name is the
last part of the path that is not empty and not a single dot; a path that ends in two dots names no
file.  A dot at the very front does not start an extension.  Without a file the name is `memory`.
-/

namespace SlotQuery.Engine

/-- The parts of a path between slashes. -/
def pathParts : List Char → List (List Char)
  | [] => [[]]
  | c :: cs =>
    if c = '/' then [] :: pathParts cs
    else
      match pathParts cs with
      | [] => [[c]]
      | p :: ps => (c :: p) :: ps

/-- The name of the file that a path leads to, if it leads to one. -/
def fileName? (path : List Char) : Option (List Char) :=
  match ((pathParts path).filter fun p => p ≠ [] ∧ p ≠ ['.']).getLast? with
  | some name => if name = ['.', '.'] then none else some name
  | none => none

/-- A file's name without its last extension. -/
def stem (name : List Char) : List Char :=
  match name.reverse.dropWhile (· ≠ '.') with
  | [] => name
  | [_] => name
  | _ :: before => before.reverse

/-- The name of the database in a file, or in memory. -/
def databaseName (path : Option String) : String :=
  ((path.bind fun p => fileName? p.toList).map fun n => String.ofList (stem n)).getD "memory"

end SlotQuery.Engine
