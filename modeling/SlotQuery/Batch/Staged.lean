import SlotQuery.Identifier
import SlotQuery.Template.Secured
/-!
# A batch as a staged file

A large batch goes through a file: a line for each row, a tab between two cells, and a mark of its
own for null.  Tabs, line ends, returns, zeros and backslashes inside a text are escaped, so a line
end in the file always ends a row and a tab always ends a cell.  `stage` writes such a file and
`decodeField` reads a field of it back; `Load.statement` is the statement that asks a server to
load it.
-/

namespace SlotQuery.Batch

open Number (decimal floatText)
open Text

/-- Separates the cells of a row. -/
def fieldTerminator : Char := '\t'

/-- Stands for null. -/
def nullMarker : String := "\\N"

/-- How a character is written inside a field. -/
def escapedFieldChar (c : Char) : List Char :=
  if c = '\\' then ['\\', '\\']
  else if c = '\t' then ['\\', 't']
  else if c = '\n' then ['\\', 'n']
  else if c = '\r' then ['\\', 'r']
  else if c = '\x00' then ['\\', '0']
  else [c]

/-- A text as a field. -/
def escapeField (s : String) : String :=
  String.ofList (s.toList.flatMap escapedFieldChar)

/-- A cell as a field; bytes cannot be staged. -/
def stagedField : Cell → Except Error String
  | .null => .ok nullMarker
  | .int i => .ok (decimal i)
  | .float x => .ok (floatText x)
  | .bool b => .ok (Template.bitText b)
  | .text s => .ok (escapeField s)
  | .blob _ => .error (.value .blobInBulk)

/-- A row as a line of the file. -/
def stagedLine (row : List Cell) : Except Error String :=
  (row.mapM stagedField).map fun fields =>
    (String.singleton fieldTerminator).intercalate fields ++ "\n"

/-- The file for a batch.  It can always be made: the errors of a file system, which would end the
batch before anything is sent, are left out. -/
def stage (rows : List (List Cell)) : Except Error String :=
  (rows.mapM stagedLine).map String.join

/-- Takes the return off the end of a line. -/
def dropReturn (line : List Char) : List Char :=
  match line.reverse with
  | '\r' :: rest => rest.reverse
  | _ => line

/-- The lines of a file, where `line` has been read of the first one, last character first.  A line
ends at a line feed, and a return before it belongs to the line end; nothing after the last line
feed is no line. -/
def linesFrom : List Char → List Char → List (List Char)
  | [], [] => []
  | c :: line, [] => [(c :: line).reverse]
  | line, '\n' :: rest => dropReturn line.reverse :: linesFrom [] rest
  | line, c :: rest => linesFrom (c :: line) rest

/-- The lines of a file. -/
def lines (contents : String) : List (List Char) :=
  linesFrom [] contents.toList

/-- The fields of a line: the stretches between terminators. -/
def fields (terminator : Char) : List Char → List (List Char)
  | [] => [[]]
  | c :: cs =>
    if c = terminator then [] :: fields terminator cs
    else
      match fields terminator cs with
      | [] => [[c]]
      | f :: fs => (c :: f) :: fs

/-- The character that a letter stands for after a backslash. -/
def unescapedLetter (c : Char) : Char :=
  if c = 't' then '\t'
  else if c = 'n' then '\n'
  else if c = 'r' then '\r'
  else if c = '0' then '\x00'
  else c

/-- Undoes the escapes of a field. -/
def unescape : List Char → List Char
  | [] => []
  | ['\\'] => ['\\']
  | '\\' :: c :: cs => unescapedLetter c :: unescape cs
  | c :: cs => c :: unescape cs

/-- Reads a field: `none` for the null marker, else its text. -/
def decodeField (marker : String) (field : List Char) : Option String :=
  if String.ofList field = marker then none else some (String.ofList (unescape field))

/-- A staged file on its way into a table. -/
structure Load where
  path : String
  table : String
  columns : List String
  terminator : Char
  nullMarker : String
  /-- What the file holds. -/
  contents : String
deriving DecidableEq, Inhabited

/-- A character as it is spelled inside a quoted text of the load statement. -/
def spelledTerminator (c : Char) : List Char :=
  if c = '\t' then ['\\', 't']
  else if c = '\r' then ['\\', 'r']
  else if c = '\n' then ['\\', 'n']
  else if c = '\'' then ['\\', '\'']
  else if c = '"' then ['\\', '"']
  else if c = '\\' then ['\\', '\\']
  else if 0x20 ≤ c.toNat ∧ c.toNat ≤ 0x7e then [c]
  else ['\\', 'u', '\x7b'] ++ Nat.toDigits 16 c.toNat ++ ['\x7d']

/-- A path inside single quotes, with a quote in it written twice. -/
def quotePath (path : String) : String :=
  String.ofList ('\'' :: replaceAll '\'' ['\'', '\''] path.toList ++ ['\''])

/-- The statement that asks a server to load the file. -/
def Load.statement (l : Load) : String :=
  "LOAD DATA LOCAL INFILE " ++ quotePath l.path ++ " INTO TABLE " ++ quoteName l.table
    ++ " FIELDS TERMINATED BY '" ++ String.ofList (spelledTerminator l.terminator)
    ++ "' ESCAPED BY '\\\\' LINES TERMINATED BY '\\n' (" ++ quoteNames l.columns ++ ")"

end SlotQuery.Batch
