import SlotQuery.Cell
import SlotQuery.Engine.Ledger
import SlotQuery.Engine.Lexeme
/-!
# The statements of a small engine

The small engine knows as much of the language of statements as sessions are tried with: tables with
an integer key and untyped columns, statements that insert, update, delete and select rows with at
most one condition, rows of values without a table, and savepoints and transactions.  What it does
not know it refuses.  `Statement.read` reads one statement and fails at the first lexeme that cannot
stand where it stands.
-/

namespace SlotQuery.Engine

/-- A name, its spelling with any quotes, and the byte offset where it stands. -/
structure Name where
  text : String
  spelling : String
  offset : Nat
deriving DecidableEq, Inhabited

/-- A value in a statement. -/
inductive Item
  /-- The parameter at a position, counted from zero. -/
  | param (i : Nat)
  | cell (c : Cell)
deriving DecidableEq, Inhabited

/-- What a statement selects from a table. -/
inductive Selected
  | all
  | column (name : Name) (label : Option String)
  /-- The number of rows. -/
  | count (label : String)
  /-- The largest value of a column. -/
  | max (name : Name) (label : String)
deriving DecidableEq, Inhabited

/-- A column and the value it has to equal. -/
structure Condition where
  column : Name
  item : Item
deriving DecidableEq, Inhabited

/-- A column of a new table. -/
structure ColumnSpec where
  name : String
  isKey : Bool
deriving DecidableEq, Inhabited

/-- A statement. -/
inductive Statement
  | create (table : Name) (columns : List ColumnSpec)
  | insert (table : Name) (columns : List Name) (rows : List (List Item))
      (returning : List Selected)
  | update (table : Name) (changes : List (Name × Item)) (condition : Option Condition)
  | delete (table : Name) (condition : Option Condition)
  | select (what : List Selected) (table : Name) (condition : Option Condition)
      (order : Option Name)
  /-- One row of values with their labels. -/
  | values (items : List (Item × String))
  | begin
  | commit
  | rollback
  | savepoint (name : String)
  | rollbackTo (name : String)
deriving DecidableEq, Inhabited

namespace Statement

/-- Where reading stands: the lexemes ahead, and how many parameters have been met. -/
structure Cursor where
  ahead : List Lexeme
  params : Nat

/-- A reader fails at a lexeme, or at the end of the statement. -/
abbrev Reader := StateT Cursor (Except (Option Lexeme))

/-- The next lexeme, left where it is. -/
def peek : Reader (Option Lexeme) := do
  return (← get).ahead.head?

/-- Fails at the next lexeme. -/
def unexpected {α : Type} : Reader α := do
  throw (← peek)

/-- Takes the next lexeme. -/
def advance : Reader Unit :=
  modify fun c => { c with ahead := c.ahead.tail }

/-- The token is a given keyword. -/
def isKeyword (keyword : String) : Option Lexeme → Bool
  | some ⟨.word w, _, _⟩ => sameName w keyword
  | _ => false

/-- The token is a given symbol. -/
def isSymbol (c : Char) : Option Lexeme → Bool
  | some ⟨.symbol d, _, _⟩ => c = d
  | _ => false

/-- Takes a keyword if it is next. -/
def keyword? (k : String) : Reader Bool := do
  if isKeyword k (← peek) then
    advance
    return true
  else return false

/-- Takes a keyword. -/
def keyword (k : String) : Reader Unit := do
  if ¬ (← keyword? k) then unexpected

/-- Takes a symbol if it is next. -/
def symbol? (c : Char) : Reader Bool := do
  if isSymbol c (← peek) then
    advance
    return true
  else return false

/-- Takes a symbol. -/
def symbol (c : Char) : Reader Unit := do
  if ¬ (← symbol? c) then unexpected

/-- The words that are no names, unless they are quoted. -/
def reservedWords : List String :=
  ["add", "all", "alter", "and", "as", "autoincrement", "between", "case", "check", "collate",
   "commit", "constraint", "create", "default", "deferrable", "delete", "distinct", "drop", "else",
   "escape", "except", "exists", "foreign", "from", "group", "having", "in", "index", "insert",
   "intersect", "into", "is", "isnull", "join", "limit", "not", "nothing", "notnull", "null", "on",
   "or", "order", "primary", "references", "returning", "select", "set", "table", "then", "to",
   "transaction", "union", "unique", "update", "using", "values", "when", "where"]

/-- The name that a lexeme is, if it is one. -/
def nameOf? : Lexeme → Option Name
  | ⟨.word w, spelling, offset⟩ =>
    if reservedWords.any (sameName w) then none else some ⟨w, String.ofList spelling, offset⟩
  | ⟨.name w, spelling, offset⟩ => some ⟨w, String.ofList spelling, offset⟩
  | _ => none

/-- Takes a name. -/
def name : Reader Name := do
  match (← peek).bind nameOf? with
  | some n =>
    advance
    return n
  | none => unexpected

/-- Takes what `p` reads, and more after commas. -/
def commaSeparated {α : Type} (p : Reader α) : Nat → Reader (List α)
  | 0 => unexpected
  | fuel + 1 => do
    let a ← p
    if ← symbol? ',' then
      return a :: (← commaSeparated p fuel)
    else return [a]

/-- Takes what `p` reads, one or more with commas between them. -/
def several {α : Type} (p : Reader α) : Reader (List α) := do
  commaSeparated p ((← get).ahead.length + 1)

/-- Takes a list between parentheses. -/
def parenthesized {α : Type} (p : Reader α) : Reader (List α) := do
  symbol '('
  let as ← several p
  symbol ')'
  return as

/-- The number that digits with or without a point stand for. -/
def numberCell (negative : Bool) (digits : String) : Option Cell :=
  let text := if negative then "-" ++ digits else digits
  match (Number.readInt? text.toList).bind Number.toInt64? with
  | some i => some (.int i)
  | none => (Number.readFloat? text).map .float

/-- Takes digits. -/
def number (negative : Bool) : Reader Item := do
  match ← peek with
  | some ⟨.number digits, _, _⟩ =>
    match numberCell negative digits with
    | some c =>
      advance
      return .cell c
    | none => unexpected
  | _ => unexpected

/-- A text in capital ASCII letters. -/
def capitals (s : String) : String :=
  String.ofList (s.toList.map Char.toUpper)

/-- Takes a text. -/
def textLiteral : Reader String := do
  match ← peek with
  | some ⟨.text s, _, _⟩ =>
    advance
    return s
  | _ => unexpected

/-- Takes a value: a parameter, a literal with or without a sign, or a text in capitals. -/
def item : Reader Item := do
  match ← peek with
  | some ⟨.param, _, _⟩ =>
    advance
    modifyGet fun c => (.param c.params, { c with params := c.params + 1 })
  | some ⟨.text s, _, _⟩ =>
    advance
    return .cell (.text s)
  | some ⟨.blob bytes, _, _⟩ =>
    advance
    return .cell (.blob bytes)
  | some ⟨.number _, _, _⟩ => number false
  | some ⟨.symbol '+', _, _⟩ =>
    advance
    number false
  | some ⟨.symbol '-', _, _⟩ =>
    advance
    number true
  | l =>
    if isKeyword "null" l then
      advance
      return .cell .null
    else if isKeyword "upper" l then
      advance
      symbol '('
      let s ← textLiteral
      symbol ')'
      return .cell (.text (capitals s))
    else unexpected

/-- Takes a condition if one is next. -/
def condition? : Reader (Option Condition) := do
  if ← keyword? "where" then
    let column ← name
    symbol '='
    return some ⟨column, ← item⟩
  else return none

/-- The label that a lexeme gives: a name or a text. -/
def labelOf? : Lexeme → Option String
  | ⟨.text s, _, _⟩ => some s
  | l => (nameOf? l).map Name.text

/-- Takes a label if one is next.  The keyword before it may be left out. -/
def label? : Reader (Option String) := do
  let announced ← keyword? "as"
  match (← peek).bind labelOf? with
  | some label =>
    advance
    return some label
  | none => if announced then unexpected else return none

/-- Takes the type of a column, and tells whether it is the key.  Only the key has a type, and there
are no constraints. -/
def keyType? : Reader Bool := do
  if ← keyword? "integer" then
    keyword "primary"
    keyword "key"
    return true
  else return false

/-- Takes a column of a new table. -/
def columnSpec : Reader ColumnSpec := do
  let n ← name
  return ⟨n.text, ← keyType?⟩

/-- Takes a column that rows are to be in the order of, if one is next. -/
def order? : Reader (Option Name) := do
  if ← keyword? "order" then
    keyword "by"
    return some (← name)
  else return none

/-- The byte offset of the next lexeme, which is the length of the statement where none is left. -/
def position (sql : List Char) : Reader Nat := do
  return ((← peek).map Lexeme.offset).getD (Text.width sql)

/-- The text from one byte offset to another, without blanks at its end. -/
def excerpt (sql : List Char) (start stop : Nat) : String :=
  let cut := (Text.splitAt? start sql).bind fun p => Text.splitAt? (stop - start) p.2
  String.ofList ((cut.elim [] Prod.fst).reverse.dropWhile Lexeme.isSpace).reverse

/-- Takes a label if one is next.  A result without a label has its own text for one: all that
stands from its start to the next lexeme, comments included. -/
def labelFrom (sql : List Char) (start : Nat) : Reader String := do
  let stop ← position sql
  return (← label?).getD (excerpt sql start stop)

/-- Takes something to select; `sql` is the whole statement, where unnamed results find their
labels. -/
def selected (sql : List Char) : Reader Selected := do
  let lexeme ← peek
  if ← symbol? '*' then return .all
  else
    let n ← name
    if ← symbol? '(' then
      let isCount := isKeyword "count" lexeme
      let argument ← if isCount then
          symbol '*'
          pure default
        else if isKeyword "max" lexeme then name
        else unexpected
      symbol ')'
      let label ← labelFrom sql n.offset
      return if isCount then .count label else .max argument label
    else return .column n (← label?)

/-- Takes a value with its label. -/
def labelled (sql : List Char) : Reader (Item × String) := do
  let start ← position sql
  let i ← item
  return (i, ← labelFrom sql start)

/-- The lexeme starts a value, rather than a name. -/
def startsItem (l : Option Lexeme) : Bool :=
  match l with
  | some ⟨.word w, _, _⟩ => sameName w "null" || sameName w "upper"
  | some ⟨.name _, _, _⟩ => false
  | some ⟨.symbol c, _, _⟩ => c = '-' || c = '+'
  | some _ => true
  | none => false

/-- Takes a statement. -/
def statement (sql : List Char) : Reader Statement := do
  if ← keyword? "create" then
    keyword "table"
    let table ← name
    return .create table (← parenthesized columnSpec)
  else if ← keyword? "insert" then
    keyword "into"
    let table ← name
    let columns ← parenthesized name
    keyword "values"
    let rows ← several (parenthesized item)
    let returning ← if ← keyword? "returning" then several (selected sql) else pure []
    return .insert table columns rows returning
  else if ← keyword? "update" then
    let table ← name
    keyword "set"
    let changes ← several do
      let column ← name
      symbol '='
      return (column, ← item)
    return .update table changes (← condition?)
  else if ← keyword? "delete" then
    keyword "from"
    let table ← name
    return .delete table (← condition?)
  else if ← keyword? "select" then
    if startsItem (← peek) then return .values (← several (labelled sql))
    else
      let what ← several (selected sql)
      keyword "from"
      let table ← name
      let condition ← condition?
      return .select what table condition (← order?)
  else if ← keyword? "begin" then return .begin
  else if ← keyword? "commit" then return .commit
  else if ← keyword? "savepoint" then return .savepoint (← name).text
  else
    keyword "rollback"
    if ← keyword? "to" then
      let _ ← keyword? "savepoint"
      return .rollbackTo (← name).text
    else return .rollback

/-- Takes the semicolon after a statement, or stands at the end; returns the byte offset where the
statement's text ends. -/
def finish : Reader (Option Nat) := do
  let stop := (← peek).map Lexeme.stop
  if stop.isSome then symbol ';'
  return stop

/-- Why a text is no statement. -/
inductive Misread
  /-- The lexeme cannot stand where it stands. -/
  | misplaced (spelling : String) (offset : Nat)
  /-- There is a lexeme that can be no token. -/
  | unrecognized (spelling : String) (offset : Nat)
  /-- The text ends too early. -/
  | incomplete
deriving DecidableEq, Inhabited

/-- Why reading failed at a lexeme. -/
def Misread.at (l : Lexeme) : Misread :=
  let spelling := String.ofList l.spelling
  match l.token with
  | .unknown => .unrecognized spelling l.offset
  | _ => .misplaced spelling l.offset

/-- The first statement of a text, the number of its parameters, and the text after its semicolon.
No statement is no failure. -/
def read (text : List Char) : Except Misread (Option (Statement × Nat) × List Char) :=
  let sql := text.takeWhile (· ≠ '\x00')
  match (Lexeme.ofText sql).dropWhile fun l => l.token = .symbol ';' with
  | [] => .ok (none, [])
  | l :: ls =>
    let reader : Reader (Statement × Option Nat) := do
      let s ← statement sql
      return (s, ← finish)
    match reader.run ⟨l :: ls, 0⟩ with
    | .ok ((s, stop), c) =>
      let after := (stop.bind fun n => Text.splitAt? n text).elim [] Prod.snd
      .ok (some (s, c.params), after)
    | .error (some l) => .error (.at l)
    | .error none => .error .incomplete

end Statement

end SlotQuery.Engine
