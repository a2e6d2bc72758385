import SlotQuery.Number.FloatText
/-!
# Cells and parameters

A `Cell` is a value as a table holds it; a `Param` is a value as it is bound to a statement, and has
one of three types with a one-letter tag each.  `Param.text` is the text a parameter stands for.
-/

namespace SlotQuery

open Number (Binary64 decimal floatText)

/-- A value in a row, or on its way into one. -/
inductive Cell
  | int (i : Int64)
  | float (x : Binary64)
  | text (s : String)
  | bool (b : Bool)
  | null
  | blob (bytes : List UInt8)
deriving DecidableEq, Inhabited

namespace Cell

/-- The cell is the absent value. -/
def isNull : Cell → Bool
  | null => true
  | _ => false

/-- The integer, of an integer cell. -/
def int? : Cell → Option Int64
  | int i => some i
  | _ => none

/-- The text, of a text cell. -/
def text? : Cell → Option String
  | text s => some s
  | _ => none

/-- The double, of a floating cell. -/
def float? : Cell → Option Binary64
  | float x => some x
  | _ => none

/-- The truth value, of a Boolean cell and of the integers 0 and 1. -/
def bool? : Cell → Option Bool
  | bool b => some b
  | int i => if i = 1 then some true else if i = 0 then some false else none
  | _ => none

end Cell

/-- The type of a bound value. -/
inductive ParamType
  | integer
  | double
  | string
deriving DecidableEq, Inhabited

/-- One letter for each type. -/
def ParamType.tag : ParamType → Char
  | integer => 'i'
  | double => 'd'
  | string => 's'

/-- The type's name. -/
def ParamType.name : ParamType → String
  | integer => "integer"
  | double => "double"
  | string => "string"

/-- A value bound to a statement, with its type. -/
inductive Param
  | integer (i : Int64)
  | double (x : Binary64)
  | string (s : String)
deriving DecidableEq, Inhabited

namespace Param

/-- The type of a parameter. -/
def type : Param → ParamType
  | integer _ => .integer
  | double _ => .double
  | string _ => .string

/-- The text that the parameter stands for. -/
def text : Param → String
  | integer i => decimal i
  | double x => floatText x
  | string s => s

/-- The cell that a bound parameter becomes. -/
def cell : Param → Cell
  | integer i => .int i
  | double x => .float x
  | string s => .text s

/-- The tags of a list of parameters, position by position. -/
def tags (params : List Param) : String :=
  String.ofList (params.map fun p => p.type.tag)

end Param

end SlotQuery
