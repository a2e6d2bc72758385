import SlotQuery.Cell
import SlotQuery.Settings.Basic
import SlotQuery.Template.Extraction
import SlotQuery.Template.Piece
/-!
# From a template to a statement with parameters

A lifted literal is classified by its text alone.  Numbers in exactly the form in which they are
written become numbers; any other text is bound as a string, except that no text at all and the
word `null` are written into the statement, for which there is no placeholder any more.
`prepare` takes a template the whole way: condense, extract, type.
-/

namespace SlotQuery.Template

open Text

/-- How a literal reaches the database. -/
inductive Literal
  /-- As a parameter. -/
  | bound (p : Param)
  /-- As text in the statement. -/
  | inline (text : String)
deriving DecidableEq, Inhabited

/-- The double with exactly this text, if it is finite. -/
def floatLiteral? (s : String) : Option Number.Binary64 :=
  (Number.readFloat? s).bind fun x =>
    if x.isFinite ∧ Number.floatText x = s then some x else none

/-- The text spells `null` in any letter case. -/
def isNullWord (s : String) : Bool :=
  s.toList.map Char.toLower = ['n', 'u', 'l', 'l']

/-- Classifies a literal: an integer, else a double, else nothing or null, else a string. -/
def Literal.ofText (s : String) : Literal :=
  match Number.ofDecimal? s, floatLiteral? s with
  | some i, _ => .bound (.integer i)
  | none, some x => .bound (.double x)
  | none, none =>
    if s = "" then .inline "''"
    else if isNullWord s then .inline "NULL"
    else .bound (.string s)

/-- A statement with positional parameters. -/
structure Prepared where
  sql : String
  params : List Param
deriving DecidableEq, Inhabited

/-- The text around a placeholder that stands at a byte offset. -/
def around? (placeholder : List Char) (offset : Int) (text : List Char) :
    Option (List Char × List Char) :=
  if offset < 0 then none
  else
    (splitAt? offset.toNat text).bind fun (before, rest) =>
      (afterPrefix? placeholder rest).map fun after => (before, after)

/-- Types the literals from left to right.  `shift` is how far the text has grown on account of
those written into it. -/
def typeFrom (placeholder : List Char) :
    Int → List Char → List Lifted → Except Error (List Char × List Param)
  | _, text, [] => .ok (text, [])
  | shift, text, v :: vs =>
    match Literal.ofText v.literal with
    | .bound p => (typeFrom placeholder shift text vs).map fun (text, ps) => (text, p :: ps)
    | .inline s =>
      match around? placeholder (v.offset + shift) text with
      | none => .error (.value (.placeholderMissing v.offset))
      | some (before, after) =>
        typeFrom placeholder (shift + width s.toList - width placeholder)
          (before ++ s.toList ++ after) vs

/-- Types the literals of an extraction: parameters in their order, and the statement with the
others written into it. -/
def Extraction.typed (e : Extraction) (placeholder : String) : Except Error Prepared :=
  (typeFrom placeholder.toList 0 e.sql.toList e.lifted).map fun (text, params) =>
    ⟨String.ofList text, params⟩

/-- Stands for a parameter in a statement. -/
def placeholder : String := "?"

/-- Turns a template into a statement with parameters. -/
def prepare (s : Settings) (template : String) : Except Error Prepared := do
  let e ← extract s.delimiters placeholder true none (condense s.delimiters template)
  e.typed placeholder

end SlotQuery.Template
