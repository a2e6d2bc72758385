import SlotQuery.Cell
import SlotQuery.Settings.Basic
/-!
# Cells inside a statement

A cell that is written into a statement must come out of it as the same value.  Null and bytes have
texts of their own; everything else goes between the template's markers and so becomes a parameter
again.  A text that holds a marker would not survive that and is refused.  A text between the raw
markers is trusted and goes in as it is.
-/

namespace SlotQuery.Template

open Number (decimal floatText)

/-- A byte as two capital hexadecimal digits. -/
def hexByte (b : UInt8) : List Char :=
  [(Nat.digitChar (b.toNat / 16)).toUpper, (Nat.digitChar (b.toNat % 16)).toUpper]

/-- Bytes as a literal of a statement. -/
def blobLiteral (bytes : List UInt8) : String :=
  "X'" ++ String.ofList (bytes.flatMap hexByte) ++ "'"

/-- The text of a truth value: one or zero. -/
def bitText (b : Bool) : String :=
  if b then "1" else "0"

/-- The text of a cell for a place in a statement. -/
def secured (s : Settings) : Cell → Except Error String
  | .null => .ok "NULL"
  | .int i => .ok (s.delimiters.wrap (decimal i))
  | .float x => .ok (s.delimiters.wrap (floatText x))
  | .bool b => .ok (s.delimiters.wrap (bitText b))
  | .blob bytes => .ok (blobLiteral bytes)
  | .text t =>
    match s.rawFragment.enclosed? t with
    | some raw => .ok raw
    | none =>
      if s.delimiters.tokenIn t then .error (.value (.tokenInText t))
      else .ok (s.delimiters.wrap t)

end SlotQuery.Template
