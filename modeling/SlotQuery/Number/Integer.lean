/-!
# Decimal integers

Integers are read and written in decimal.  `readNat?` and `readInt?` accept any digits;
`Int64.ofDecimal?` accepts exactly the text that the integer itself is written with, so `007`,
`+7` and `-0` are no integers to it.
-/

namespace SlotQuery.Number

/-- The value of a list of decimal digits, read from the left. -/
def ofDigits (ds : List Char) : Nat :=
  ds.foldl (fun n d => n * 10 + (d.toNat - '0'.toNat)) 0

/-- Reads one decimal digit or more, and nothing else. -/
def readNat? (cs : List Char) : Option Nat :=
  if cs ≠ [] ∧ cs.all Char.isDigit then some (ofDigits cs) else none

/-- Reads an optional minus sign and decimal digits. -/
def readInt? : List Char → Option Int
  | '-' :: cs => (readNat? cs).map fun n => -(n : Int)
  | cs => (readNat? cs).map fun n => (n : Int)

/-- The integer fits in 64 bits with a sign. -/
def FitsInt64 (i : Int) : Prop :=
  Int64.minValue.toInt ≤ i ∧ i ≤ Int64.maxValue.toInt

instance (i : Int) : Decidable (FitsInt64 i) :=
  inferInstanceAs (Decidable (_ ∧ _))

/-- The integer as a 64-bit word, if it fits. -/
def toInt64? (i : Int) : Option Int64 :=
  if FitsInt64 i then some (Int64.ofInt i) else none

/-- A number of rows as a 64-bit integer.  If it is none it counts as the largest of them. -/
def saturated (count : Nat) : Int64 :=
  Int64.ofInt (min (count : Int) Int64.maxValue.toInt)

/-- The decimal text of a 64-bit integer. -/
def decimal (i : Int64) : String :=
  toString i.toInt

/-- Reads a 64-bit integer from its own decimal text. -/
def ofDecimal? (s : String) : Option Int64 :=
  (readInt? s.toList).bind fun i =>
    (toInt64? i).bind fun w => if decimal w = s then some w else none

end SlotQuery.Number
