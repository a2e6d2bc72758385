import SlotQuery.Number.Shortest
import SlotQuery.Number.Integer
/-!
# Doubles as text

`FloatFormat` holds the decisions of a written form: which orders of magnitude are written out in
full, whether a whole number keeps a fraction, how an exponent looks, and the names of what is no
number.  `FloatFormat.plain` is the form inside statements and `FloatFormat.json` the form inside
JSON texts.  `readFloat?` reads any usual spelling.
-/

namespace SlotQuery.Number

/-- The decisions of a written form for doubles. -/
structure FloatFormat where
  /-- Decimal orders written without an exponent; `none` for all of them. -/
  positional : Option (Int × Int)
  /-- Written after the digits of a whole number. -/
  wholeTail : String
  tie : Tie
  nan : String
  infinite : Bool → String

/-- Never an exponent, no empty fraction, the upper of two equally near decimals. -/
def FloatFormat.plain : FloatFormat where
  positional := none
  wholeTail := ""
  tie := .upper
  nan := "NaN"
  infinite := fun negative => if negative then "-inf" else "inf"

/-- An exponent from `1e+16` up and below `1e-5`; a fraction always; what is no number is `null`. -/
def FloatFormat.json : FloatFormat where
  positional := some (-5, 15)
  wholeTail := ".0"
  tie := .even
  nan := "null"
  infinite := fun _ => "null"

/-- `digits · 10 ^ exponent` without an exponent. -/
def positionalText (wholeTail : String) (digits : String) (exponent : Int) : String :=
  let length : Int := digits.length
  if 0 ≤ exponent then
    digits ++ String.ofList (List.replicate exponent.toNat '0') ++ wholeTail
  else if -exponent < length then
    let whole := (length + exponent).toNat
    String.ofList (digits.toList.take whole) ++ "." ++ String.ofList (digits.toList.drop whole)
  else
    "0." ++ String.ofList (List.replicate (-exponent - length).toNat '0') ++ digits

/-- `digits · 10 ^ exponent` as one digit, a fraction and a signed exponent. -/
def exponentText (digits : String) (order : Int) : String :=
  let sign := if order < 0 then "-" else "+"
  let fraction := digits.toList.drop 1
  String.ofList (digits.toList.take 1)
    ++ (if fraction.isEmpty then "" else "." ++ String.ofList fraction)
    ++ "e" ++ sign ++ toString order.natAbs

/-- The text of a double in a given form. -/
def FloatFormat.render (format : FloatFormat) (x : Binary64) : String :=
  match x.kind with
  | .nan => format.nan
  | .infinite => format.infinite x.isNegative
  | .finite m q =>
    let d := Decimal.shortest format.tie m q
    let digits := toString d.digits
    let order := d.exponent + digits.length - 1
    let positional :=
      match format.positional with
      | none => true
      | some (least, greatest) => least ≤ order && order ≤ greatest
    (if x.isNegative then "-" else "")
      ++ (if positional then positionalText format.wholeTail digits d.exponent
          else exponentText digits order)

/-- The text of a double inside a statement. -/
def floatText (x : Binary64) : String :=
  FloatFormat.plain.render x

/-- Reads the digits after `e`, with an optional sign. -/
def readExponent? : List Char → Option Int
  | '+' :: cs => (readNat? cs).map fun n => (n : Int)
  | cs => readInt? cs

/-- Reads digits with an optional point among them and an optional exponent. -/
def readMagnitude? (negative : Bool) (cs : List Char) : Option Binary64 :=
  let whole := cs.takeWhile Char.isDigit
  let afterWhole := cs.dropWhile Char.isDigit
  let (fraction, rest) :=
    match afterWhole with
    | '.' :: ds => (ds.takeWhile Char.isDigit, ds.dropWhile Char.isDigit)
    | ds => ([], ds)
  if whole = [] ∧ fraction = [] then none
  else
    let exponent? : Option Int :=
      match rest with
      | [] => some 0
      | 'e' :: ds | 'E' :: ds => readExponent? ds
      | _ => none
    exponent?.map fun e =>
      Binary64.ofDecimal negative (ofDigits (whole ++ fraction)) (e - fraction.length)

/-- Reads a double: a sign, then a number or one of the words `inf`, `infinity` and `nan` in any
letter case. -/
def readFloat? (s : String) : Option Binary64 :=
  let (negative, cs) :=
    match s.toList with
    | '-' :: cs => (true, cs)
    | '+' :: cs => (false, cs)
    | cs => (false, cs)
  let word := String.ofList (cs.map Char.toLower)
  if word = "inf" ∨ word = "infinity" then some (Binary64.infinity negative)
  else if word = "nan" then some (Binary64.nan negative)
  else readMagnitude? negative cs

end SlotQuery.Number
