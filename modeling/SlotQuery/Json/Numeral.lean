import SlotQuery.Json.Basic
/-!
# JSON numerals

A numeral without fraction and exponent is an integer if 64 bits hold it, signed or unsigned.  Any
other numeral is a double.  Its digits are gathered into a 64-bit significand for as long as they
fit, later ones only move the exponent, and the significand is then scaled by one power of ten (or
several, where one is too small to be a double).  Both steps round, so a long numeral can come out
one place beside the nearest double.
-/

namespace SlotQuery.Json

open Number (Binary64 ofDigits)

/-- A numeral: sign, digits before and after the point, and exponent. -/
structure Numeral where
  negative : Bool
  whole : List Char
  fraction : Option (List Char)
  exponent : Option Int

namespace Numeral

/-- The value of a decimal digit. -/
def digit (c : Char) : Nat :=
  c.toNat - '0'.toNat

/-- Gathers digits for as long as 64 bits hold them; also returns the digits left over. -/
def gather : Nat → List Char → Nat × List Char
  | n, [] => (n, [])
  | n, d :: ds =>
    if n * 10 + digit d < Nat.pow 2 64 then gather (n * 10 + digit d) ds else (n, d :: ds)

/-- `10 ^ k` as a double. -/
def powerOfTen (k : Nat) : Binary64 :=
  Binary64.roundRatio false (Nat.pow 10 k) 1

/-- Divides by `10 ^ 308` until the exponent is in reach. -/
def scaleDown : Nat → Binary64 → Int → Binary64
  | 0, x, _ => x
  | fuel + 1, x, e =>
    if -308 ≤ e then Binary64.divMagnitude false x (powerOfTen (-e).toNat)
    else scaleDown fuel (Binary64.divMagnitude false x (powerOfTen 308)) (e + 308)

/-- `significand · 10 ^ e`, rounded as described above; `none` where it is too large. -/
def scale? (significand : Nat) (e : Int) : Option Binary64 :=
  let x := Binary64.roundRatio false significand 1
  if significand = 0 then some x
  else if 308 < e then none
  else if 0 ≤ e then
    let y := Binary64.mulMagnitude false x (powerOfTen e.toNat)
    if y.isFinite then some y else none
  else some (scaleDown 8 x e)

/-- The double that the numeral stands for, if it is not too large. -/
def toFloat? (n : Numeral) : Option Binary64 :=
  let (head, dropped) := gather 0 n.whole
  let (significand, unused) := gather head (n.fraction.getD [])
  let shift : Int := dropped.length - ((n.fraction.getD []).length - unused.length : Nat)
  (scale? significand (shift + n.exponent.getD 0)).map (Binary64.withSign n.negative)

/-- The value that the numeral stands for. -/
def value (n : Numeral) : Json :=
  let i := ofDigits n.whole
  let asFloat := (n.toFloat?).elim Json.unreadable Json.float
  if n.fraction.isSome || n.exponent.isSome then asFloat
  else if n.negative then
    if i = 0 ∨ Nat.pow 2 63 < i then asFloat else Json.int (-(i : Int))
  else if i < Nat.pow 2 64 then Json.int i
  else asFloat

/-- Reads digits, one or more. -/
def digits? (cs : List Char) : Option (List Char × List Char) :=
  let ds := cs.takeWhile Char.isDigit
  if ds.isEmpty then none else some (ds, cs.dropWhile Char.isDigit)

/-- Reads the digits before the point: a zero alone, or digits that start with another. -/
def whole? : List Char → Option (List Char × List Char)
  | '0' :: cs => some (['0'], cs)
  | cs => digits? cs

/-- Reads a point and digits, if a point is next. -/
def fraction? : List Char → Option (Option (List Char) × List Char)
  | '.' :: cs => (digits? cs).map fun (ds, rest) => (some ds, rest)
  | cs => some (none, cs)

/-- Reads the digits of an exponent and gives them a sign. -/
def signed? (negative : Bool) (cs : List Char) : Option (Option Int × List Char) :=
  (digits? cs).map fun (ds, rest) =>
    (some (if negative then -(ofDigits ds : Int) else ofDigits ds), rest)

/-- Reads an exponent, if its letter is next. -/
def exponent? : List Char → Option (Option Int × List Char)
  | 'e' :: cs | 'E' :: cs =>
    match cs with
    | '+' :: ds => signed? false ds
    | '-' :: ds => signed? true ds
    | ds => signed? false ds
  | cs => some (none, cs)

/-- Reads a numeral from the front of a text. -/
def read? (cs : List Char) : Option (Numeral × List Char) := do
  let (negative, cs) :=
    match cs with
    | '-' :: rest => (true, rest)
    | rest => (false, rest)
  let (whole, cs) ← whole? cs
  let (fraction, cs) ← fraction? cs
  let (exponent, cs) ← exponent? cs
  return ({ negative, whole, fraction, exponent }, cs)

end Numeral

end SlotQuery.Json
