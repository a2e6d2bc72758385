/-!
# Double precision numbers

A double is its 64 bits: a sign, eleven bits of exponent and 52 of fraction.  Everything here is
exact arithmetic on natural numbers.  A finite double is `m · 2 ^ q` with `m < 2 ^ 53` and
`-1074 ≤ q`; `roundRatio` goes the other way and takes a quotient to the nearest double, the even
one of two equally near.  Product and quotient of doubles are the rounded exact ones.
-/

namespace SlotQuery.Number

/-- A number in double precision, as its bits. -/
structure Binary64 where
  bits : UInt64
deriving DecidableEq, Inhabited

namespace Binary64

/-- What the bits say: not a number, an infinity, or `m · 2 ^ q`. -/
inductive Kind
  | nan
  | infinite
  | finite (m : Nat) (q : Int)
deriving DecidableEq

/-- The sign bit is set. -/
def isNegative (x : Binary64) : Bool :=
  Nat.pow 2 63 ≤ x.bits.toNat

/-- The eleven exponent bits. -/
def exponentField (x : Binary64) : Nat :=
  x.bits.toNat / Nat.pow 2 52 % Nat.pow 2 11

/-- The 52 fraction bits. -/
def fraction (x : Binary64) : Nat :=
  x.bits.toNat % Nat.pow 2 52

/-- The magnitude that the bits stand for. -/
def kind (x : Binary64) : Kind :=
  if x.exponentField = 2047 then
    if x.fraction = 0 then .infinite else .nan
  else if x.exponentField = 0 then .finite x.fraction (-1074)
  else .finite (Nat.pow 2 52 + x.fraction) (x.exponentField - 1075)

/-- Neither infinite nor a NaN. -/
def isFinite (x : Binary64) : Bool :=
  x.exponentField ≠ 2047

/-- The double with the given magnitude bits and sign. -/
def ofMagnitude (negative : Bool) (magnitude : Nat) : Binary64 :=
  ⟨UInt64.ofNat (if negative then Nat.pow 2 63 + magnitude else magnitude)⟩

/-- Zero of either sign. -/
def zero (negative : Bool) : Binary64 := ofMagnitude negative 0

/-- Infinity of either sign. -/
def infinity (negative : Bool) : Binary64 := ofMagnitude negative (2047 * Nat.pow 2 52)

/-- The plain NaN. -/
def nan (negative : Bool) : Binary64 := ofMagnitude negative (2047 * Nat.pow 2 52 + Nat.pow 2 51)

/-- The same magnitude with the given sign. -/
def withSign (negative : Bool) (x : Binary64) : Binary64 :=
  ofMagnitude negative (x.bits.toNat % Nat.pow 2 63)

/-- The natural number nearest to `num / den`; a half goes to the even neighbour. -/
def nearest (num den : Nat) : Nat :=
  let floor := num / den
  let twice := 2 * (num % den)
  if twice < den then floor
  else if den < twice then floor + 1
  else floor + floor % 2

/-- `n · 2 ^ q` as a quotient of natural numbers. -/
def scaled (n : Nat) (q : Int) : Nat × Nat :=
  (n * Nat.pow 2 q.toNat, Nat.pow 2 (-q).toNat)

/-- The largest `e` with `2 ^ e ≤ num / den`, for a positive quotient. -/
def binaryOrder (num den : Nat) : Int :=
  let e : Int := (num.log2 : Int) - den.log2
  let (n, d) := (num * Nat.pow 2 (-e).toNat, den * Nat.pow 2 e.toNat)
  if d ≤ n then e else e - 1

/-- The double nearest to `num / den`, the even one of two equally near; infinity where the
quotient is too large. -/
def roundRatio (negative : Bool) (num den : Nat) : Binary64 :=
  if num = 0 ∨ den = 0 then zero negative
  else
    let q := max (binaryOrder num den - 52) (-1074)
    let m := nearest (num * Nat.pow 2 (-q).toNat) (den * Nat.pow 2 q.toNat)
    let magnitude := (q + 1074).toNat * Nat.pow 2 52 + m
    if 2047 * Nat.pow 2 52 ≤ magnitude then infinity negative else ofMagnitude negative magnitude

/-- The double nearest to an integer. -/
def ofInt (i : Int) : Binary64 :=
  roundRatio (i < 0) i.natAbs 1

/-- The double nearest to `n · 10 ^ e`. -/
def ofDecimal (negative : Bool) (n : Nat) (e : Int) : Binary64 :=
  let order : Int := (Nat.toDigits 10 n).length + e
  if n = 0 ∨ order < -400 then zero negative
  else if 400 < order then infinity negative
  else roundRatio negative (n * Nat.pow 10 e.toNat) (Nat.pow 10 (-e).toNat)

/-- The double is exactly the integer; both zeros are zero. -/
def equalsInt (x : Binary64) (i : Int) : Bool :=
  match x.kind with
  | .finite m q =>
    let (num, den) := scaled m q
    num = i.natAbs * den && (i = 0 || x.isNegative = decide (i < 0))
  | _ => false

/-- The integer that the double is, if it is one. -/
def int? (x : Binary64) : Option Int :=
  match x.kind with
  | .finite m q =>
    let (num, den) := scaled m q
    if num % den = 0 then some (if x.isNegative then -(num / den : Int) else (num / den : Int))
    else none
  | _ => none

/-- The rounded product of two finite magnitudes, with a sign of its own. -/
def mulMagnitude (negative : Bool) (x y : Binary64) : Binary64 :=
  match x.kind, y.kind with
  | .finite m q, .finite n r =>
    let (num, den) := scaled (m * n) (q + r)
    roundRatio negative num den
  | _, _ => infinity negative

/-- The rounded quotient of two finite magnitudes, with a sign of its own. -/
def divMagnitude (negative : Bool) (x y : Binary64) : Binary64 :=
  match x.kind, y.kind with
  | .finite m q, .finite n r =>
    let (num, den) := scaled m (q - r)
    roundRatio negative num (den * n)
  | _, _ => zero negative

end Binary64

end SlotQuery.Number
