import SlotQuery.Number.Binary64
/-!
# The shortest decimal that reads back

A double is written with the fewest digits that still read back as the same double, and with the
nearest such digits where several of that length do.  The reals that round to `m · 2 ^ q` form an
interval around it, ends included when `m` is even.  On the grid of decimals with `n` digits only
the two neighbours of the value can be nearest, so it is enough to try them for `n = 1, 2, …`; with
17 digits one of them always lies inside.
-/

namespace SlotQuery.Number

/-- What to take when two decimals are equally near: the upper one or the even one. -/
inductive Tie
  | upper
  | even
deriving DecidableEq

/-- The decimal number `digits · 10 ^ exponent`. -/
structure Decimal where
  digits : Nat
  exponent : Int
deriving DecidableEq

namespace Decimal

/-- The least `k` with `n < 10 ^ k`. -/
def length (n : Nat) : Nat :=
  if n = 0 then 0 else (Nat.toDigits 10 n).length

/-- The largest `k` with `10 ^ k ≤ num / den`, for a positive quotient. -/
def order (num den : Nat) : Int :=
  if den ≤ num then (length (num / den) : Int) - 1
  else -(length ((den - 1) / num) : Int)

/-- Drops the zeros at the end of the digits, counting them in the exponent. -/
def trim : Nat → Decimal → Decimal
  | 0, d => d
  | fuel + 1, d =>
    if d.digits ≠ 0 ∧ d.digits % 10 = 0 then trim fuel ⟨d.digits / 10, d.exponent + 1⟩ else d

/-- The interval of reals that round to one double, over a common denominator. -/
structure Interval where
  value : Nat
  low : Nat
  high : Nat
  den : Nat
  closed : Bool

/-- The interval of `m · 2 ^ q`.  Below a power of two the doubles lie twice as dense. -/
def Interval.of (m : Nat) (q : Int) : Interval :=
  let below := if m = Nat.pow 2 52 ∧ -1074 < q then 1 else 2
  let scale := Nat.pow 2 (q - 2).toNat
  { value := 4 * m * scale
    low := (4 * m - below) * scale
    high := (4 * m + 2) * scale
    den := Nat.pow 2 (2 - q).toNat
    closed := m % 2 = 0 }

/-- `n / d` lies between `low` and the value. -/
def Interval.hitsBelow (i : Interval) (n d : Nat) : Bool :=
  i.low * d < n * i.den || (i.closed && i.low * d = n * i.den)

/-- `n / d` lies between the value and `high`. -/
def Interval.hitsAbove (i : Interval) (n d : Nat) : Bool :=
  n * i.den < i.high * d || (i.closed && n * i.den = i.high * d)

/-- The nearer of the value's two neighbours on the grid `10 ^ g` that read back, if one does. -/
def onGrid? (tie : Tie) (i : Interval) (g : Int) : Option Decimal :=
  let up := Nat.pow 10 g.toNat
  let down := Nat.pow 10 (-g).toNat
  let floor := i.value * down / (i.den * up)
  let rest := i.value * down % (i.den * up)
  let lower := i.hitsBelow (floor * up) down
  let upper := rest ≠ 0 ∧ i.hitsAbove ((floor + 1) * up) down
  let goesUp :=
    i.den * up < 2 * rest
      || (i.den * up = 2 * rest && (tie = .upper || floor % 2 = 1))
  if lower ∧ (¬ upper ∨ ¬ goesUp) then some ⟨floor, g⟩
  else if upper then some ⟨floor + 1, g⟩
  else none

/-- Tries grids from the `n`-digit one on, at most `fuel` of them. -/
def search (tie : Tie) (i : Interval) (g : Int) : Nat → Decimal
  | 0 => ⟨i.value * Nat.pow 10 (-g).toNat / (i.den * Nat.pow 10 g.toNat), g⟩
  | fuel + 1 =>
    match onGrid? tie i g with
    | some d => d
    | none => search tie i (g - 1) fuel

/-- The shortest decimal that reads back as `m · 2 ^ q`, without zeros at its end. -/
def shortest (tie : Tie) (m : Nat) (q : Int) : Decimal :=
  if m = 0 then ⟨0, 0⟩
  else
    let i := Interval.of m q
    trim 400 (search tie i (order i.value i.den) 17)

end Decimal

end SlotQuery.Number
