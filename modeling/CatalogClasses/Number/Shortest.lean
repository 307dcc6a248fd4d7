/-
# The shortest decimal text of a double-precision number

A finite number is written with the fewest decimal digits that still read back as
that number; of the decimals of that length that do, the nearest one.  The search
runs over grids of decimals, each ten times finer than the one before, and looks at
the two neighbours of the number on each grid: if any point of a grid reads back as
the number, so does one of its two neighbours there.
-/
import CatalogClasses.Number.Digits
import CatalogClasses.Number.Binary64

namespace CatalogClasses.Number

/-! ## Decimal magnitudes -/

/-- How many decimal digits a natural number has. -/
def digitCount (n : Nat) : Nat := (digits n).length

/-- The `k` with `10 ^ (k - 1) ≤ num / den < 10 ^ k`. -/
def pointPosition (num den : Nat) : Int :=
  if den ≤ num then digitCount (num / den) else 1 - (digitCount ((den - 1) / num) : Int)

/-- A power of ten as a fraction. -/
def tenPower (p : Int) : Nat × Nat :=
  if 0 ≤ p then (Nat.pow 10 p.toNat, 1) else (1, Nat.pow 10 (-p).toNat)

/-- A power of two as a fraction. -/
def twoPower (p : Int) : Nat × Nat :=
  if 0 ≤ p then (Nat.pow 2 p.toNat, 1) else (1, Nat.pow 2 (-p).toNat)

/-! ## The interval that reads back as a number -/

/-- A number and the ends of the interval of values that round to it, all in quarters
of its last binary place; the ends belong to the interval when `closed`. -/
structure Interval where
  value : Nat
  low : Nat
  high : Nat
  closed : Bool
  scale : Int

/-- The interval of a finite number.  Below a power of two the next number is only
half as far away as above it. -/
def Binary64.interval (x : Binary64) : Interval :=
  let m := x.significand
  let lowGap := if x.fraction.val = 0 ∧ 1 < x.exponent.val then 1 else 2
  ⟨4 * m, 4 * m - lowGap, 4 * m + 2, m % 2 == 0, x.scale - 2⟩

/-- The decimal `n · 10 ^ p` lies in the interval. -/
def Interval.holds (i : Interval) (n : Nat) (p : Int) : Bool :=
  let ten := tenPower p
  let two := twoPower i.scale
  let decimal := n * ten.1 * two.2
  let low := i.low * two.1 * ten.2
  let high := i.high * two.1 * ten.2
  (low < decimal && decimal < high) || (i.closed && (decimal == low || decimal == high))

/-- Of the two neighbours `n` and `n + 1` of the number on the grid of `10 ^ p`, the
lower one is nearer, or as near and even. -/
def Interval.prefersLow (i : Interval) (n : Nat) (p : Int) : Bool :=
  let ten := tenPower p
  let two := twoPower i.scale
  let twice := 2 * (i.value * two.1 * ten.2)
  let middle := (2 * n + 1) * ten.1 * two.2
  twice < middle || (twice == middle && n % 2 == 0)

/-! ## The search -/

/-- The neighbour of the number on the grid of `10 ^ p` that reads back as it. -/
def Interval.onGrid? (i : Interval) (p : Int) : Option Nat :=
  let ten := tenPower p
  let two := twoPower i.scale
  let n := i.value * two.1 * ten.2 / (ten.1 * two.2)
  match i.holds n p, i.holds (n + 1) p with
  | true, true => some (if i.prefersLow n p then n else n + 1)
  | true, false => some n
  | false, true => some (n + 1)
  | false, false => none

/-- The first hit on `count` grids, from the grid of `10 ^ p` to finer ones. -/
def Interval.search (i : Interval) : Nat → Int → Nat × Int
  | 0, p => (i.value, p)
  | count + 1, p => match i.onGrid? p with
    | some n => (n, p)
    | none => i.search count (p - 1)

/-- The digits of the shortest decimal of a positive finite number and the position
of the decimal point relative to them; seventeen digits are always enough. -/
def shortest (x : Binary64) : List Char × Int :=
  let i := x.interval
  let two := twoPower i.scale
  let (n, p) := i.search 17 (pointPosition (i.value * two.1) two.2 - 1)
  let ds := digits n
  ((ds.reverse.dropWhile (· == '0')).reverse, p + ds.length)

/-! ## The text -/

/-- Digits with the decimal point at the given position, and always one digit on
either side of it. -/
def positionalText (ds : List Char) (point : Int) : List Char :=
  if point ≤ 0 then '0' :: '.' :: List.replicate (-point).toNat '0' ++ ds
  else if ds.length ≤ point.toNat
  then ds ++ List.replicate (point.toNat - ds.length) '0' ++ ['.', '0']
  else ds.take point.toNat ++ '.' :: ds.drop point.toNat

/-- The exponent of a text with one, signed and of two digits at least. -/
def exponentText (e : Int) : List Char :=
  let ds := digits e.natAbs
  (if e < 0 then '-' else '+') :: (if ds.length < 2 then '0' :: ds else ds)

/-- Digits with the point after the first one and an exponent. -/
def scientificText (ds : List Char) (point : Int) : List Char :=
  match ds with
  | [] => []
  | [d] => d :: 'e' :: exponentText (point - 1)
  | d :: rest => d :: '.' :: rest ++ 'e' :: exponentText (point - 1)

/-- A positive finite number; positional between `10 ^ (-4)` and `10 ^ 16`. -/
def magnitudeText (x : Binary64) : List Char :=
  if x.isZero then ['0', '.', '0']
  else
    let (ds, point) := shortest x
    if -4 < point ∧ point ≤ 16 then positionalText ds point else scientificText ds point

/-- The text of a double-precision number. -/
def Binary64.text (x : Binary64) : List Char :=
  if x.isNaN then "nan".toList
  else (if x.negative then ['-'] else []) ++
    (if x.isInfinite then "inf".toList else magnitudeText x)

end CatalogClasses.Number
