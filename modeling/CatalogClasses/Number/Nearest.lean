/-
# The nearest double-precision number

A fraction is rounded to the nearest double-precision number, a fraction half way
between two of them to the one with an even significand.  Decimal texts and
integers are both read this way.
-/
import CatalogClasses.Number.Binary64

namespace CatalogClasses.Number

/-! ## Rounding a fraction to an integer -/

/-- The integer nearest to `num / den`; a half goes to the even neighbour. -/
def roundHalfEven (num den : Nat) : Nat :=
  let q := num / den
  let r := num % den
  if 2 * r < den then q
  else if den < 2 * r then q + 1
  else if q % 2 = 0 then q else q + 1

/-! ## Rounding a fraction to a double-precision number -/

/-- Exponent of the grid on which `num / den` has a significand of 53 binary digits,
or the finest grid there is. -/
def gridExponent (num den : Nat) : Int :=
  let k : Int := (num.log2 : Int) - den.log2
  let reaches := if 0 ≤ k then den * Nat.pow 2 k.toNat ≤ num
    else den ≤ num * Nat.pow 2 (-k).toNat
  max (-1074) (if reaches then k - 52 else k - 53)

/-- The magnitude of a number as one integer: the exponent field above the fraction
field.  Counting in it steps through the magnitudes in order. -/
def magnitudeCode (num den : Nat) : Nat :=
  let e := gridExponent num den
  let m := if 0 ≤ e then roundHalfEven num (den * Nat.pow 2 e.toNat)
    else roundHalfEven (num * Nat.pow 2 (-e).toNat) den
  (e + 1074).toNat * Nat.pow 2 52 + m

namespace Binary64

/-- The number with this sign and magnitude code; a code past the last finite number
is infinity. -/
def ofCode (negative : Bool) (code : Nat) : Binary64 :=
  if 2047 * Nat.pow 2 52 ≤ code then infinity negative
  else ⟨negative, ⟨code / Nat.pow 2 52 % 2048, Nat.mod_lt _ (Nat.succ_pos _)⟩,
    ⟨code % 4503599627370496, Nat.mod_lt _ (Nat.succ_pos _)⟩⟩

/-- The number nearest to `num / den`, with the given sign. -/
def ofFraction (negative : Bool) (num den : Nat) : Binary64 :=
  if num = 0 then zero negative else ofCode negative (magnitudeCode num den)

/-- The number nearest to an integer, unless that is infinity. -/
def ofInt? (n : Int) : Option Binary64 :=
  let x := ofFraction (n < 0) n.natAbs 1
  if x.isInfinite then none else some x

/-- The number nearest to `mantissa · 10 ^ power`.  Values far outside the range of
the format are settled first: `10 ^ power` is below `2 ^ (3 * power)` for a negative
power, and half the smallest number is `2 ^ (-1075)`. -/
def ofDecimal (negative : Bool) (mantissa : Nat) (power : Int) : Binary64 :=
  if mantissa = 0 then zero negative
  else if 400 < power then infinity negative
  else if power < 0 ∧ (mantissa.log2 : Int) + 3 * power < -1201 then zero negative
  else if 0 ≤ power then ofFraction negative (mantissa * Nat.pow 10 power.toNat) 1
  else ofFraction negative mantissa (Nat.pow 10 (-power).toNat)

end Binary64

end CatalogClasses.Number
