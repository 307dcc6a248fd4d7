/-
# Double-precision numbers

A double-precision number by its three fields.  Every choice of the fields is one
such number, so nothing has to be kept by the operations; the values are exact
integers times powers of two, and all arithmetic on them is done in `Nat` and `Int`.
-/

namespace CatalogClasses.Number

/-! ## The type -/

/-- A double-precision number: sign, biased exponent of 11 binary digits and fraction of
52. -/
structure Binary64 where
  negative : Bool
  exponent : Fin 2048
  fraction : Fin 4503599627370496
deriving DecidableEq, Repr

namespace Binary64

/-- Zero, with either sign. -/
def zero (negative : Bool) : Binary64 := ⟨negative, 0, 0⟩

/-- Infinity, with either sign. -/
def infinity (negative : Bool) : Binary64 := ⟨negative, 2047, 0⟩

/-- The usual value that is no number; there are others, with another sign or
fraction. -/
def nan : Binary64 := ⟨false, 2047, 2251799813685248⟩

/-- No number at all. -/
def isNaN (x : Binary64) : Bool := x.exponent == 2047 && x.fraction != 0

/-- One of the two infinities. -/
def isInfinite (x : Binary64) : Bool := x.exponent == 2047 && x.fraction == 0

/-- A number with a value. -/
def isFinite (x : Binary64) : Bool := x.exponent != 2047

/-- One of the two zeros. -/
def isZero (x : Binary64) : Bool := x.exponent == 0 && x.fraction == 0

/-! ## The value of a finite number -/

/-- A finite number is its significand times a power of two, up to the sign. -/
def significand (x : Binary64) : Nat :=
  if x.exponent = 0 then x.fraction.val else Nat.pow 2 52 + x.fraction.val

/-- The power of two that scales the significand. -/
def scale (x : Binary64) : Int := (max 1 x.exponent.val : Nat) - 1075

/-- The value has no fractional part. -/
def isWhole (x : Binary64) : Bool :=
  x.isFinite && (0 ≤ x.scale || x.significand % Nat.pow 2 (-x.scale).toNat == 0)

/-- The value without its fractional part, taken toward zero. -/
def truncate (x : Binary64) : Int :=
  let magnitude := if 0 ≤ x.scale then x.significand * Nat.pow 2 x.scale.toNat
    else x.significand / Nat.pow 2 (-x.scale).toNat
  if x.negative then -(magnitude : Int) else magnitude

/-! ## Comparison -/

/-- Two numbers are the same: they agree in all fields, or they are the two zeros.  So
a value that is no number is the same as itself, but not as one with another fraction. -/
def same (x y : Binary64) : Bool := x == y || (x.isZero && y.isZero)

/-- Every number is the same as itself. -/
@[simp] theorem same_self (x : Binary64) : x.same x = true := by
  simp [same]

/-- The order of two numbers does not matter for being the same. -/
theorem same_comm (x y : Binary64) : x.same y = y.same x := by
  rw [same, same, BEq.comm, Bool.and_comm]

/-- The number has exactly this integer as its value. -/
def isInteger (x : Binary64) (n : Int) : Bool := x.isWhole && x.truncate == n

end Binary64

end CatalogClasses.Number
