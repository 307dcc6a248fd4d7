/-
# JSON values

A catalog is data that nobody has checked, so wherever a value from it is kept as it
was written, it is kept as a JSON value.  An object keeps the order of its fields;
integers have any size and are kept apart from double-precision numbers.
-/
import CatalogClasses.Number.Binary64

namespace CatalogClasses

open Number

/-! ## The type -/

/-- A JSON value. -/
inductive Json where
  | null
  | bool (b : Bool)
  | int (n : Int)
  | float (x : Binary64)
  | str (s : String)
  | arr (elements : List Json)
  | obj (fields : List (String × Json))
deriving BEq, Repr, Inhabited

namespace Json

/-! ## Fields of objects -/

/-- The value of the first field with this key. -/
def lookup (key : String) : List (String × Json) → Option Json
  | [] => none
  | (k, v) :: rest => if k = key then some v else lookup key rest

/-- The fields with this key set to a value: in place if the key is there, at the end
otherwise. -/
def insert (key : String) (value : Json) : List (String × Json) → List (String × Json)
  | [] => [(key, value)]
  | (k, v) :: rest => if k = key then (k, value) :: rest else (k, v) :: insert key value rest

/-- A value found in a list of fields is smaller than that list. -/
theorem sizeOf_lookup_lt {key : String} {fields : List (String × Json)} {v : Json}
    (h : lookup key fields = some v) : sizeOf v < sizeOf fields := by
  induction fields with
  | nil => cases h
  | cons field rest ih =>
    obtain ⟨k, w⟩ := field
    unfold lookup at h
    split at h
    · cases h
      simp
      omega
    · have := ih h
      simp
      omega

/-! ## Truth -/

/-- The value counts as true: it is neither null, false, zero nor empty. -/
def isTruthy : Json → Bool
  | null => false
  | bool b => b
  | int n => n != 0
  | float x => !x.isZero
  | str s => s != ""
  | arr elements => !elements.isEmpty
  | obj fields => !fields.isEmpty

/-! ## Equality of values -/

/-- The value of a number as an integer; true and false count as one and zero. -/
def integer? : Json → Option Int
  | bool b => some (if b then 1 else 0)
  | int n => some n
  | _ => none

mutual

/-- Two values are the same: numbers by value, whatever their notation, lists element
by element, objects key by key in any order. -/
def same : Json → Json → Bool
  | null, null => true
  | str s, str t => s == t
  | arr xs, arr ys => sameElements xs ys
  | obj fs, obj gs => fs.length == gs.length && sameFields fs gs
  | float x, float y => x.same y
  | float x, other => match other.integer? with
    | some n => x.isInteger n
    | none => false
  | other, float y => match other.integer? with
    | some n => y.isInteger n
    | none => false
  | x, y => match x.integer?, y.integer? with
    | some m, some n => m == n
    | _, _ => false

/-- Two lists are the same, element by element. -/
def sameElements : List Json → List Json → Bool
  | [], [] => true
  | x :: xs, y :: ys => same x y && sameElements xs ys
  | _, _ => false

/-- Every field of the first list has a field with the same value in the second. -/
def sameFields : List (String × Json) → List (String × Json) → Bool
  | [], _ => true
  | (k, v) :: rest, fields =>
      (match lookup k fields with
        | some w => same v w
        | none => false) && sameFields rest fields

end

end Json

end CatalogClasses
