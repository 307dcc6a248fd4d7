/-
# Decimal digits

A natural number as its decimal digits, and back.
-/

namespace CatalogClasses.Number

/-! ## Writing -/

/-- The decimal digits of a number, the most significant first; zero has one digit. -/
def digits (n : Nat) : List Char :=
  if n < 10 then [Char.ofNat (48 + n)]
  else digits (n / 10) ++ [Char.ofNat (48 + n % 10)]
  termination_by n
  decreasing_by omega

/-- An integer in decimal, with a leading minus sign when it is negative. -/
def integerText : Int → List Char
  | .ofNat n => digits n
  | .negSucc n => '-' :: digits (n + 1)

/-- Every digit of a number is a decimal digit. -/
theorem isDigit_of_mem_digits (n : Nat) : ∀ c ∈ digits n, c.isDigit = true := by
  have hdigit : ∀ d < 10, (Char.ofNat (48 + d)).isDigit = true := by decide
  fun_induction digits n with
  | case1 n h =>
    intro c hc
    rw [List.mem_singleton.1 hc]
    exact hdigit n h
  | case2 n h ih =>
    intro c hc
    rcases List.mem_append.1 hc with hc | hc
    · exact ih c hc
    · rw [List.mem_singleton.1 hc]
      exact hdigit (n % 10) (by omega)

/-- A number has at least one digit. -/
theorem digits_ne_nil (n : Nat) : digits n ≠ [] := by
  unfold digits
  split
  · exact List.cons_ne_nil _ _
  · exact List.append_ne_nil_of_right_ne_nil _ (List.cons_ne_nil _ _)

/-! ## Reading -/

/-- The value of a decimal digit. -/
def digitValue (c : Char) : Nat := c.toNat - 48

/-- The number that a run of decimal digits stands for. -/
def ofDigits (text : List Char) : Nat := text.foldl (fun n c => 10 * n + digitValue c) 0

/-! ## Reading back what was written -/

theorem ofDigits_append_singleton (text : List Char) (c : Char) :
    ofDigits (text ++ [c]) = 10 * ofDigits text + digitValue c := by
  simp [ofDigits]

theorem digitValue_ofNat {d : Nat} (h : d < 10) : digitValue (Char.ofNat (48 + d)) = d := by
  have all : ∀ d < 10, digitValue (Char.ofNat (48 + d)) = d := by decide
  exact all d h

/-- The digits of a number stand for that number. -/
theorem ofDigits_digits (n : Nat) : ofDigits (digits n) = n := by
  fun_induction digits n with
  | case1 n h => simp [ofDigits, digitValue_ofNat h]
  | case2 n h ih =>
    rw [ofDigits_append_singleton, ih, digitValue_ofNat (by omega)]
    omega

end CatalogClasses.Number
