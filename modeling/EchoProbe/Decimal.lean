import EchoProbe.Text.Digits

/-!
# Decimal rounding

A quotient of natural numbers rounded to the nearest whole number, with ties to the
even neighbour, and its text with a fixed number of places.

* `roundDiv_le`, `le_roundDiv`: the rounded quotient is within half a unit;
* `even_roundDiv_of_tie`: of two equally near numbers it is the even one.
-/

namespace EchoProbe.Decimal

/-- The whole number nearest to `num / den`; of two equally near ones, the even
    one. -/
def roundDiv (num den : Nat) : Nat :=
  let quotient := num / den
  let rest := num % den
  if 2 * rest < den ∨ (2 * rest = den ∧ quotient % 2 = 0) then quotient else quotient + 1

theorem roundDiv_le {num den : Nat} (h : 0 < den) : 2 * den * roundDiv num den ≤ 2 * num + den := by
  have := Nat.div_add_mod num den
  have := Nat.mod_lt num h
  simp only [roundDiv]
  split
  · rw [Nat.mul_assoc]
    omega
  · rw [Nat.mul_assoc, Nat.mul_add, Nat.mul_one]
    omega

theorem le_roundDiv {num den : Nat} (h : 0 < den) : 2 * num ≤ 2 * den * roundDiv num den + den := by
  have := Nat.div_add_mod num den
  have := Nat.mod_lt num h
  simp only [roundDiv]
  split
  · rw [Nat.mul_assoc]
    omega
  · rw [Nat.mul_assoc, Nat.mul_add, Nat.mul_one]
    omega

theorem even_roundDiv_of_tie {num den : Nat} (h : 2 * (num % den) = den) :
    roundDiv num den % 2 = 0 := by
  simp only [roundDiv]
  split <;> omega

/-- The quotient `num / den`, rounded to a number of places, in decimal. -/
def fixed (places num den : Nat) : String :=
  let units := roundDiv (num * Nat.pow 10 places) den
  let whole := toString (units / Nat.pow 10 places)
  if places = 0 then whole
  else whole ++ "." ++ Text.zeroPadded places (toString (units % Nat.pow 10 places))

end EchoProbe.Decimal
