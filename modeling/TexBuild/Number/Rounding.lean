namespace TexBuild

/-- The whole number nearest to `num / den`; of two equally near ones the even
one. -/
def roundEven (num den : Nat) : Nat :=
  let q := num / den
  let r := num % den
  if 2 * r < den then q
  else if den < 2 * r then q + 1
  else if q % 2 = 0 then q else q + 1

/-- Rounding moves a quotient by at most one half. -/
theorem roundEven_bounds {num den : Nat} (pos : 0 < den) :
    2 * num ≤ (2 * roundEven num den + 1) * den ∧
      (2 * roundEven num den) * den ≤ 2 * num + den := by
  have split : den * (num / den) + num % den = num := Nat.div_add_mod num den
  have small : num % den < den := Nat.mod_lt num pos
  have two : 2 * (num / den) * den = 2 * (den * (num / den)) := by
    rw [Nat.mul_assoc, Nat.mul_comm (num / den)]
  have next : 2 * (num / den + 1) * den = 2 * (den * (num / den)) + 2 * den := by
    rw [Nat.mul_add, Nat.add_mul, two]
  have odd : (2 * (num / den) + 1) * den = 2 * (den * (num / den)) + den := by
    rw [Nat.add_mul, two, Nat.one_mul]
  have far : (2 * (num / den + 1) + 1) * den = 2 * (den * (num / den)) + 3 * den := by
    rw [Nat.add_mul, next, Nat.one_mul]; omega
  simp only [roundEven]
  split
  · rw [odd, two]; omega
  · split
    · rw [far, next]; omega
    · split
      · rw [odd, two]; omega
      · rw [far, next]; omega

end TexBuild
