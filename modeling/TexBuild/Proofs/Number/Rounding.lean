import Mathlib.Algebra.Order.Field.Rat
import Mathlib.Tactic.GCongr
import Mathlib.Tactic.Linarith
import Mathlib.Tactic.Ring
import TexBuild.Number.Binary64

namespace TexBuild

variable {num den : Nat}

theorem twoTo_eq (n : Nat) : twoTo n = 2 ^ n := rfl

/-- A quotient is rounded to less than an even number if it is more than one half below it. -/
theorem roundEven_lt_iff {n : Nat} (pos : 0 < den) (even : n % 2 = 0) :
    roundEven num den < n ↔ 2 * num + den < n * (2 * den) := by
  have split : den * (num / den) + num % den = num := Nat.div_add_mod num den
  have small : num % den < den := Nat.mod_lt num pos
  have whole (k : Nat) : k * (2 * den) = 2 * (den * k) := by ring
  have next : den * (num / den + 1) = den * (num / den) + den := Nat.mul_succ _ _
  have up : (2 * num + den) / (2 * den) =
      if 2 * (num % den) < den then num / den else num / den + 1 := by
    split
    · refine Nat.div_eq_of_lt_le ?_ ?_ <;> rw [whole] <;> omega
    · have later : den * (num / den + 1 + 1) = den * (num / den) + den + den := by
        rw [Nat.mul_succ, next]
      refine Nat.div_eq_of_lt_le ?_ ?_ <;> rw [whole] <;> omega
  rw [← Nat.div_lt_iff_lt_mul (Nat.mul_pos Nat.two_pos pos), up]
  unfold roundEven
  dsimp only
  split
  · rfl
  · split
    · rfl
    · -- the tie: only an even quotient stays below, and an even bound is then two above it
      split <;> omega

namespace Binary64
variable {m : Nat} {e : Int}

/-- The fraction of a magnitude is this magnitude. -/
theorem fraction_eq (m : Nat) (e : Int) :
    0 < (fraction m e).2 ∧ ((fraction m e).1 / (fraction m e).2 : ℚ) = m * 2 ^ e := by
  unfold fraction
  split
  · obtain ⟨n, rfl⟩ := Int.eq_ofNat_of_zero_le ‹_›
    refine ⟨Nat.one_pos, ?_⟩
    rw [zpow_natCast, Int.toNat_natCast, twoTo_eq]
    push_cast
    ring
  · obtain ⟨n, rfl⟩ : ∃ n : Nat, e = -n := ⟨(-e).toNat, by omega⟩
    refine ⟨Nat.two_pow_pos _, ?_⟩
    rw [zpow_neg, zpow_natCast, Int.neg_neg, Int.toNat_natCast, twoTo_eq, ← div_eq_mul_inv]
    push_cast
    rfl

theorem fraction_zero (e : Int) : (fraction 0 e).1 = 0 := by
  unfold fraction
  split
  · exact Nat.zero_mul _
  · rfl

/-- A fraction of the format has a small denominator or is at most one half. -/
theorem fraction_coarse_or_small (mantissa : m < 2 ^ 53) :
    (fraction m e).2 ≤ 2 ^ 53 ∨ 2 * (fraction m e).1 ≤ (fraction m e).2 := by
  unfold fraction
  split
  · exact .inl Nat.one_le_two_pow
  · by_cases coarse : (-e).toNat ≤ 53
    · exact .inl (Nat.pow_le_pow_right Nat.two_pos coarse)
    · have fine : 2 ^ 54 ≤ twoTo (-e).toNat := Nat.pow_le_pow_right Nat.two_pos (by omega)
      refine .inr (Nat.le_trans ?_ fine)
      dsimp only
      omega

variable {k : Nat}

/-- A quotient below a power of two keeps this many binary places at least. -/
theorem exponentOf_le (below : num < 2 ^ k * den) : exponentOf num den ≤ (k : Int) - 53 := by
  have logarithm : num.log2 < den.log2 + (k + 1) := by
    by_cases zero : num = 0
    · rw [zero]
      exact Nat.zero_lt_succ _
    · have size : den < 2 ^ (den.log2 + 1) := Nat.lt_log2_self
      rw [Nat.log2_lt zero]
      calc num < 2 ^ k * den := below
        _ ≤ 2 ^ k * 2 ^ (den.log2 + 1) := Nat.mul_le_mul_left _ size.le
        _ = 2 ^ (den.log2 + (k + 1)) := by rw [← Nat.pow_add]; congr 1; omega
  unfold exponentOf minExponent
  dsimp only
  refine Int.max_le.mpr ⟨by omega, ?_⟩
  by_cases last : (num.log2 : Int) - den.log2 - 52 = k - 52
  · rw [last]
    by_cases wide : 52 ≤ k
    · have places : ((k : Int) - 52).toNat = k - 52 := by omega
      have small : num < twoTo 52 * (den * twoTo (k - 52)) := by
        rw [twoTo_eq, twoTo_eq]
        calc num < 2 ^ k * den := below
          _ = 2 ^ 52 * (den * 2 ^ (k - 52)) := by
            rw [Nat.mul_left_comm, ← Nat.pow_add, Nat.add_sub_cancel' wide, Nat.mul_comm]
      rw [if_pos (by omega : (0 : Int) ≤ k - 52), places, if_pos (decide_eq_true small)]
      omega
    · have places : (-((k : Int) - 52)).toNat = 52 - k := by omega
      have small : num * twoTo (52 - k) < twoTo 52 * den := by
        rw [twoTo_eq, twoTo_eq]
        calc num * 2 ^ (52 - k) < 2 ^ k * den * 2 ^ (52 - k) :=
              Nat.mul_lt_mul_of_pos_right below (Nat.two_pow_pos _)
          _ = 2 ^ 52 * den := by
            rw [Nat.mul_right_comm, ← Nat.pow_add, Nat.add_sub_cancel' (by omega)]
      rw [if_neg (by omega : ¬ (0 : Int) ≤ k - 52), places, if_pos (decide_eq_true small)]
      omega
  · split <;> omega

/-- The whole part of a quotient below a power of two that is rounded to the format: of the binary
places that are kept, the rest lie behind the point. -/
theorem exists_ofRatio_of_lt (negative : Bool) (places : k ≤ 51) (below : num < 2 ^ k * den) :
    ∃ j m e, 53 - k ≤ j ∧ ofRatio negative num den = .finite negative m e ∧
      (fraction m e).1 / (fraction m e).2 = roundEven (num * 2 ^ j) den / 2 ^ j := by
  unfold ofRatio
  by_cases zero : num = 0
  · rw [if_pos zero]
    refine ⟨53 - k, 0, minExponent, Nat.le_refl _, rfl, ?_⟩
    simp [zero, roundEven, fraction, minExponent]
  rw [if_neg zero]
  have low := exponentOf_le below
  generalize exponentOf num den = e at low
  obtain ⟨j, rfl⟩ : ∃ j : Nat, e = -(j + 1 : Nat) := ⟨(-e).toNat - 1, by omega⟩
  have broken (j : Nat) : ¬ (0 : Int) ≤ -(j + 1 : Nat) := by omega
  have finite (j : Nat) : ¬ maxExponent < -(j : Nat) := by unfold maxExponent; omega
  have next : -((j + 1 : Nat) : Int) + 1 = -(j : Nat) := by omega
  dsimp only
  rw [if_neg (broken j), Int.neg_neg, Int.toNat_natCast, next]
  by_cases full : roundEven (num * twoTo (j + 1)) den = twoTo 53
  · rw [if_pos full]
    dsimp only
    rw [if_neg (finite j)]
    refine ⟨j + 1, _, _, by omega, rfl, ?_⟩
    obtain ⟨i, rfl⟩ : ∃ i, j = i + 1 := ⟨j - 1, by omega⟩
    have same : roundEven (num * 2 ^ (i + 1 + 1)) den = 2 ^ 52 * 2 := full
    rw [fraction, if_neg (broken i), Int.neg_neg, Int.toNat_natCast, same, Nat.pow_succ 2 (i + 1),
      Nat.mul_div_mul_right _ _ Nat.two_pos]
    rfl
  · rw [if_neg full]
    dsimp only
    rw [if_neg (finite (j + 1))]
    refine ⟨j + 1, _, _, by omega, rfl, ?_⟩
    rw [fraction, if_neg (broken j), Int.neg_neg, Int.toNat_natCast]
    rfl

end Binary64

variable {p k : Nat}

/-- The whole part of a rounded quotient is less than one away from the quotient, since a quotient that
is rounded to a whole number lies next to it. -/
theorem whole_roundEven_bounds (pos : 0 < den) :
    let n := roundEven (num * 2 ^ k) den / 2 ^ k
    n * den < num + den ∧ num < (n + 1) * den := by
  intro n
  obtain ⟨above, below⟩ := @roundEven_bounds (num * 2 ^ k) den pos
  have room : 0 < 2 ^ k := Nat.two_pow_pos k
  have low : n * 2 ^ k ≤ roundEven (num * 2 ^ k) den := Nat.div_mul_le_self _ _
  have high : roundEven (num * 2 ^ k) den + 1 ≤ (n + 1) * 2 ^ k :=
    Nat.lt_mul_of_div_lt (Nat.lt_succ_self n) room
  constructor
  · have half : den < 2 * 2 ^ k * den := lt_mul_of_one_lt_left pos (by omega)
    refine Nat.lt_of_mul_lt_mul_right (a := 2 * 2 ^ k) ?_
    calc n * den * (2 * 2 ^ k) = 2 * (n * 2 ^ k) * den := by ring
      _ ≤ 2 * roundEven (num * 2 ^ k) den * den := by gcongr
      _ ≤ 2 * (num * 2 ^ k) + den := below
      _ < 2 * (num * 2 ^ k) + 2 * 2 ^ k * den := Nat.add_lt_add_left half _
      _ = (num + den) * (2 * 2 ^ k) := by ring
  · refine Nat.lt_of_mul_lt_mul_right (a := 2 * 2 ^ k) ?_
    calc num * (2 * 2 ^ k) = 2 * (num * 2 ^ k) := by ring
      _ ≤ (2 * roundEven (num * 2 ^ k) den + 1) * den := above
      _ < 2 * (roundEven (num * 2 ^ k) den + 1) * den := Nat.mul_lt_mul_of_pos_right (by omega) pos
      _ ≤ 2 * ((n + 1) * 2 ^ k) * den := by gcongr
      _ = (n + 1) * den * (2 * 2 ^ k) := by ring

/-- A number below one that is coarse or small is so far from one that a thousand times the number is not
rounded to a thousand. -/
theorem whole_roundEven_lt (many : 43 ≤ k) (less : p < den) (apart : den ≤ 2 ^ 53 ∨ 2 * p ≤ den) :
    roundEven (p * 1000 * 2 ^ k) den / 2 ^ k < 1000 := by
  obtain ⟨d, rfl⟩ : ∃ d, den = p + d := ⟨den - p, by omega⟩
  have some : 0 < d := by omega
  have places : 2 ^ 43 ≤ 2 ^ k := Nat.pow_le_pow_right Nat.two_pos many
  have gap : p + d < 2000 * (2 ^ k * d) := by
    obtain coarse | small := apart
    · have scaled : 2 ^ k ≤ 2 ^ k * d := Nat.le_mul_of_pos_right _ some
      omega
    · have scaled : d ≤ 2 ^ k * d := Nat.le_mul_of_pos_left _ (Nat.two_pow_pos k)
      omega
  rw [Nat.div_lt_iff_lt_mul (Nat.two_pow_pos k), roundEven_lt_iff (by omega) (by omega)]
  calc 2 * (p * 1000 * 2 ^ k) + (p + d) < 2 * (p * 1000 * 2 ^ k) + 2000 * (2 ^ k * d) :=
        Nat.add_lt_add_left gap _
    _ = 1000 * 2 ^ k * (2 * (p + d)) := by ring

end TexBuild
