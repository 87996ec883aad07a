import LogtalkNavigation.Double.Basic

/-! Fractions that no double is near to. The exponent of a fraction is guessed from the logarithms of its two
numbers, and it puts the mantissa between `2 ^ 52` and `2 ^ 53`. So a fraction rounds to infinity from the middle
between the greatest double and `2 ^ 1024` on. -/

namespace LogtalkNavigation.Double

theorem twoTo_add (m n : Nat) : twoTo (m + n) = twoTo m * twoTo n := Nat.pow_add 2 m n

theorem twoTo_succ (n : Nat) : twoTo (n + 1) = 2 * twoTo n := by
  rw [Nat.mul_comm]
  exact Nat.pow_succ 2 n

theorem twoTo_pos (n : Nat) : 0 < twoTo n := Nat.two_pow_pos n

def Below (num den : Nat) (power : Int) : Prop :=
  num * twoTo (-power).toNat < den * twoTo power.toNat

section Fraction

variable {num den : Nat}

-- Both sides may have been multiplied by a power of two.
theorem below_iff (left right : Nat) :
    Below num den (right - left) ↔ num * twoTo left < den * twoTo right := by
  have lefts : left = (-((right : Int) - left)).toNat + min left right := by omega
  have rights : right = ((right : Int) - left).toNat + min left right := by omega
  generalize ((right : Int) - left) = power at lefts rights
  generalize min left right = common at lefts rights
  rw [lefts, rights, twoTo_add, twoTo_add, ← Nat.mul_assoc, ← Nat.mul_assoc]
  exact (Nat.mul_lt_mul_right (twoTo_pos common)).symm

theorem below_natCast (power : Nat) : Below num den power ↔ num < den * twoTo power := by
  have same : Below num den (power - (0 : Nat)) ↔ num * 1 < den * twoTo power := below_iff 0 power
  rwa [Int.natCast_zero, Int.sub_zero, Nat.mul_one] at same

theorem Below.mono {low high : Int} (below : Below num den low) (ordered : low ≤ high) :
    Below num den high := by
  obtain ⟨more, rfl⟩ := Int.le.dest ordered
  have exponents : low + more = ((low.toNat + more : Nat) : Int) - ((-low).toNat : Nat) := by omega
  rw [exponents, below_iff, twoTo_add, ← Nat.mul_assoc]
  exact Nat.lt_of_lt_of_le below (Nat.le_mul_of_pos_right _ (twoTo_pos more))

theorem scaled_eq (exponent : Int) :
    scaled num den exponent = (num * twoTo (-exponent).toNat, den * twoTo exponent.toNat) := by
  unfold scaled
  split
  · have none : (-exponent).toNat = 0 := by omega
    rw [none]
    exact congrArg (·, _) (Nat.mul_one num).symm
  · have none : exponent.toNat = 0 := by omega
    rw [none]
    exact congrArg (_, ·) (Nat.mul_one den).symm

theorem scaled_lt_iff (exponent : Int) (power : Nat) :
    (scaled num den exponent).1 < (scaled num den exponent).2 * twoTo power ↔
      Below num den (exponent + power) := by
  have exponents : exponent + power = ((exponent.toNat + power : Nat) : Int) - ((-exponent).toNat : Nat) := by
    omega
  rw [scaled_eq, exponents, below_iff, twoTo_add, Nat.mul_assoc]

theorem below_log2 (num : Nat) (nonzero : den ≠ 0) : Below num den (num.log2 - den.log2 + 1) := by
  have exponents : (num.log2 : Int) - den.log2 + 1 = ((num.log2 + 1 : Nat) : Int) - den.log2 := by omega
  rw [exponents, below_iff, Nat.mul_comm den]
  calc num * twoTo den.log2
      < twoTo (num.log2 + 1) * twoTo den.log2 := (Nat.mul_lt_mul_right (twoTo_pos _)).mpr Nat.lt_log2_self
    _ ≤ twoTo (num.log2 + 1) * den := Nat.mul_le_mul_left _ (Nat.log2_self_le nonzero)

theorem not_below_log2 (den : Nat) (nonzero : num ≠ 0) : ¬ Below num den (num.log2 - den.log2 - 1) := by
  have exponents : (num.log2 : Int) - den.log2 - 1 = (num.log2 : Int) - ((den.log2 + 1 : Nat) : Int) := by omega
  rw [exponents, below_iff, Nat.not_lt, Nat.mul_comm num]
  calc den * twoTo num.log2
      ≤ twoTo (den.log2 + 1) * twoTo num.log2 := Nat.mul_le_mul_right _ (Nat.le_of_lt Nat.lt_log2_self)
    _ ≤ twoTo (den.log2 + 1) * num := Nat.mul_le_mul_left _ (Nat.log2_self_le nonzero)

theorem exponentOf_eq (num den : Nat) :
    exponentOf num den = max (if (scaled num den (num.log2 - den.log2 - 52)).1 <
        (scaled num den (num.log2 - den.log2 - 52)).2 * twoTo 52 then (num.log2 - den.log2 - 52 - 1 : Int)
      else num.log2 - den.log2 - 52) (-1074) := rfl

-- The guess is right, or too great by one.
theorem exponentOf_spec (nonzero : num ≠ 0) (proper : den ≠ 0) :
    Below num den (exponentOf num den + 53) ∧
      (exponentOf num den = -1074 ∨ ¬ Below num den (exponentOf num den + 52)) := by
  have above := below_log2 num proper
  have under := not_below_log2 den nonzero
  rw [exponentOf_eq]
  generalize (num.log2 : Int) - den.log2 = magnitude at above under
  split
  next low =>
      have below := (scaled_lt_iff _ 52).mp low
      constructor
      · exact below.mono (by omega)
      · by_cases least : magnitude - 52 - 1 ≤ -1074
        · exact .inl (by omega)
        · exact .inr fun lower => under (lower.mono (by omega))
  next high =>
      constructor
      · exact above.mono (by omega)
      · by_cases least : magnitude - 52 ≤ -1074
        · exact .inl (by omega)
        · exact .inr fun lower => high ((scaled_lt_iff _ 52).mpr (lower.mono (by omega)))

theorem roundDiv_bounds (num den : Nat) : num / den ≤ roundDiv num den ∧ roundDiv num den ≤ num / den + 1 := by
  unfold roundDiv
  dsimp only
  split
  · omega
  · split
    · omega
    · split <;> omega

-- A quotient in the middle below an even number is rounded to it.
theorem le_roundDiv_iff {bound : Nat} (even : bound % 2 = 0) (positive : 0 < bound) (proper : 0 < den) :
    bound ≤ roundDiv num den ↔ (2 * bound - 1) * den ≤ 2 * num := by
  obtain ⟨least, most⟩ := roundDiv_bounds num den
  have divided := Nat.div_add_mod num den
  have rest := Nat.mod_lt num proper
  rcases Nat.lt_trichotomy bound (num / den + 1) with less | same | more
  · have product := Nat.mul_le_mul_right den (Nat.le_of_lt_succ less)
    have doubled : (2 * bound - 1) * den ≤ 2 * (bound * den) := by
      rw [← Nat.mul_assoc]
      exact Nat.mul_le_mul_right den (Nat.sub_le _ _)
    rw [Nat.mul_comm (num / den)] at product
    exact iff_of_true (by omega) (by omega)
  · have doubled : (2 * bound - 1) * den = 2 * (den * (num / den)) + den := by
      rw [same, show 2 * (num / den + 1) - 1 = 2 * (num / den) + 1 by omega, Nat.succ_mul, Nat.mul_assoc,
        Nat.mul_comm (num / den)]
    rw [doubled]
    unfold roundDiv
    dsimp only
    split
    · omega
    · split
      · omega
      · split <;> omega
  · have product := Nat.mul_le_mul_right den (show 2 * (num / den) + 3 ≤ 2 * bound - 1 by omega)
    have triple : (2 * (num / den) + 3) * den = 2 * (den * (num / den)) + 3 * den := by
      rw [Nat.add_mul, Nat.mul_assoc, Nat.mul_comm (num / den)]
    exact iff_of_false (by omega) (by omega)

theorem roundDiv_eq_iff {bound : Nat} (even : bound % 2 = 0) (positive : 0 < bound) (proper : 0 < den)
    (below : num < bound * den) : roundDiv num den = bound ↔ (2 * bound - 1) * den ≤ 2 * num := by
  have most := (roundDiv_bounds num den).2
  have quotient := (Nat.div_lt_iff_lt_mul proper).mpr below
  rw [← le_roundDiv_iff even positive proper]
  omega

-- Rounding up to `2 ^ 53` makes the exponent one greater.
theorem ofRatio_infinite_cases (negative : Bool) (nonzero : num ≠ 0) (proper : den ≠ 0) :
    (∃ sign, ofRatio negative num den = .infinite sign) ↔
      971 < exponentOf num den ∨ (exponentOf num den = 971 ∧
        roundDiv (scaled num den (exponentOf num den)).1 (scaled num den (exponentOf num den)).2 = twoTo 53) := by
  rw [ofRatio, if_neg (by simp [nonzero, proper])]
  extract_lets exponent
  rcases scaled num den exponent with ⟨num', den'⟩
  dsimp only
  by_cases carried : roundDiv num' den' = twoTo 53
  · rw [if_pos carried]
    dsimp only
    split
    · exact iff_of_true ⟨negative, rfl⟩ (by omega)
    · exact iff_of_false (by simp) (by omega)
  · rw [if_neg carried]
    dsimp only
    split
    next great => exact iff_of_true ⟨negative, rfl⟩ (.inl great)
    next small => exact iff_of_false (by simp) (by omega)

/-- The middle between the greatest double and `2 ^ 1024`. -/
def limit : Nat := (twoTo 54 - 1) * twoTo 970

-- All is counted in units of `den * 2 ^ 970`, so that the powers of two that are left are small.
theorem limit_mul (den : Nat) : limit * den = 18014398509481983 * (den * twoTo 970) := by
  rw [limit, Nat.mul_assoc, Nat.mul_comm (twoTo 970)]
  rfl

theorem below_units (power : Nat) :
    Below num den (970 + power : Nat) ↔ num < den * twoTo 970 * twoTo power := by
  rw [below_natCast, twoTo_add, Nat.mul_assoc]

-- At the greatest exponent, the mantissa is rounded up to `2 ^ 53` from the limit on.
theorem carried_iff (proper : 0 < den) (below : Below num den 1024) :
    roundDiv (scaled num den 971).1 (scaled num den 971).2 = twoTo 53 ↔ limit * den ≤ num := by
  have positive : 0 < den * twoTo 970 := Nat.mul_pos proper (twoTo_pos 970)
  have small : num < den * twoTo 970 * 18014398509481984 := (below_units 54).mp below
  have parts : scaled num den 971 = (num, 2 * (den * twoTo 970)) := by
    have doubled : twoTo 971 = 2 * twoTo 970 := twoTo_succ 970
    have power : (971 : Int).toNat = 971 := rfl
    rw [scaled, if_pos (by decide), power, doubled, Nat.mul_left_comm]
  have rounded : roundDiv num (2 * (den * twoTo 970)) = 9007199254740992 ↔ _ :=
    roundDiv_eq_iff (by decide) (by decide) (by omega) (by omega)
  rw [parts, limit_mul]
  change roundDiv num (2 * (den * twoTo 970)) = 9007199254740992 ↔ _
  omega

theorem ofRatio_infinite_iff (negative : Bool) (num : Nat) (proper : 0 < den) :
    (∃ sign, ofRatio negative num den = .infinite sign) ↔ limit * den ≤ num := by
  have positive : 0 < den * twoTo 970 := Nat.mul_pos proper (twoTo_pos 970)
  by_cases nothing : num = 0
  · subst nothing
    rw [limit_mul]
    exact iff_of_false (by simp [ofRatio]) (by omega)
  · have nonzero := Nat.pos_iff_ne_zero.mp proper
    obtain ⟨above, under⟩ := exponentOf_spec nothing nonzero
    rw [ofRatio_infinite_cases negative nothing nonzero]
    generalize exponentOf num den = exponent at above under
    rcases Int.lt_trichotomy exponent 971 with less | rfl | more
    · have small : num < den * twoTo 970 * 9007199254740992 := (below_units 53).mp (above.mono (by omega))
      rw [limit_mul]
      exact iff_of_false (by omega) (by omega)
    · rw [carried_iff proper above]
      omega
    · have great : ¬ num < den * twoTo 970 * 18014398509481984 :=
        mt (below_units 54).mpr fun below => under.resolve_left (by omega) (below.mono (by omega))
      rw [limit_mul]
      exact iff_of_true (.inl more) (by omega)

end Fraction

end LogtalkNavigation.Double
