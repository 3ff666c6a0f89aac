namespace SqlTemplate

def roundQuotient (n d : Nat) : Nat :=
  if 2 * (n % d) < d then n / d
  else if d < 2 * (n % d) then n / d + 1
  else n / d + n / d % 2

def significantStep (n : Nat) : Nat := Nat.pow 2 (n.log2 - 52)

def IsSignificant (n : Nat) : Prop := significantStep n ∣ n

instance (n : Nat) : Decidable (IsSignificant n) := inferInstanceAs (Decidable (_ ∣ _))

def roundSignificant (n d : Nat) : Nat :=
  roundQuotient n (d * significantStep (n / d)) * significantStep (n / d)

theorem roundQuotient_le (n d : Nat) : roundQuotient n d ≤ n / d + 1 := by
  unfold roundQuotient
  split
  · omega
  · split <;> omega

def significandLimit : Nat := Nat.pow 2 53

theorem div_significantStep_lt (q : Nat) : q / significantStep q < significandLimit := by
  apply Nat.div_lt_of_lt_mul
  have : q < 2 ^ (q.log2 + 1) := Nat.lt_log2_self
  apply Nat.lt_of_lt_of_le this
  rw [significantStep, significandLimit, Nat.pow_eq, Nat.pow_eq, ← Nat.pow_add]
  exact Nat.pow_le_pow_right (by omega) (by omega)

theorem isSignificant_mul_pow {m e : Nat} (h : m ≤ significandLimit) :
    IsSignificant (m * Nat.pow 2 e) := by
  unfold IsSignificant significantStep
  rw [significandLimit, Nat.pow_eq] at h
  simp only [Nat.pow_eq]
  rcases Nat.eq_zero_or_pos m with rfl | pos
  · simp
  have nonzero : m * 2 ^ e ≠ 0 := Nat.ne_of_gt (Nat.mul_pos pos (Nat.two_pow_pos e))
  rcases Nat.lt_or_ge m (2 ^ 53) with small | large
  · have : (m * 2 ^ e).log2 < 53 + e := by
      rw [Nat.log2_lt nonzero, Nat.pow_add]
      exact Nat.mul_lt_mul_of_pos_right small (Nat.two_pow_pos e)
    exact Nat.dvd_trans (Nat.pow_dvd_pow 2 (by omega)) (Nat.dvd_mul_left _ _)
  · have : m = 2 ^ 53 := Nat.le_antisymm h large
    subst this
    rw [← Nat.pow_add, Nat.log2_two_pow]
    exact Nat.pow_dvd_pow 2 (by omega)

theorem isSignificant_roundSignificant (n d : Nat) : IsSignificant (roundSignificant n d) := by
  apply isSignificant_mul_pow
  have h := roundQuotient_le n (d * significantStep (n / d))
  have := div_significantStep_lt (n / d)
  rw [Nat.div_div_eq_div_mul] at this
  omega

theorem roundQuotient_mul {n d : Nat} (h : 0 < d) : roundQuotient (n * d) d = n := by
  simp [roundQuotient, Nat.mul_mod_left, Nat.mul_div_cancel n h, h]

theorem significantStep_pos (n : Nat) : 0 < significantStep n := Nat.two_pow_pos _

theorem roundSignificant_one {n : Nat} (h : IsSignificant n) : roundSignificant n 1 = n := by
  have whole : n / significantStep n * significantStep n = n := Nat.div_mul_cancel h
  have same : roundQuotient n (significantStep n) = n / significantStep n := by
    conv => lhs; arg 1; rw [← whole]
    exact roundQuotient_mul (significantStep_pos n)
  rw [roundSignificant, Nat.div_one, Nat.one_mul, same, whole]

end SqlTemplate
