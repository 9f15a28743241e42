import Finder.Real.Binary64
import Mathlib.Algebra.Order.Field.Power
import Mathlib.Algebra.Order.Ring.Rat
import Mathlib.Tactic.Linarith
import Mathlib.Tactic.NormNum
import Mathlib.Tactic.Ring

namespace Finder

-- What a number amounts to. The two zeros amount to the same.
inductive Amount where
  | finite (value : ℚ)
  | infinite (negative : Bool)

namespace Binary64

def size (mantissa : Nat) (exponent : Int) : ℚ :=
  mantissa * 2 ^ exponent

def amount : Binary64 → Amount
  | .finite negative mantissa exponent =>
      .finite (if negative then -size mantissa exponent else size mantissa exponent)
  | .infinite negative => .infinite negative

-- The form in which numbers are held: 53 digits, or fewer of them at the least exponent.
def Reduced : Binary64 → Prop
  | .finite _ mantissa exponent => mantissa < 2 ^ 53 ∧ leastExponent ≤ exponent ∧
      (exponent = leastExponent ∨ 2 ^ 52 ≤ mantissa)
  | .infinite _ => True

theorem two_zpow_pos (exponent : Int) : (0 : ℚ) < 2 ^ exponent :=
  zpow_pos two_pos exponent

theorem size_nonneg (mantissa : Nat) (exponent : Int) : 0 ≤ size mantissa exponent :=
  mul_nonneg (Nat.cast_nonneg mantissa) (two_zpow_pos exponent).le

theorem size_eq_zero_iff (mantissa : Nat) (exponent : Int) :
    size mantissa exponent = 0 ↔ mantissa = 0 := by
  rw [size, mul_eq_zero, Nat.cast_eq_zero]
  exact or_iff_left (two_zpow_pos exponent).ne'

-- A mantissa of 53 digits is too large for a smaller exponent.
theorem exponent_le_of_size_eq {sign other : Bool} {m n : Nat} {e f : Int}
    (hfirst : (finite sign m e).Reduced) (hsecond : (finite other n f).Reduced)
    (h : size m e = size n f) : f ≤ e := by
  by_contra hlt
  obtain ⟨hm, he, _⟩ := hfirst
  obtain ⟨_, _, hn⟩ := hsecond
  have hdigits : 2 ^ 52 ≤ n := hn.resolve_left (by omega)
  obtain ⟨more, rfl⟩ : ∃ more : Nat, f = e + 1 + more := ⟨(f - e - 1).toNat, by omega⟩
  have hmantissa : m = n * (2 * 2 ^ more) := by
    rw [size, size, zpow_add₀ two_ne_zero, zpow_add₀ two_ne_zero, zpow_one, zpow_natCast] at h
    have hcancel : (m : ℚ) = n * (2 * 2 ^ more) := by
      refine mul_right_cancel₀ (two_zpow_pos e).ne' ?_
      rw [h]
      ring
    exact_mod_cast hcancel
  have hmore := Nat.one_le_two_pow (n := more)
  have hlarge : n * 2 ≤ m := by
    rw [hmantissa]
    exact Nat.mul_le_mul_left n (by omega)
  omega

theorem size_inj {sign other : Bool} {m n : Nat} {e f : Int}
    (hfirst : (finite sign m e).Reduced) (hsecond : (finite other n f).Reduced) :
    size m e = size n f ↔ m = n ∧ e = f := by
  constructor
  · intro h
    have hexponent : e = f := le_antisymm (exponent_le_of_size_eq hsecond hfirst h.symm)
      (exponent_le_of_size_eq hfirst hsecond h)
    subst hexponent
    have hmantissa := mul_right_cancel₀ (two_zpow_pos e).ne' h
    exact ⟨Nat.cast_injective hmantissa, rfl⟩
  · rintro ⟨rfl, rfl⟩
    rfl

theorem signed_eq_iff (sign other : Bool) {a b : ℚ} (ha : 0 ≤ a) (hb : 0 ≤ b) :
    (if sign then -a else a) = (if other then -b else b) ↔ a = b ∧ (sign = other ∨ a = 0) := by
  have hopposite : a + b = 0 ↔ a = b ∧ a = 0 := by
    constructor
    · intro h
      exact ⟨by linarith, by linarith⟩
    · rintro ⟨rfl, h⟩
      rw [h, add_zero]
  cases sign <;> cases other
  · simp
  · simpa [eq_neg_iff_add_eq_zero] using hopposite
  · simpa [neg_eq_iff_add_eq_zero] using hopposite
  · simp

theorem same_finite_iff (sign other : Bool) (m n : Nat) (e f : Int) :
    (finite sign m e).same (finite other n f) ↔
      m = 0 ∧ n = 0 ∨ sign = other ∧ m = n ∧ e = f := by
  cases m <;> cases n <;> simp [same]

-- Two numbers in the form in which they are held are the same where they amount to the same.
theorem same_iff {x y : Binary64} (hx : x.Reduced) (hy : y.Reduced) :
    x.same y ↔ x.amount = y.amount := by
  cases x with
  | infinite sign => cases y <;> simp [same, amount]
  | finite sign m e =>
      cases y with
      | infinite other => simp [same, amount]
      | finite other n f =>
          rw [same_finite_iff, amount, amount, Amount.finite.injEq,
            signed_eq_iff sign other (size_nonneg m e) (size_nonneg n f), size_inj hx hy,
            size_eq_zero_iff]
          constructor
          · rintro (⟨rfl, rfl⟩ | ⟨hsign, rfl, rfl⟩)
            · obtain ⟨_, _, he⟩ := hx
              obtain ⟨_, _, hf⟩ := hy
              exact ⟨⟨rfl, by omega⟩, .inr rfl⟩
            · exact ⟨⟨rfl, rfl⟩, .inl hsign⟩
          · rintro ⟨⟨rfl, rfl⟩, hsign | rfl⟩
            · exact .inr ⟨hsign, rfl, rfl⟩
            · exact .inl ⟨rfl, rfl⟩

theorem ratio_snd_pos (mantissa : Nat) (exponent : Int) : 0 < (ratio mantissa exponent).2 := by
  unfold ratio
  split
  · exact Nat.one_pos
  · exact Nat.pow_pos two_pos

theorem ratio_div (mantissa : Nat) (exponent : Int) :
    ((ratio mantissa exponent).1 : ℚ) / (ratio mantissa exponent).2 = size mantissa exponent := by
  unfold ratio size
  split
  · next h =>
    obtain ⟨power, rfl⟩ := Int.eq_ofNat_of_zero_le h
    simp
  · next h =>
    obtain ⟨power, rfl⟩ : ∃ power : Nat, exponent = -power := ⟨(-exponent).toNat, by omega⟩
    simp [div_eq_mul_inv]

-- A whole number and another number are compared by what they amount to, in whatever form.
theorem equalsInt_iff (n : Int) (x : Binary64) : equalsInt n x ↔ x.amount = .finite n := by
  cases x with
  | infinite sign => simp [equalsInt, amount]
  | finite sign m e =>
      have hpos : (0 : ℚ) < (ratio m e).2 := by exact_mod_cast ratio_snd_pos m e
      simp only [equalsInt, beq_iff_eq, amount, Amount.finite.injEq, ← ratio_div]
      rw [← Int.cast_inj (α := ℚ)]
      cases sign
      · simp only [Bool.false_eq_true, if_false, Int.cast_mul, Int.cast_natCast]
        rw [div_eq_iff hpos.ne', eq_comm]
      · simp only [if_true, Int.cast_mul, Int.cast_natCast, Int.cast_neg]
        rw [← neg_div, div_eq_iff hpos.ne', eq_comm]

theorem scale_snd_pos (numerator : Nat) {denominator : Nat} (h : 0 < denominator)
    (exponent : Int) : 0 < (scale numerator denominator exponent).2 := by
  unfold scale
  split
  · exact Nat.mul_pos h (Nat.pow_pos two_pos)
  · exact h

theorem scale_div (numerator denominator : Nat) (exponent : Int) :
    ((scale numerator denominator exponent).1 : ℚ) / (scale numerator denominator exponent).2 =
      numerator / denominator / 2 ^ exponent := by
  unfold scale
  split
  · next h =>
    obtain ⟨power, rfl⟩ := Int.eq_ofNat_of_zero_le h
    simp [div_div]
  · next h =>
    obtain ⟨power, rfl⟩ : ∃ power : Nat, exponent = -power := ⟨(-exponent).toNat, by omega⟩
    simp [mul_div_right_comm]

theorem scale_lt_iff (numerator : Nat) {denominator : Nat} (hd : 0 < denominator) (exponent : Int)
    (bound : Nat) :
    (scale numerator denominator exponent).1 < bound * (scale numerator denominator exponent).2 ↔
      (numerator : ℚ) / denominator < bound * 2 ^ exponent := by
  have hpos : (0 : ℚ) < (scale numerator denominator exponent).2 := by
    exact_mod_cast scale_snd_pos numerator hd exponent
  rw [← Nat.cast_lt (α := ℚ), Nat.cast_mul, ← div_lt_iff₀ hpos, scale_div,
    div_lt_iff₀ (two_zpow_pos exponent)]

-- The exponent at which a value has 53 digits before the point, or fewer at the least exponent.
structure Fits (value : ℚ) (exponent : Int) : Prop where
  least : leastExponent ≤ exponent
  lt : value < 2 ^ (exponent + 53)
  ge : exponent = leastExponent ∨ 2 ^ (exponent + 52) ≤ value

theorem fits_max {value : ℚ} {exponent : Int} (hlt : value < 2 ^ (exponent + 53))
    (hge : 2 ^ (exponent + 52) ≤ value) : Fits value (max leastExponent exponent) := by
  rcases le_total exponent leastExponent with h | h
  · rw [max_eq_left h]
    exact ⟨le_rfl, hlt.trans_le (zpow_le_zpow_right₀ one_le_two (by omega)), .inl rfl⟩
  · rw [max_eq_right h]
    exact ⟨h, hlt, .inr hge⟩

theorem two_zpow_log2_le {n : Nat} (h : n ≠ 0) : (2 : ℚ) ^ (n.log2 : Int) ≤ n := by
  rw [zpow_natCast]
  exact_mod_cast Nat.log2_self_le h

theorem lt_two_zpow_log2 (n : Nat) : (n : ℚ) < 2 ^ ((n.log2 : Int) + 1) := by
  have hlt := Nat.lt_log2_self (n := n)
  exact_mod_cast hlt

-- The lengths of numerator and denominator tell the exponent of the quotient up to one.
theorem log2_quotient_bounds {numerator denominator : Nat} (hn : numerator ≠ 0)
    (hd : 0 < denominator) :
    (2 : ℚ) ^ ((numerator.log2 : Int) - denominator.log2 - 1) ≤ numerator / denominator ∧
      (numerator : ℚ) / denominator < 2 ^ ((numerator.log2 : Int) - denominator.log2 + 1) := by
  have hpos : (0 : ℚ) < denominator := by exact_mod_cast hd
  constructor
  · rw [le_div_iff₀ hpos]
    calc (2 : ℚ) ^ ((numerator.log2 : Int) - denominator.log2 - 1) * denominator
        ≤ 2 ^ ((numerator.log2 : Int) - denominator.log2 - 1) *
            2 ^ ((denominator.log2 : Int) + 1) :=
          mul_le_mul_of_nonneg_left (lt_two_zpow_log2 denominator).le (two_zpow_pos _).le
      _ = 2 ^ (numerator.log2 : Int) := by
          rw [← zpow_add₀ two_ne_zero]
          congr 1
          omega
      _ ≤ numerator := two_zpow_log2_le hn
  · rw [div_lt_iff₀ hpos]
    calc (numerator : ℚ) < 2 ^ ((numerator.log2 : Int) + 1) := lt_two_zpow_log2 numerator
      _ = 2 ^ ((numerator.log2 : Int) - denominator.log2 + 1) * 2 ^ (denominator.log2 : Int) := by
          rw [← zpow_add₀ two_ne_zero]
          congr 1
          omega
      _ ≤ 2 ^ ((numerator.log2 : Int) - denominator.log2 + 1) * denominator :=
          mul_le_mul_of_nonneg_left (two_zpow_log2_le hd.ne') (two_zpow_pos _).le

-- Of the two exponents that are left by the lengths, a comparison picks one.
theorem fits_exponentOf {numerator denominator : Nat} (hn : numerator ≠ 0) (hd : 0 < denominator) :
    Fits (numerator / denominator) (exponentOf numerator denominator) := by
  obtain ⟨habove, hbelow⟩ := log2_quotient_bounds hn hd
  unfold exponentOf
  generalize hguess : (numerator.log2 : Int) - denominator.log2 - 52 = guess
  rw [show (numerator.log2 : Int) - denominator.log2 - 1 = guess + 51 by omega] at habove
  rw [show (numerator.log2 : Int) - denominator.log2 + 1 = guess + 53 by omega] at hbelow
  have hsmall : (scale numerator denominator guess).1 <
      Nat.pow 2 52 * (scale numerator denominator guess).2 ↔
        (numerator : ℚ) / denominator < 2 ^ (guess + 52) := by
    refine (scale_lt_iff numerator hd guess (2 ^ 52)).trans ?_
    rw [zpow_add₀ two_ne_zero, mul_comm]
    norm_num
  simp only [hsmall]
  split
  · next hlt =>
    refine fits_max ?_ ?_
    · rwa [show guess - 1 + 53 = guess + 52 by omega]
    · rwa [show guess - 1 + 52 = guess + 51 by omega]
  · next hge => exact fits_max hbelow (not_lt.mp hge)

theorem roundQuotient_bounds (numerator denominator : Nat) :
    numerator / denominator ≤ roundQuotient numerator denominator ∧
      roundQuotient numerator denominator ≤ numerator / denominator + 1 := by
  unfold roundQuotient
  dsimp only
  split
  · omega
  · split <;> omega

theorem quotient_of_fits (numerator : Nat) {denominator : Nat} {exponent : Int}
    (hd : 0 < denominator) (h : Fits (numerator / denominator) exponent) :
    (scale numerator denominator exponent).1 / (scale numerator denominator exponent).2 < 2 ^ 53 ∧
      (exponent = leastExponent ∨ 2 ^ 52 ≤ (scale numerator denominator exponent).1 /
        (scale numerator denominator exponent).2) := by
  obtain ⟨_, hlt, hge⟩ := h
  have hscaled := scale_snd_pos numerator hd exponent
  constructor
  · rw [Nat.div_lt_iff_lt_mul hscaled, scale_lt_iff numerator hd]
    rw [add_comm, zpow_add₀ two_ne_zero] at hlt
    exact_mod_cast hlt
  · refine hge.imp_right fun hge => ?_
    rw [Nat.le_div_iff_mul_le hscaled, ← Nat.not_lt, scale_lt_iff numerator hd, not_lt]
    rw [add_comm, zpow_add₀ two_ne_zero] at hge
    exact_mod_cast hge

-- Rounding up may give a digit too many, which then moves into the exponent.
theorem reduced_ofRatio (numerator : Nat) {denominator : Nat} (hd : 0 < denominator) :
    (ofRatio numerator denominator).Reduced := by
  by_cases hn : numerator = 0
  · rw [ofRatio, if_pos hn]
    exact ⟨by decide, le_rfl, .inl rfl⟩
  · rw [ofRatio, if_neg hn]
    have hfits := fits_exponentOf hn hd
    generalize exponentOf numerator denominator = exponent at hfits
    have hleast := hfits.least
    obtain ⟨htop, hbottom⟩ := quotient_of_fits numerator hd hfits
    obtain ⟨hlower, hupper⟩ := roundQuotient_bounds (scale numerator denominator exponent).1
      (scale numerator denominator exponent).2
    dsimp only
    split
    · dsimp only
      split
      · trivial
      · exact ⟨by decide, by omega, .inr le_rfl⟩
    · next hne =>
      have hne' : roundQuotient (scale numerator denominator exponent).1
        (scale numerator denominator exponent).2 ≠ 2 ^ 53 := hne
      dsimp only
      split
      · trivial
      · exact ⟨by omega, hleast, hbottom.imp_right hlower.trans'⟩

-- Every number that is written in decimals comes in this form.
theorem reduced_ofDecimal (digits : Nat) (exponent : Int) :
    (ofDecimal digits exponent).Reduced := by
  unfold ofDecimal
  dsimp only
  split
  · exact ⟨by decide, le_rfl, .inl rfl⟩
  · split
    · trivial
    · split
      · exact ⟨by decide, le_rfl, .inl rfl⟩
      · split
        · exact reduced_ofRatio _ Nat.one_pos
        · exact reduced_ofRatio _ (Nat.pow_pos (by decide))

end Binary64

end Finder
