import Mathlib.Algebra.Order.Field.Power
import Mathlib.Data.Nat.Cast.Order.Field
import Mathlib.Data.Rat.Cast.Order
import Mathlib.Tactic.FieldSimp
import Mathlib.Tactic.Linarith
import Mathlib.Tactic.NormNum
import Mathlib.Tactic.Positivity
import Mathlib.Tactic.Ring
import IdentityConsole.Json.Number

/-!
# Errors of floating point

A fraction is rounded with an error of at most one part in `2 ^ 53`, or of half the least positive
number where the result is tiny. The errors of products, quotients and scalings are counted by the
roundings they come from.
-/

namespace IdentityConsole.Json.Binary64

/-- The magnitude. -/
def size (x : Binary64) : ℚ :=
  x.significand * 2 ^ x.exponent

/-- The greatest relative error of one rounding. -/
def unit : ℚ := 2 ^ (-53 : ℤ)

/-- The least positive number. -/
def least : ℚ := 2 ^ leastExponent

/-- The second number is the first after so many roundings, but for an absolute error. -/
def Near (roundings : ℕ) (error exact x : ℚ) : Prop :=
  |x - exact| ≤ ((1 + unit) ^ roundings - 1) * exact + error

/-- The second number is the first after one rounding to the nearest. -/
def Rounded (exact x : ℚ) : Prop :=
  |x - exact| ≤ max (unit * exact) (least / 2)

theorem unit_pos : 0 < unit := by unfold unit; positivity

theorem least_pos : 0 < least := by unfold least; positivity

theorem size_nonneg (x : Binary64) : 0 ≤ x.size := by unfold size; positivity

/-! ### Errors add up -/

section Near

variable {m n : ℕ} {a x y c r s : ℚ}

theorem one_le_growth (n : ℕ) : 1 ≤ (1 + unit) ^ n :=
  one_le_pow₀ (by linarith [unit_pos])

theorem Near.le (h : Near n r a x) : x ≤ (1 + unit) ^ n * a + r := by
  have := (abs_le.mp h).2
  linarith

theorem Near.trans (hx : Near m r a x) (hy : Near n s x y) :
    Near (m + n) ((1 + unit) ^ n * r + s) a y := by
  have hgrowth : 0 ≤ (1 + unit) ^ n - 1 := by linarith [one_le_growth n]
  calc |y - a| = |(y - x) + (x - a)| := by ring_nf
    _ ≤ |y - x| + |x - a| := abs_add_le _ _
    _ ≤ (((1 + unit) ^ n - 1) * x + s) + (((1 + unit) ^ m - 1) * a + r) := add_le_add hy hx
    _ ≤ (((1 + unit) ^ n - 1) * ((1 + unit) ^ m * a + r) + s) + (((1 + unit) ^ m - 1) * a + r) := by
      gcongr
      exact hx.le
    _ = ((1 + unit) ^ (m + n) - 1) * a + ((1 + unit) ^ n * r + s) := by ring

theorem Near.scale (h : Near n r a x) (hc : 0 ≤ c) : Near n (r * c) (a * c) (x * c) := by
  calc |x * c - a * c| = |x - a| * c := by rw [← sub_mul, abs_mul, abs_of_nonneg hc]
    _ ≤ (((1 + unit) ^ n - 1) * a + r) * c := mul_le_mul_of_nonneg_right h hc
    _ = ((1 + unit) ^ n - 1) * (a * c) + r * c := by ring

theorem Near.mono (h : Near m r a x) (ha : 0 ≤ a) (hmn : m ≤ n) (hrs : r ≤ s) : Near n s a x := by
  have hgrowth : (1 + unit) ^ m ≤ (1 + unit) ^ n :=
    pow_le_pow_right₀ (by linarith [unit_pos]) hmn
  calc |x - a| ≤ ((1 + unit) ^ m - 1) * a + r := h
    _ ≤ ((1 + unit) ^ n - 1) * a + s := by gcongr

theorem Near.refl (n : ℕ) (ha : 0 ≤ a) : Near n 0 a a := by
  have hgrowth : 0 ≤ (1 + unit) ^ n - 1 := by linarith [one_le_growth n]
  calc |a - a| = 0 := by rw [sub_self, abs_zero]
    _ ≤ ((1 + unit) ^ n - 1) * a + 0 := add_nonneg (mul_nonneg hgrowth ha) le_rfl

/-- A divisor that is rounded once counts as two roundings. -/
theorem Near.div (hc : 0 < c) (h : Near 1 0 c y) (hx : 0 ≤ x) :
    0 < y ∧ Near 2 0 (x / c) (x / y) := by
  have hsmall : unit ≤ 1 / 2 := by norm_num [unit]
  have hunit := unit_pos
  have hy : |y - c| ≤ unit * c := by simpa [Near] using h
  have hlow : (1 - unit) * c ≤ y := by linarith [(abs_le.mp hy).1]
  have hypos : 0 < y := lt_of_lt_of_le (by nlinarith) hlow
  refine ⟨hypos, ?_⟩
  have hshare : |c - y| / y ≤ (1 + unit) ^ 2 - 1 := by
    rw [div_le_iff₀ hypos, abs_sub_comm]
    nlinarith [mul_pos hunit hc, mul_pos hunit hunit]
  have hsplit : x / y - x / c = x / c * ((c - y) / y) := by field_simp
  calc |x / y - x / c| = x / c * (|c - y| / y) := by
        rw [hsplit, abs_mul, abs_div _ y, abs_of_pos hypos, abs_of_nonneg (div_nonneg hx hc.le)]
    _ ≤ x / c * ((1 + unit) ^ 2 - 1) := mul_le_mul_of_nonneg_left hshare (div_nonneg hx hc.le)
    _ = ((1 + unit) ^ 2 - 1) * (x / c) + 0 := by ring

theorem Rounded.near (h : Rounded a x) (ha : 0 ≤ a) : Near 1 (least / 2) a x := by
  refine le_trans h (max_le ?_ ?_)
  · linarith [least_pos]
  · nlinarith [unit_pos]

theorem Rounded.near_of_one_le (h : Rounded a x) (ha : 1 ≤ a) : Near 1 0 a x := by
  have hleast : least / 2 ≤ unit := by
    have hpow : least ≤ unit := zpow_le_zpow_right₀ one_le_two (by decide)
    linarith [least_pos]
  refine le_trans h (max_le (by linarith) ?_)
  nlinarith [unit_pos]

end Near

/-! ### One rounding -/

theorem roundDiv_le (n : Nat) {d : Nat} (hd : 0 < d) :
    2 * n ≤ (2 * roundDiv n d + 1) * d ∧ 2 * (roundDiv n d * d) ≤ 2 * n + d := by
  have hdivision := Nat.div_add_mod' n d
  have hrest := Nat.mod_lt n hd
  have hround : roundDiv n d * d = n / d * d ∧ 2 * (n % d) ≤ d ∨
      roundDiv n d * d = n / d * d + d ∧ d ≤ 2 * (n % d) := by
    unfold roundDiv
    simp only
    split
    · exact .inl ⟨rfl, by omega⟩
    · split
      · exact .inr ⟨Nat.succ_mul _ _, by omega⟩
      · rcases Nat.mod_two_eq_zero_or_one (n / d) with heven | hodd
        · rw [heven]
          exact .inl ⟨rfl, by omega⟩
        · rw [hodd]
          exact .inr ⟨Nat.succ_mul _ _, by omega⟩
  rw [Nat.add_mul, Nat.mul_assoc, Nat.one_mul]
  omega

theorem abs_roundDiv_sub_le (n : Nat) {d : Nat} (hd : 0 < d) :
    |(roundDiv n d : ℚ) - n / d| ≤ 1 / 2 := by
  have hd' : (0 : ℚ) < d := Nat.cast_pos.mpr hd
  obtain ⟨hlow, hhigh⟩ := roundDiv_le n hd
  have hlow' : (2 * n : ℚ) ≤ (2 * roundDiv n d + 1) * d := mod_cast hlow
  have hhigh' : 2 * (roundDiv n d * d : ℚ) ≤ 2 * n + d := mod_cast hhigh
  have hsplit : (roundDiv n d : ℚ) - n / d = (roundDiv n d * d - n) / d := by field_simp
  rw [hsplit, abs_div, abs_of_pos hd', div_le_iff₀ hd', abs_le]
  constructor <;> linarith

theorem shifted_snd_pos (n : Nat) {d : Nat} (hd : 0 < d) (e : Int) : 0 < (shifted n d e).2 := by
  unfold shifted
  split
  · simpa [Nat.shiftLeft_eq] using hd
  · exact hd

theorem shifted_ratio (n d : Nat) (e : Int) :
    ((shifted n d e).1 / (shifted n d e).2 : ℚ) = n / d * 2 ^ (-e) := by
  unfold shifted
  split
  · next hsign =>
    obtain ⟨k, rfl⟩ := Int.eq_ofNat_of_zero_le hsign
    simp [Nat.shiftLeft_eq, zpow_neg, div_eq_mul_inv, mul_assoc, mul_comm]
  · next hsign =>
    obtain ⟨k, hk⟩ := Int.eq_ofNat_of_zero_le (show 0 ≤ -e by omega)
    simp only [hk, Nat.shiftLeft_eq, Int.toNat_natCast, Nat.cast_mul, Nat.cast_pow, zpow_natCast]
    exact mul_div_right_comm _ _ _

theorem leastExponent_le_fittingExponent (n d : Nat) : leastExponent ≤ fittingExponent n d := by
  unfold fittingExponent
  simp only
  split <;> omega

theorem two_zpow_log2_le {n d : Nat} (hn : 0 < n) (hd : 0 < d) :
    (2 : ℚ) ^ ((n.log2 : ℤ) - d.log2 - 1) ≤ n / d := by
  have hd' : (0 : ℚ) < d := Nat.cast_pos.mpr hd
  have hnumerator : (2 : ℚ) ^ n.log2 ≤ n := mod_cast Nat.log2_self_le hn.ne'
  have hdenominator : (d : ℚ) ≤ 2 ^ (d.log2 + 1) := mod_cast Nat.lt_log2_self.le
  calc (2 : ℚ) ^ ((n.log2 : ℤ) - d.log2 - 1) = 2 ^ n.log2 / 2 ^ (d.log2 + 1) := by
        rw [sub_sub, zpow_sub₀ two_ne_zero, zpow_natCast]
        norm_cast
    _ ≤ n / d := div_le_div₀ (by positivity) hnumerator hd' hdenominator

/-- A quotient of 54 bits is halved. -/
theorem two_zpow_le_of_quotient {n d : Nat} {guess : Int}
    (h : ¬(shifted n d guess).1 / (shifted n d guess).2 < 2 * leastNormal) :
    (2 : ℚ) ^ (guess + 1 + 52) ≤ n / d := by
  have hquotient : (2 : ℚ) ^ (53 : ℤ) ≤ n / d * 2 ^ (-guess) := by
    rw [← shifted_ratio]
    refine le_trans ?_ Nat.cast_div_le
    exact mod_cast Nat.le_of_not_lt h
  calc (2 : ℚ) ^ (guess + 1 + 52) = 2 ^ (53 : ℤ) * 2 ^ guess := by
        rw [← zpow_add₀ two_ne_zero]
        ring_nf
    _ ≤ n / d * 2 ^ (-guess) * 2 ^ guess := by gcongr
    _ = n / d := by rw [mul_assoc, ← zpow_add₀ two_ne_zero, neg_add_cancel, zpow_zero, mul_one]

/-- A number that is not tiny has a significand of 53 bits. -/
theorem fittingExponent_eq_or_le {n d : Nat} (hn : 0 < n) (hd : 0 < d) :
    fittingExponent n d = leastExponent ∨ (2 : ℚ) ^ (fittingExponent n d + 52) ≤ n / d := by
  have hguess := two_zpow_log2_le hn hd
  unfold fittingExponent
  simp only
  generalize hexponent : (n.log2 : ℤ) - d.log2 - 53 = guess
  have hbase : (n.log2 : ℤ) - d.log2 - 1 = guess + 52 := by omega
  rw [hbase] at hguess
  by_cases hquotient : (shifted n d guess).1 / (shifted n d guess).2 < 2 * leastNormal
  · rw [if_pos hquotient]
    split
    · exact .inl rfl
    · exact .inr hguess
  · rw [if_neg hquotient]
    split
    · exact .inl rfl
    · exact .inr (two_zpow_le_of_quotient hquotient)

theorem size_zero : zero.size = 0 := by
  simp [size, zero]

/-- The number that is held for a fraction, before a significand of 54 bits is halved. -/
theorem rounded_roundDiv {n d : Nat} (hn : 0 < n) (hd : 0 < d) {e : Int}
    (he : fittingExponent n d = e) :
    Rounded (n / d) (roundDiv (shifted n d e).1 (shifted n d e).2 * 2 ^ e) := by
  have hpow : (0 : ℚ) < 2 ^ e := by positivity
  have hnear := abs_roundDiv_sub_le (shifted n d e).1 (shifted_snd_pos n hd e)
  rw [shifted_ratio] at hnear
  generalize roundDiv (shifted n d e).1 (shifted n d e).2 = significand at hnear ⊢
  have hback : (significand : ℚ) * 2 ^ e - n / d = (significand - n / d * 2 ^ (-e)) * 2 ^ e := by
    rw [sub_mul, mul_assoc _ (2 ^ (-e)), ← zpow_add₀ two_ne_zero, neg_add_cancel, zpow_zero,
      mul_one]
  have herror : |(significand : ℚ) * 2 ^ e - n / d| ≤ 2 ^ e / 2 := by
    rw [hback, abs_mul, abs_of_pos hpow]
    linarith [mul_le_mul_of_nonneg_right hnear hpow.le]
  refine le_trans herror ?_
  rcases fittingExponent_eq_or_le hn hd with hleast | hlarge
  · rw [← he, hleast]
    exact le_max_right _ _
  · refine le_trans ?_ (le_max_left _ _)
    rw [he] at hlarge
    calc (2 : ℚ) ^ e / 2 = unit * 2 ^ (e + 52) := by
          rw [unit, ← zpow_add₀ two_ne_zero, div_eq_mul_inv, ← zpow_neg_one,
            ← zpow_add₀ two_ne_zero]
          ring_nf
      _ ≤ unit * (n / d) := mul_le_mul_of_nonneg_left hlarge unit_pos.le

theorem rounded_of_ofFraction? {n d : Nat} (hd : 0 < d) {x : Binary64}
    (h : ofFraction? n d = some x) : Rounded (n / d) x.size := by
  unfold ofFraction? at h
  split at h
  · next hzero =>
    cases h
    rw [hzero, size_zero]
    simp [Rounded]
  · next hzero =>
    have hround := rounded_roundDiv (Nat.pos_of_ne_zero hzero) hd rfl
    simp only at h
    split at h
    · next hcarry =>
      rw [hcarry] at hround
      split at h
      · cases h
      · cases h
        convert hround using 1
        simp only [size, leastNormal]
        rw [zpow_add₀ two_ne_zero]
        push_cast
        ring
    · split at h
      · cases h
      · cases h
        exact hround

theorem size_of_ofFraction?_zero {d : Nat} {x : Binary64} (h : ofFraction? 0 d = some x) :
    x.size = 0 := by
  cases h
  exact size_zero

/-- Naturals are held without the absolute error. -/
theorem near_ofNat {n : Nat} {x : Binary64} (h : ofFraction? n 1 = some x) : Near 1 0 n x.size := by
  have hround := rounded_of_ofFraction? Nat.one_pos h
  rw [Nat.cast_one, div_one] at hround
  obtain rfl | hpos := Nat.eq_zero_or_pos n
  · rw [size_of_ofFraction?_zero h, Nat.cast_zero]
    exact .refl 1 le_rfl
  · exact hround.near_of_one_le (mod_cast hpos)

/-! ### Products, quotients and powers of ten -/

theorem fraction_snd_pos (x : Binary64) : 0 < x.fraction.2 :=
  shifted_snd_pos _ Nat.one_pos _

theorem fraction_ratio (x : Binary64) : (x.fraction.1 / x.fraction.2 : ℚ) = x.size := by
  rw [fraction, shifted_ratio, neg_neg, Nat.cast_one, div_one, size]

theorem mul?_eq (x y : Binary64) : x.mul? y =
    ofFraction? (x.fraction.1 * y.fraction.1) (x.fraction.2 * y.fraction.2) := rfl

theorem div?_eq (x y : Binary64) : x.div? y =
    ofFraction? (x.fraction.1 * y.fraction.2) (x.fraction.2 * y.fraction.1) := rfl

theorem rounded_of_mul? {x y z : Binary64} (h : x.mul? y = some z) :
    Rounded (x.size * y.size) z.size := by
  rw [mul?_eq] at h
  have hround := rounded_of_ofFraction? (Nat.mul_pos x.fraction_snd_pos y.fraction_snd_pos) h
  rwa [Nat.cast_mul, Nat.cast_mul, mul_div_mul_comm, fraction_ratio, fraction_ratio] at hround

theorem rounded_of_div? {x y z : Binary64} (hy : 0 < y.size) (h : x.div? y = some z) :
    Rounded (x.size / y.size) z.size := by
  rw [div?_eq] at h
  have hnumerator : 0 < y.fraction.1 := by
    refine Nat.pos_of_ne_zero fun hzero => hy.ne' ?_
    rw [← fraction_ratio, hzero, Nat.cast_zero, zero_div]
  have hround := rounded_of_ofFraction? (Nat.mul_pos x.fraction_snd_pos hnumerator) h
  rwa [Nat.cast_mul, Nat.cast_mul, ← div_div_div_eq, fraction_ratio, fraction_ratio] at hround

theorem isSome_ofFraction?_ten_pow : ∀ n < 309, (ofFraction? (Nat.pow 10 n) 1).isSome := by
  decide +kernel

theorem near_powerOfTen {n : Nat} (hn : n ≤ 308) : Near 1 0 (10 ^ n) (powerOfTen n).size := by
  obtain ⟨x, hx⟩ := Option.isSome_iff_exists.mp (isSome_ofFraction?_ten_pow n (by omega))
  have hnear := near_ofNat hx
  rw [powerOfTen, hx, Option.getD_some]
  convert hnear using 1
  exact mod_cast rfl

/-! ### Scaling -/

-- The power is a constant, which must not be evaluated here.
seal powerOfTen in
theorem scale_go_succ (fuel : Nat) (x : Binary64) (power : Int) :
    scale?.go (fuel + 1) x power =
      if power.natAbs ≤ 308 then
        if 0 ≤ power then x.mul? (powerOfTen power.natAbs) else x.div? (powerOfTen power.natAbs)
      else if x.isZero then some x
      else if 0 ≤ power then none
      else
        match x.div? (powerOfTen 308) with
        | none => none
        | some y => scale?.go fuel y (power + 308) := rfl

theorem isZero_iff {x : Binary64} : x.isZero ↔ x.size = 0 := by
  simp [isZero, size, zpow_ne_zero]

theorem ten_zpow_neg (n : Nat) (a : ℚ) : a / 10 ^ n = a * 10 ^ (-(n : ℤ)) := by
  rw [zpow_neg, zpow_natCast, div_eq_mul_inv]

/-- A quotient by a power of ten has the errors of the power and of one rounding. -/
theorem near_div_powerOfTen {n : Nat} (hn : n ≤ 308) {x y : Binary64}
    (h : x.div? (powerOfTen n) = some y) :
    Near 3 (least / 2) (x.size * 10 ^ (-(n : ℤ))) y.size := by
  obtain ⟨hpos, hquotient⟩ := (near_powerOfTen hn).div (by positivity) x.size_nonneg
  have hround := (rounded_of_div? hpos h).near (div_nonneg x.size_nonneg hpos.le)
  rw [ten_zpow_neg] at hquotient
  simpa using hquotient.trans hround

/-- What is scaled by at most 308 powers of ten has the errors of the power and of one rounding. -/
theorem near_scale_go {fuel : Nat} {power : Int} {x y : Binary64} (hpower : power.natAbs ≤ 308)
    (h : scale?.go (fuel + 1) x power = some y) :
    Near 3 (least / 2) (x.size * 10 ^ power) y.size := by
  rw [scale_go_succ, if_pos hpower] at h
  split at h
  · next hsign =>
    obtain ⟨n, rfl⟩ := Int.eq_ofNat_of_zero_le hsign
    rw [Int.natAbs_natCast] at h hpower
    have hproduct : Near 1 0 (x.size * 10 ^ n) (x.size * (powerOfTen n).size) := by
      simpa [mul_comm] using (near_powerOfTen hpower).scale x.size_nonneg
    have hround := (rounded_of_mul? h).near (mul_nonneg x.size_nonneg (size_nonneg _))
    have hboth := hproduct.trans hround
    rw [mul_zero, zero_add] at hboth
    rw [zpow_natCast]
    exact hboth.mono (mul_nonneg x.size_nonneg (by positivity)) (by decide) le_rfl
  · next hsign =>
    have hquotient := near_div_powerOfTen hpower h
    rwa [show -(power.natAbs : ℤ) = power by omega] at hquotient

/-! ### Underflow -/

/-- What rounding gives: no sign, and a multiple of the least positive number. -/
structure IsMagnitude (x : Binary64) : Prop where
  unsigned : x.negative = false
  exponent : leastExponent ≤ x.exponent

theorem IsMagnitude.size_eq_zero {x : Binary64} (h : x.IsMagnitude) (hlt : x.size < least) :
    x.size = 0 := by
  by_contra hne
  have hpos : (1 : ℚ) ≤ x.significand := by
    refine mod_cast Nat.one_le_iff_ne_zero.mpr fun hzero => hne ?_
    rw [size, hzero, Nat.cast_zero, zero_mul]
  have hle : least ≤ x.size :=
    calc least ≤ 1 * 2 ^ x.exponent := by
          rw [one_mul]
          exact zpow_le_zpow_right₀ one_le_two h.exponent
      _ ≤ x.size := mul_le_mul_of_nonneg_right hpos (by positivity)
  exact absurd hlt (not_lt.mpr hle)

theorem isMagnitude_of_ofFraction? {n d : Nat} {x : Binary64} (h : ofFraction? n d = some x) :
    x.IsMagnitude := by
  have hfitting := leastExponent_le_fittingExponent n d
  unfold ofFraction? at h
  simp only at h
  split at h
  · cases h
    exact ⟨rfl, le_rfl⟩
  · split at h <;> split at h
    · cases h
    · cases h
      exact ⟨rfl, Int.le_add_one hfitting⟩
    · cases h
    · cases h
      exact ⟨rfl, hfitting⟩

theorem isMagnitude_of_scale_go {fuel : Nat} {power : Int} {x y : Binary64} (hx : x.IsMagnitude)
    (h : scale?.go fuel x power = some y) : y.IsMagnitude := by
  induction fuel generalizing x power with
  | zero =>
    cases h
    exact hx
  | succ fuel ih =>
    rw [scale_go_succ] at h
    split at h
    · split at h <;> exact isMagnitude_of_ofFraction? h
    · split at h
      · cases h
        exact hx
      · split at h
        · cases h
        · split at h
          · cases h
          · next hdiv => exact ih (isMagnitude_of_ofFraction? hdiv) h

/-- Zero stays zero. -/
theorem size_of_scale_go_zero {fuel : Nat} {power : Int} {x y : Binary64}
    (hmagnitude : x.IsMagnitude) (hx : x.size = 0)
    (h : scale?.go fuel x power = some y) : y.size = 0 := by
  cases fuel with
  | zero =>
    cases h
    exact hx
  | succ fuel =>
    by_cases hpower : power.natAbs ≤ 308
    · have hnear := near_scale_go hpower h
      rw [hx, zero_mul] at hnear
      refine (isMagnitude_of_scale_go hmagnitude h).size_eq_zero ?_
      linarith [hnear.le, least_pos]
    · rw [scale_go_succ, if_neg hpower, if_pos (isZero_iff.mpr hx)] at h
      cases h
      exact hx

/-- What is scaled by more than 308 powers of ten is divided by that many first. -/
theorem exists_div_of_scale_go {fuel : Nat} {power : Int} {x y : Binary64}
    (hpower : 308 < power.natAbs) (hx : x.size ≠ 0) (h : scale?.go (fuel + 1) x power = some y) :
    power < -308 ∧ ∃ z, z.IsMagnitude ∧
      Near 3 (least / 2) (x.size * 10 ^ (-((308 : ℕ) : ℤ))) z.size ∧
      scale?.go fuel z (power + 308) = some y := by
  have hnonzero : ¬x.isZero := fun hzero => hx (isZero_iff.mp hzero)
  rw [scale_go_succ, if_neg (Nat.not_le.mpr hpower), if_neg hnonzero] at h
  split at h
  · cases h
  · next hsign =>
    split at h
    · cases h
    · next z hdiv =>
      have hnear := near_div_powerOfTen le_rfl hdiv
      exact ⟨by omega, z, isMagnitude_of_ofFraction? hdiv, hnear, h⟩

theorem ten_zpow_le : (10 : ℚ) ^ (-((308 : ℕ) : ℤ)) ≤ 2 ^ 51 * least := by
  have hnat : 2 ^ 1023 ≤ 10 ^ 308 := by decide +kernel
  have hpow : (2 : ℚ) ^ 1023 ≤ 10 ^ 308 := by exact_mod_cast hnat
  calc (10 : ℚ) ^ (-((308 : ℕ) : ℤ)) = (10 ^ 308)⁻¹ := by rw [zpow_neg, zpow_natCast]
    _ ≤ (2 ^ 1023)⁻¹ := inv_anti₀ (by positivity) hpow
    _ = 2 ^ 51 * least := by
      rw [least, leastExponent, ← zpow_natCast, ← zpow_natCast, ← zpow_neg, ← zpow_add₀ two_ne_zero]
      rfl

theorem least_le : 2 ^ 200 * least ≤ 1 := by
  rw [least, leastExponent, ← zpow_natCast, ← zpow_add₀ two_ne_zero]
  exact zpow_le_one_of_nonpos₀ one_le_two (by decide)

theorem growth_three_le : (1 + unit) ^ 3 ≤ 2 := by
  norm_num [unit]

/-- What is small is nothing once it is divided by `10 ^ 308`. -/
theorem size_of_scale_go_small {fuel : Nat} {power : Int} {x y : Binary64} (hpower : power < -308)
    (hmagnitude : x.IsMagnitude) (hx : x.size ≤ 1 / 2 ^ 60)
    (h : scale?.go (fuel + 1) x power = some y) : y.size = 0 := by
  by_cases hzero : x.size = 0
  · exact size_of_scale_go_zero hmagnitude hzero h
  · obtain ⟨-, z, hz, hnear, hrest⟩ := exists_div_of_scale_go (by omega) hzero h
    have hquotient : x.size * 10 ^ (-((308 : ℕ) : ℤ)) ≤ 1 / 2 ^ 60 * (2 ^ 51 * least) := by
      gcongr
      exact ten_zpow_le
    have hless : z.size < least := by
      have := least_pos
      calc z.size ≤ (1 + unit) ^ 3 * (x.size * 10 ^ (-((308 : ℕ) : ℤ))) + least / 2 := hnear.le
        _ ≤ 2 * (1 / 2 ^ 60 * (2 ^ 51 * least)) + least / 2 := by
          gcongr
          · exact mul_nonneg x.size_nonneg (by positivity)
          · exact growth_three_le
        _ < least := by linarith
    exact size_of_scale_go_zero hz (hz.size_eq_zero hless) hrest

/-- What two scalings by at most 308 powers of ten add. -/
theorem near_scale_go_twice {fuel : Nat} {power : Int} {x y z : Binary64} (hpower : power < -308)
    (htwice : (power + 308).natAbs ≤ 308)
    (hz : Near 3 (least / 2) (x.size * 10 ^ (-((308 : ℕ) : ℤ))) z.size)
    (h : scale?.go (fuel + 1) z (power + 308) = some y) :
    Near 6 (3 / 4 * least) (x.size * 10 ^ power) y.size := by
  have hsmall : (10 : ℚ) ^ (power + 308) ≤ 1 / 10 :=
    calc (10 : ℚ) ^ (power + 308) ≤ 10 ^ (-1 : ℤ) := zpow_le_zpow_right₀ (by norm_num) (by omega)
      _ = 1 / 10 := by norm_num
  have hboth := (hz.scale (zpow_pos (by norm_num : (0 : ℚ) < 10) (power + 308)).le).trans
    (near_scale_go htwice h)
  have hpowers : (10 : ℚ) ^ (-((308 : ℕ) : ℤ)) * 10 ^ (power + 308) = 10 ^ power := by
    rw [← zpow_add₀ (by norm_num)]
    congr 1
    push_cast
    ring
  rw [mul_assoc, hpowers] at hboth
  refine hboth.mono (mul_nonneg x.size_nonneg (by positivity)) le_rfl ?_
  have := least_pos
  calc (1 + unit) ^ 3 * (least / 2 * 10 ^ (power + 308)) + least / 2
      ≤ 2 * (least / 2 * (1 / 10)) + least / 2 := by
        gcongr
        exact growth_three_le
    _ ≤ 3 / 4 * least := by linarith

/-- A division that is followed by another leaves nothing, and less than `least` was meant. -/
theorem near_scale_go_more {fuel : Nat} {power : Int} {x y z : Binary64} (hx : x.size ≤ 2 ^ 65)
    (hpower : power < -308) (hmore : ¬(power + 308).natAbs ≤ 308) (hmagnitude : z.IsMagnitude)
    (hz : Near 3 (least / 2) (x.size * 10 ^ (-((308 : ℕ) : ℤ))) z.size)
    (h : scale?.go (fuel + 1) z (power + 308) = some y) :
    Near 6 (3 / 4 * least) (x.size * 10 ^ power) y.size := by
  have hleast := least_pos
  have htiny := least_le
  have hquotient : z.size ≤ 1 / 2 ^ 60 :=
    calc z.size ≤ (1 + unit) ^ 3 * (x.size * 10 ^ (-((308 : ℕ) : ℤ))) + least / 2 := hz.le
      _ ≤ 2 * (2 ^ 65 * (2 ^ 51 * least)) + least / 2 := by
        gcongr
        · exact mul_nonneg x.size_nonneg (by positivity)
        · exact growth_three_le
        · exact ten_zpow_le
      _ ≤ 1 / 2 ^ 60 := by linarith
  have hmeant : x.size * 10 ^ power ≤ 3 / 4 * least :=
    calc x.size * 10 ^ power
        ≤ 2 ^ 65 * 10 ^ (-((308 : ℕ) : ℤ) + -((308 : ℕ) : ℤ)) := by
          gcongr
          · norm_num
          · push_cast
            omega
      _ = 2 ^ 65 * (10 ^ (-((308 : ℕ) : ℤ)) * 10 ^ (-((308 : ℕ) : ℤ))) := by
          rw [zpow_add₀ (by norm_num)]
      _ ≤ 2 ^ 65 * ((2 ^ 51 * least) * (2 ^ 51 * least)) := by
          gcongr
          · exact ten_zpow_le
          · exact ten_zpow_le
      _ ≤ 3 / 4 * least := by nlinarith
  have hexact : 0 ≤ x.size * 10 ^ power := mul_nonneg x.size_nonneg (by positivity)
  rw [size_of_scale_go_small (by omega) hmagnitude hquotient h]
  calc |0 - x.size * 10 ^ power| = x.size * 10 ^ power := by
        rw [zero_sub, abs_neg, abs_of_nonneg hexact]
    _ ≤ 3 / 4 * least := hmeant
    _ ≤ ((1 + unit) ^ 6 - 1) * (x.size * 10 ^ power) + 3 / 4 * least :=
      le_add_of_nonneg_left (mul_nonneg (sub_nonneg.mpr (one_le_growth 6)) hexact)

/-- The errors of scaling, whatever the power is. -/
theorem near_scale? {power : Int} {x y : Binary64} (hmagnitude : x.IsMagnitude)
    (hx : x.size ≤ 2 ^ 65) (h : x.scale? power = some y) :
    Near 6 (3 / 4 * least) (x.size * 10 ^ power) y.size := by
  have hleast := least_pos
  by_cases hpower : power.natAbs ≤ 308
  · have hexact : 0 ≤ x.size * 10 ^ power := mul_nonneg x.size_nonneg (by positivity)
    exact (near_scale_go hpower h).mono hexact (by decide) (by linarith)
  by_cases hzero : x.size = 0
  · rw [size_of_scale_go_zero hmagnitude hzero h, hzero, zero_mul]
    exact (Near.refl 6 le_rfl).mono le_rfl le_rfl (by linarith)
  obtain ⟨hsign, z, hz, hnear, hrest⟩ := exists_div_of_scale_go (by omega) hzero h
  obtain ⟨fuel, hfuel⟩ : ∃ fuel, power.natAbs / 308 = fuel + 1 :=
    Nat.exists_eq_succ_of_ne_zero (by omega)
  rw [hfuel] at hrest
  by_cases htwice : (power + 308).natAbs ≤ 308
  · exact near_scale_go_twice hsign htwice hnear hrest
  · exact near_scale_go_more hx hsign htwice hz hnear hrest

end IdentityConsole.Json.Binary64
