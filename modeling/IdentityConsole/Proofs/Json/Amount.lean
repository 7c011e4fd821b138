import IdentityConsole.Proofs.Json.Decimal
import IdentityConsole.Proofs.Json.Rounding

/-!
# The numbers that literals stand for

The digits of a literal make a rational number, whatever reads them. Integers of 64 bits are read as
themselves; what is read of every other literal is a floating point number near to it.
-/

namespace IdentityConsole.Json

open Binary64 (Near least unit unit_pos)

namespace Literal

/-- The magnitude that is written. -/
def size (literal : Literal) : ℚ :=
  numeral (literal.integer ++ literal.fraction.getD []) *
    10 ^ (literal.exponent.getD 0 - (literal.fraction.getD []).length)

/-- The number that is written. -/
def amount (literal : Literal) : ℚ :=
  if literal.negative then -literal.size else literal.size

end Literal

/-- The number that is held. -/
def Binary64.amount (x : Binary64) : ℚ :=
  if x.negative then -x.size else x.size

def Number.amount : Number → ℚ
  | .int n => n
  | .float x => x.amount

/-- What a literal may stand for: an integer of 64 bits is itself, but for `-0`, and everything else
is in floating point, with its sign and the digits that floating point has room for. -/
inductive Literal.Stands (literal : Literal) : Number → Prop
  | int {n : Int} (hinteger : literal.IsInteger) (hamount : (n : ℚ) = literal.amount) :
      Stands literal (.int n)
  | float {x : Binary64} (hinteger : literal.IsInteger → literal.negative ∧ literal.amount = 0)
      (hsign : x.negative = literal.negative)
      (hnear : |x.amount - literal.amount| < |literal.amount| / 2 ^ 49 + least) :
      Stands literal (.float x)

/-! ### Digits that are left out -/

/-- What is absorbed, up to the first digit that does not fit. -/
theorem absorb_spec {digits left : List (Fin 10)} {s s' : Nat} (h : absorb s digits = (s', left)) :
    ∃ taken, digits = taken ++ left ∧ s' = s * 10 ^ taken.length + numeral taken ∧
      (left ≠ [] → 2 ^ 60 ≤ s') := by
  induction digits generalizing s with
  | nil =>
    cases h
    exact ⟨[], rfl, by simp [numeral], fun hne => absurd rfl hne⟩
  | cons d rest ih =>
    rw [absorb] at h
    split at h
    · obtain ⟨taken, rfl, rfl, hlarge⟩ := ih h
      refine ⟨d :: taken, rfl, ?_, hlarge⟩
      rw [numeral, List.length_cons, Nat.pow_succ']
      ring
    · next hfull =>
      cases h
      exact ⟨[], rfl, by simp [numeral], fun _ => by omega⟩

theorem absorb_lt {digits : List (Fin 10)} {s : Nat} (hs : s < 2 ^ 64) :
    (absorb s digits).1 < 2 ^ 64 := by
  induction digits generalizing s with
  | nil => exact hs
  | cons d rest ih =>
    rw [absorb]
    split
    · next hfits => exact ih hfits
    · exact hs

/-- Two numbers that agree in their leading digits, of which there are many. -/
theorem near_of_leading {leading k a x : Nat} (hlarge : 2 ^ 60 ≤ leading)
    (ha : leading * 10 ^ k ≤ a ∧ a < (leading + 1) * 10 ^ k)
    (hx : leading * 10 ^ k ≤ x ∧ x < (leading + 1) * 10 ^ k) : Near 1 0 a x := by
  rw [Nat.succ_mul] at ha hx
  have hdistance : |(x : ℚ) - a| ≤ 10 ^ k := by
    have hint : |(x : ℤ) - a| ≤ (10 ^ k : ℕ) := by
      rw [abs_le]
      omega
    exact_mod_cast hint
  have hshare : (2 : ℚ) ^ 60 * 10 ^ k ≤ a := by
    exact_mod_cast (Nat.mul_le_mul_right _ hlarge).trans ha.1
  calc |(x : ℚ) - a| ≤ 10 ^ k := hdistance
    _ = 1 / 2 ^ 60 * (2 ^ 60 * 10 ^ k) := by ring
    _ ≤ unit * a := mul_le_mul (by norm_num [unit]) hshare (by positivity) unit_pos.le
    _ = ((1 + unit) ^ 1 - 1) * a + 0 := by ring

/-- Digits that do not fit are taken for zeros. -/
theorem near_absorb {integer fraction dropped left : List (Fin 10)} {s s' : Nat}
    (hinteger : absorb 0 integer = (s, dropped)) (hfraction : absorb s fraction = (s', left)) :
    Near 1 0 (numeral (integer ++ fraction) : ℕ)
      (s' * 10 ^ (dropped.length + left.length) : ℕ) := by
  obtain ⟨taken, rfl, rfl, hs⟩ := absorb_spec hinteger
  obtain ⟨others, rfl, rfl, hs'⟩ := absorb_spec hfraction
  rw [Nat.zero_mul, Nat.zero_add] at hs hs' ⊢
  have hothers := numeral_lt others
  have hleft := numeral_lt left
  cases dropped with
  | nil =>
    have hwhole : numeral (taken ++ [] ++ (others ++ left)) =
        (numeral taken * 10 ^ others.length + numeral others) * 10 ^ left.length +
          numeral left := by
      simp only [List.append_nil, numeral_append, List.length_append]
      ring
    rw [List.length_nil, Nat.zero_add, hwhole]
    cases left with
    | nil =>
      rw [numeral, Nat.add_zero]
      exact .refl 1 (Nat.cast_nonneg _)
    | cons d rest =>
      refine near_of_leading (hs' (List.cons_ne_nil d rest)) ⟨Nat.le_add_right _ _, ?_⟩ ⟨le_rfl, ?_⟩
      · rw [Nat.succ_mul]
        omega
      · exact Nat.mul_lt_mul_of_pos_right (Nat.lt_succ_self _) (by positivity)
  | cons d rest =>
    have hrest := numeral_lt (d :: rest ++ (others ++ left))
    have hwhole : numeral (taken ++ d :: rest ++ (others ++ left)) =
        numeral taken * 10 ^ (d :: rest ++ (others ++ left)).length +
          numeral (d :: rest ++ (others ++ left)) := by
      rw [List.append_assoc, numeral_append]
    have hheld : (numeral taken * 10 ^ others.length + numeral others) *
          10 ^ ((d :: rest).length + left.length) =
        numeral taken * 10 ^ (d :: rest ++ (others ++ left)).length +
          numeral others * 10 ^ ((d :: rest).length + left.length) := by
      simp only [List.length_append]
      ring
    have hfraction : numeral others * 10 ^ ((d :: rest).length + left.length) <
        10 ^ (d :: rest ++ (others ++ left)).length :=
      calc numeral others * 10 ^ ((d :: rest).length + left.length)
          < 10 ^ others.length * 10 ^ ((d :: rest).length + left.length) :=
            Nat.mul_lt_mul_of_pos_right hothers (by positivity)
        _ = 10 ^ (d :: rest ++ (others ++ left)).length := by
            simp only [List.length_append]
            ring
    rw [hwhole, hheld]
    refine near_of_leading (hs (List.cons_ne_nil d rest)) ⟨Nat.le_add_right _ _, ?_⟩
      ⟨Nat.le_add_right _ _, ?_⟩
    · rw [Nat.succ_mul]
      exact Nat.add_lt_add_left hrest _
    · rw [Nat.succ_mul]
      exact Nat.add_lt_add_left hfraction _

namespace Literal

variable {literal : Literal}

theorem size_nonneg (literal : Literal) : 0 ≤ literal.size :=
  mul_nonneg (Nat.cast_nonneg _) (by positivity)

theorem abs_amount (literal : Literal) : |literal.amount| = literal.size := by
  unfold amount
  split
  · rw [abs_neg, abs_of_nonneg literal.size_nonneg]
  · exact abs_of_nonneg literal.size_nonneg

/-- The digits that are kept, scaled as the literal says. -/
theorem near_kept {dropped left : List (Fin 10)} {s s' : Nat}
    (hinteger : absorb 0 literal.integer = (s, dropped))
    (hfraction : absorb s (literal.fraction.getD []) = (s', left)) :
    Near 1 0 literal.size
      (s' * 10 ^ ((dropped.length : ℤ) -
        (((literal.fraction.getD []).length - left.length : ℕ) : ℤ) +
          literal.exponent.getD 0)) := by
  obtain ⟨others, hsplit, -⟩ := absorb_spec hfraction
  have hlength : left.length ≤ (literal.fraction.getD []).length := by
    rw [hsplit, List.length_append]
    exact Nat.le_add_left _ _
  have hpower : (dropped.length : ℤ) - (((literal.fraction.getD []).length - left.length : ℕ) : ℤ) +
      literal.exponent.getD 0 = ((dropped.length + left.length : ℕ) : ℤ) +
      (literal.exponent.getD 0 - (literal.fraction.getD []).length) := by
    omega
  have hnear := (near_absorb hinteger hfraction).scale
    (zpow_pos (by norm_num : (0 : ℚ) < 10)
      (literal.exponent.getD 0 - (literal.fraction.getD []).length)).le
  rw [zero_mul] at hnear
  rw [hpower, zpow_add₀ (by norm_num), zpow_natCast, ← mul_assoc]
  exact_mod_cast hnear

theorem size_signed (literal : Literal) (x : Binary64) : (literal.signed x).size = x.size := by
  unfold signed
  split <;> rfl

theorem negative_signed {x : Binary64} (hx : x.negative = false) :
    (literal.signed x).negative = literal.negative := by
  unfold signed
  split
  · next hnegative => rw [hnegative, Binary64.negate, hx, Bool.not_false]
  · next hnegative => rw [hx, Bool.eq_false_of_not_eq_true hnegative]

theorem near_float? {x : Binary64} (h : literal.float? = some x) :
    x.negative = literal.negative ∧ Near 8 (3 / 4 * least) literal.size x.size := by
  unfold float? at h
  simp only [Option.map_eq_some_iff, Option.bind_eq_some_iff] at h
  obtain ⟨scaled, ⟨held, hheld, hscaled⟩, rfl⟩ := h
  have hword : (absorb 0 literal.integer).1 < 2 ^ 64 := absorb_lt (by decide)
  cases hinteger : absorb 0 literal.integer with | mk s dropped
  rw [hinteger] at hheld hscaled hword
  have hword' : (absorb s (literal.fraction.getD [])).1 < 2 ^ 64 := absorb_lt hword
  cases hfraction : absorb s (literal.fraction.getD []) with | mk s' left
  simp only [hfraction] at hheld hscaled hword'
  have hmagnitude := Binary64.isMagnitude_of_ofFraction? hheld
  have hround := Binary64.near_ofNat hheld
  have hsize : held.size ≤ 2 ^ 65 :=
    calc held.size ≤ (1 + unit) ^ 1 * s' + 0 := hround.le
      _ ≤ 2 * 2 ^ 64 + 0 := by
        gcongr
        · norm_num [unit]
        · exact_mod_cast hword'.le
      _ = 2 ^ 65 := by norm_num
  have hscale := Binary64.near_scale? hmagnitude hsize hscaled
  refine ⟨negative_signed (Binary64.isMagnitude_of_scale_go hmagnitude hscaled).unsigned, ?_⟩
  rw [size_signed]
  have hheldScaled := hround.scale (zpow_pos (by norm_num : (0 : ℚ) < 10)
    ((dropped.length : ℤ) - (((literal.fraction.getD []).length - left.length : ℕ) : ℤ) +
      literal.exponent.getD 0)).le
  have hall := ((near_kept hinteger hfraction).trans hheldScaled).trans hscale
  simpa using hall

/-- Only integers of 64 bits are kept as integers. -/
theorem of_integer?_eq_some {n : Int} (h : literal.integer? = some n) :
    literal.IsInteger ∧ n = literal.leading := by
  unfold integer? at h
  split at h
  · next significand hfraction hexponent habsorb =>
    have hword : significand < 2 ^ 64 := by
      have hlt : (absorb 0 literal.integer).1 < 2 ^ 64 := absorb_lt (by decide)
      rwa [habsorb] at hlt
    obtain ⟨taken, hdigits, hsignificand, -⟩ := absorb_spec habsorb
    rw [List.append_nil] at hdigits
    rw [Nat.zero_mul, Nat.zero_add, ← hdigits] at hsignificand
    unfold IsInteger IsWord leading
    rw [← hsignificand]
    split at h
    · next hnegative =>
      split at h
      · cases h
      · next hfits =>
        cases h
        simp only [hnegative, if_true]
        exact ⟨⟨hfraction, hexponent, by omega, by omega⟩, trivial⟩
    · next hnegative =>
      cases h
      simp only [hnegative]
      exact ⟨⟨hfraction, hexponent, by simp, by simp; omega⟩, by simp⟩
  · cases h

theorem amount_of_isInteger (h : literal.IsInteger) : literal.amount = literal.leading := by
  obtain ⟨hfraction, hexponent, -⟩ := h
  have hsize : literal.size = numeral literal.integer := by
    simp [size, hfraction, hexponent]
  rw [amount, leading, hsize]
  split <;> simp

/-- What is read of a literal is a number that it stands for. -/
theorem stands_of_value? {value : Number} (h : literal.value? = some value) :
    literal.Stands value := by
  unfold value? at h
  split at h
  · next n hinteger =>
    cases h
    obtain ⟨hword, rfl⟩ := of_integer?_eq_some hinteger
    exact .int hword (amount_of_isInteger hword).symm
  · next hinteger =>
    obtain ⟨x, hx, rfl⟩ := Option.map_eq_some_iff.mp h
    obtain ⟨hsign, hnear⟩ := near_float? hx
    refine .float ?_ hsign ?_
    · intro hword
      have hnone := integer?_of_isInteger hword
      rw [hinteger] at hnone
      split at hnone
      · next hzero =>
        refine ⟨hzero.1, ?_⟩
        rw [amount_of_isInteger hword, leading, hzero.2]
        simp
      · cases hnone
    · have hdistance : |x.amount - literal.amount| = |x.size - literal.size| := by
        rw [Binary64.amount, amount, hsign]
        split
        · rw [← neg_sub_neg, neg_neg, neg_neg, abs_sub_comm]
        · rfl
      have hgrowth : (1 + unit) ^ 8 - 1 ≤ 1 / 2 ^ 49 := by norm_num [unit]
      rw [hdistance, abs_amount]
      calc |x.size - literal.size| ≤ ((1 + unit) ^ 8 - 1) * literal.size + 3 / 4 * least := hnear
        _ ≤ 1 / 2 ^ 49 * literal.size + 3 / 4 * least := by
          gcongr
          exact literal.size_nonneg
        _ < literal.size / 2 ^ 49 + least := by linarith [Binary64.least_pos]

end Literal

end IdentityConsole.Json
