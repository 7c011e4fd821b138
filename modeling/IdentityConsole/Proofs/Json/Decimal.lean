import Mathlib.Algebra.Group.Nat.Defs
import Mathlib.Data.List.Basic
import IdentityConsole.Json.Draft

/-!
# Integers in decimal

An integer is written with the fewest digits, and the literal read from them has its value. Only
integers of 64 bits are meant, signed or unsigned: others are read as floating point numbers, and so
is `-0`, which is then written `-0.0`.
-/

namespace IdentityConsole.Json

/-- The digits of a number, the first of them first. -/
def decimal (n : Nat) : List (Fin 10) :=
  if h : n < 10 then [⟨n, h⟩] else decimal (n / 10) ++ [⟨n % 10, Nat.mod_lt n (by decide)⟩]

/-- The natural that digits make, the first of them the highest. -/
def numeral : List (Fin 10) → Nat
  | [] => 0
  | d :: rest => d * 10 ^ rest.length + numeral rest

namespace Literal

/-- How an integer is written. -/
def ofInt (n : Int) : Literal :=
  ⟨decide (n < 0), decimal n.natAbs, none, none⟩

/-- How the negative zero is written. -/
def negativeZero : Literal :=
  ⟨true, [0], some [0], none⟩

/-- The integer that the digits before a point make. -/
def leading (literal : Literal) : Int :=
  if literal.negative then -(numeral literal.integer : Int) else numeral literal.integer

end Literal

def Binary64.negativeZero : Binary64 := Binary64.zero.negate

/-- The integers that fit 64 bits. -/
def IsWord (n : Int) : Prop :=
  -0x8000000000000000 ≤ n ∧ n < 0x10000000000000000

instance (n : Int) : Decidable (IsWord n) :=
  inferInstanceAs (Decidable (_ ∧ _))

/-- What is written is an integer that fits 64 bits. -/
def Literal.IsInteger (literal : Literal) : Prop :=
  literal.fraction = none ∧ literal.exponent = none ∧ IsWord literal.leading

instance (literal : Literal) : Decidable literal.IsInteger :=
  inferInstanceAs (Decidable (_ ∧ _))

theorem decimal_ne_nil (n : Nat) : decimal n ≠ [] := by
  rw [decimal]
  split <;> simp

theorem numeral_append (digits others : List (Fin 10)) :
    numeral (digits ++ others) = numeral digits * 10 ^ others.length + numeral others := by
  induction digits with
  | nil => rw [List.nil_append, numeral, Nat.zero_mul, Nat.zero_add]
  | cons d rest ih =>
    rw [List.cons_append, numeral, numeral, ih, List.length_append, Nat.pow_add, Nat.add_mul,
      Nat.mul_assoc, Nat.add_assoc]

theorem numeral_lt (digits : List (Fin 10)) : numeral digits < 10 ^ digits.length := by
  induction digits with
  | nil => exact Nat.zero_lt_one
  | cons d rest ih =>
    calc numeral (d :: rest) < d * 10 ^ rest.length + 10 ^ rest.length := Nat.add_lt_add_left ih _
      _ = (d + 1) * 10 ^ rest.length := (Nat.succ_mul _ _).symm
      _ ≤ 10 * 10 ^ rest.length := Nat.mul_le_mul_right _ d.isLt
      _ = 10 ^ (d :: rest).length := (Nat.pow_succ').symm

theorem numeral_decimal (n : Nat) : numeral (decimal n) = n := by
  induction n using decimal.induct with
  | case1 n hlt =>
    rw [decimal, dif_pos hlt, numeral, numeral, List.length_nil, Nat.pow_zero, Nat.mul_one]
    rfl
  | case2 n hge ih =>
    rw [decimal, dif_neg hge, numeral_append, ih]
    simp only [numeral, List.length_cons, List.length_nil]
    omega

/-- Nothing but zero begins with the digit zero. -/
theorem eq_zero_of_decimal {n : Nat} {others : List (Fin 10)} (h : decimal n = 0 :: others) :
    n = 0 ∧ others = [] := by
  induction n using decimal.induct generalizing others with
  | case1 n hlt =>
    rw [decimal, dif_pos hlt] at h
    obtain ⟨hzero, hnil⟩ := List.cons.inj h
    exact ⟨congrArg Fin.val hzero, hnil.symm⟩
  | case2 n hge ih =>
    rw [decimal, dif_neg hge] at h
    cases hfront : decimal (n / 10) with
    | nil => exact absurd hfront (decimal_ne_nil _)
    | cons first rest =>
      rw [hfront, List.cons_append] at h
      cases h
      have := (ih hfront).1
      omega

/-! ### Writing -/

theorem digitChar_eq : ∀ d < 10, Nat.digitChar d = Number.digitChar d := by decide

theorem natChars_eq (n : Nat) : Number.natChars n = (decimal n).map (Number.digitChar ·.val) := by
  unfold Number.natChars
  induction n using decimal.induct with
  | case1 n hlt =>
    rw [decimal, dif_pos hlt, Nat.toDigits_of_lt_base hlt, digitChar_eq n hlt]
    rfl
  | case2 n hge ih =>
    rw [decimal, dif_neg hge, Nat.toDigits_of_base_le (by decide) (Nat.le_of_not_lt hge), ih,
      digitChar_eq _ (Nat.mod_lt n (by decide)), List.map_append]
    rfl

theorem intChars_eq (n : Int) :
    Number.intChars n =
      (if n < 0 then ['-'] else []) ++ (decimal n.natAbs).map (Number.digitChar ·.val) := by
  cases n with
  | ofNat n => rw [if_neg (by simp), Number.intChars, natChars_eq]; rfl
  | negSucc n => rw [if_pos (Int.negSucc_lt_zero n), Number.intChars, natChars_eq]; rfl

/-! ### Reading -/

namespace Draft

/-- No part of a number begins like this. -/
def EndsNumber (rest : List Char) : Prop :=
  ∀ c ∈ rest.head?, digit? c = none ∧ c ≠ '.' ∧ c ≠ 'e' ∧ c ≠ 'E'

theorem digit?_digitChar : ∀ d : Fin 10, digit? (Number.digitChar d.val) = some d := by decide

theorem digits_map (ds read : List (Fin 10)) {rest : List Char} (hrest : EndsNumber rest) :
    digits read (ds.map (Number.digitChar ·.val) ++ rest) = (read.reverse ++ ds, rest) := by
  induction ds generalizing read with
  | nil =>
    cases rest with
    | nil => simp [digits]
    | cons c rest => simp [digits, (hrest c rfl).1]
  | cons d ds ih =>
    rw [List.map_cons, List.cons_append, digits, digit?_digitChar d]
    simp only
    rw [ih (d :: read)]
    simp

theorem exponentPart?_of_endsNumber {rest : List Char} (hrest : EndsNumber rest) :
    exponentPart? rest = some (none, rest) := by
  cases rest with
  | nil => rfl
  | cons c rest =>
    have hletter : ¬(c = 'e' ∨ c = 'E') := fun h => h.elim (hrest c rfl).2.2.1 (hrest c rfl).2.2.2
    exact if_neg hletter

theorem literal?_decimal (negative : Bool) (n : Nat) {rest : List Char} (hrest : EndsNumber rest) :
    literal? negative ((decimal n).map (Number.digitChar ·.val) ++ rest) =
      some (⟨negative, decimal n, none, none⟩, rest) := by
  have hdigits : digits [] ((decimal n).map (Number.digitChar ·.val) ++ rest) = (decimal n, rest) :=
    digits_map (decimal n) [] hrest
  have hinteger : integerPart? ((decimal n).map (Number.digitChar ·.val) ++ rest) =
      some (decimal n, rest) := by
    unfold integerPart?
    rw [hdigits]
    split
    · next h => exact absurd (congrArg Prod.fst h) (decimal_ne_nil n)
    · next h =>
      have hzero := congrArg Prod.fst h
      cases (eq_zero_of_decimal hzero).2
    · next h => cases h; rfl
  have hfraction : fractionPart? rest = some (none, rest) := by
    unfold fractionPart?
    split
    · next rest => exact absurd rfl (hrest '.' rfl).2.1
    · rfl
  simp [literal?, hinteger, hfraction, exponentPart?_of_endsNumber hrest]

theorem literal?_negativeZero {rest : List Char} (hrest : EndsNumber rest) :
    literal? true ('0' :: '.' :: '0' :: rest) = some (.negativeZero, rest) := by
  have hfraction : fractionPart? ('.' :: '0' :: rest) = some (some [0], rest) := by
    have hdigits : digits [] ([(0 : Fin 10)].map (Number.digitChar ·.val) ++ rest) = ([0], rest) :=
      digits_map [0] [] hrest
    change digits [] ('0' :: rest) = _ at hdigits
    rw [fractionPart?, hdigits]
  have hinteger : integerPart? ('0' :: '.' :: '0' :: rest) = some ([0], '.' :: '0' :: rest) := rfl
  simp [literal?, hinteger, hfraction, exponentPart?_of_endsNumber hrest, Literal.negativeZero]

end Draft

/-! ### The value of what was read -/

/-- Digits are all absorbed as long as the number they make fits. -/
theorem absorb_eq {digits : List (Fin 10)} {s : Nat}
    (h : s * 10 ^ digits.length + numeral digits < 0x10000000000000000) :
    absorb s digits = (s * 10 ^ digits.length + numeral digits, []) := by
  induction digits generalizing s with
  | nil => rw [absorb, numeral, List.length_nil, Nat.pow_zero, Nat.mul_one, Nat.add_zero]
  | cons d rest ih =>
    have hsplit : s * 10 ^ (d :: rest).length + numeral (d :: rest) =
        (s * 10 + d) * 10 ^ rest.length + numeral rest := by
      rw [numeral, List.length_cons, Nat.pow_succ', Nat.add_mul, Nat.mul_assoc, Nat.add_assoc]
    rw [hsplit] at h ⊢
    have hfirst : s * 10 + d < 0x10000000000000000 :=
      calc s * 10 + d ≤ (s * 10 + d) * 10 ^ rest.length :=
            Nat.le_mul_of_pos_right _ (Nat.pow_pos (by decide))
        _ ≤ (s * 10 + d) * 10 ^ rest.length + numeral rest := Nat.le_add_right _ _
        _ < 0x10000000000000000 := h
    rw [absorb, if_pos hfirst, ih h]

theorem absorb_zero {digits : List (Fin 10)} (h : numeral digits < 0x10000000000000000) :
    absorb 0 digits = (numeral digits, []) := by
  have heq := @absorb_eq digits 0
  rw [Nat.zero_mul, Nat.zero_add] at heq
  exact heq h

theorem value?_ofInt {n : Int} (h : IsWord n) : (Literal.ofInt n).value? = some (.int n) := by
  obtain ⟨hlow, hhigh⟩ := h
  have hnumeral := numeral_decimal n.natAbs
  have habsorb := @absorb_zero (decimal n.natAbs) (by omega)
  rw [hnumeral] at habsorb
  have hinteger : (Literal.ofInt n).integer? = some n := by
    unfold Literal.integer? Literal.ofInt
    simp only [habsorb, decide_eq_true_eq]
    by_cases hneg : n < 0
    · rw [if_pos hneg, if_neg (by omega)]
      congr 1
      omega
    · rw [if_neg hneg]
      congr 1
      omega
  rw [Literal.value?, hinteger]

theorem value?_negativeZero : Literal.negativeZero.value? = some (.float .negativeZero) := by
  decide

theorem absorb_of_isInteger {literal : Literal} (h : literal.IsInteger) :
    absorb 0 literal.integer = (numeral literal.integer, []) := by
  obtain ⟨-, -, hlow, hhigh⟩ := h
  refine absorb_zero ?_
  unfold Literal.leading at hlow hhigh
  split at hhigh <;> split at hlow <;> omega

/-- A written integer is kept as itself, but `-0` is not. -/
theorem integer?_of_isInteger {literal : Literal} (h : literal.IsInteger) :
    literal.integer? =
      if literal.negative ∧ numeral literal.integer = 0 then none else some literal.leading := by
  have habsorb := absorb_of_isInteger h
  obtain ⟨hfraction, hexponent, hlow, -⟩ := h
  unfold Literal.leading at hlow ⊢
  simp only [Literal.integer?, hfraction, hexponent, habsorb]
  cases hnegative : literal.negative with
  | false => simp
  | true =>
    simp only [hnegative, if_true] at hlow
    by_cases hzero : numeral literal.integer = 0
    · simp [hzero]
    · rw [if_pos rfl, if_neg (by omega), if_neg (by simp [hzero]), if_pos rfl]

theorem value?_of_isInteger {literal : Literal} (h : literal.IsInteger) :
    literal.value? = some (.int literal.leading) ∨
      literal.value? = some (.float .negativeZero) := by
  have habsorb := absorb_of_isInteger h
  have hinteger := integer?_of_isInteger h
  obtain ⟨hfraction, hexponent, -⟩ := h
  rw [Literal.value?, hinteger]
  by_cases hzero : literal.negative ∧ numeral literal.integer = 0
  · right
    have hsigned : literal.signed = Binary64.negate := funext fun _ => if_pos hzero.1
    rw [if_pos hzero]
    simp only [Literal.float?, hfraction, hexponent, habsorb, hzero.2, hsigned]
    rfl
  · left
    rw [if_neg hzero]

end IdentityConsole.Json
