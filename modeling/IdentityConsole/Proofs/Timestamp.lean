import Mathlib.Algebra.Group.Nat.Defs
import Mathlib.Data.List.TakeWhile
import IdentityConsole.Proofs.Json.Value

/-!
# Timestamps are read back

What is read as a timestamp is a date and a time that exist, and every such timestamp is read again
from the text that is written for it. So writing keeps the instant, though not always the spelling.
-/

namespace IdentityConsole.Timestamp

/-- Every part is in its range, and the month has the day. -/
structure Valid (t : Timestamp) : Prop where
  year : leastYear ≤ t.year ∧ t.year ≤ greatestYear
  month : 1 ≤ t.month ∧ t.month ≤ 12
  day : 1 ≤ t.day ∧ t.day ≤ daysInMonth t.year t.month
  hour : t.hour ≤ 23
  minute : t.minute ≤ 59
  second : t.second ≤ 60
  nanosecond : t.nanosecond < 1000000000

theorem daysInMonth_le (year : Int) (month : Nat) : daysInMonth year month ≤ 31 := by
  unfold daysInMonth
  split
  · split <;> decide
  · split <;> decide

/-! ### Numbers of a given width -/

theorem isDigit_iff {c : Char} : isDigit c = true ↔ c.isDigit = true := by
  simp only [isDigit, Char.isDigit, Bool.and_eq_true, decide_eq_true_eq, ge_iff_le,
    UInt32.le_iff_toNat_le]
  rfl

theorem isBlank_of_isDigit {c : Char} (h : isDigit c = true) : Text.isBlank c = false := by
  simp only [isDigit, Bool.and_eq_true, decide_eq_true_eq] at h
  simp [Text.isBlank]
  omega

/-- Nothing that could be read as one more digit. -/
def EndsDigits (rest : List Char) : Prop :=
  ∀ c ∈ rest.head?, isDigit c = false

theorem endsDigits_nil : EndsDigits [] := by
  rintro c ⟨⟩

theorem endsDigits_cons {c : Char} (h : isDigit c = false) (rest : List Char) :
    EndsDigits (c :: rest) := by
  rintro _ ⟨⟩
  exact h

theorem takeWhile_isDigit {rest : List Char} (h : EndsDigits rest) (n : Nat) :
    (rest.take n).takeWhile isDigit = [] := by
  cases rest with
  | nil => rw [List.take_nil, List.takeWhile_nil]
  | cons c rest =>
    cases n with
    | zero => rfl
    | succ n => rw [List.take_succ_cons, List.takeWhile_cons_of_neg (by simp [h c rfl])]

/-- Digits are read up to the width, or up to what is no digit. -/
theorem number_append {width : Nat} {digits rest : List Char}
    (hdigits : ∀ c ∈ digits, isDigit c = true) (hne : digits ≠ [])
    (hwidth : digits.length = width ∨ digits.length ≤ width ∧ EndsDigits rest)
    (hvalue : Nat.ofDigitChars 10 digits 0 ≤ greatestNumber) :
    number width (digits ++ rest) =
      .ok (Nat.ofDigitChars 10 digits 0, digits.length, rest) := by
  have hread : ((digits ++ rest).take width).takeWhile isDigit = digits := by
    rcases hwidth with rfl | ⟨hle, hend⟩
    · rw [List.take_left, List.takeWhile_eq_self_iff.mpr hdigits]
    · rw [List.take_append, List.take_of_length_le hle, List.takeWhile_append_of_pos hdigits,
        takeWhile_isDigit hend, List.append_nil]
  unfold number
  rw [if_neg (by simp [hne]), hread]
  dsimp only
  rw [if_neg hne]
  have hfold : digits.foldl (fun n c => 10 * n + (c.toNat - 0x30)) 0 =
      Nat.ofDigitChars 10 digits 0 := rfl
  rw [hfold, if_neg (Nat.not_lt.mpr hvalue), List.drop_left]

theorem isDigit_of_mem_zeroPadded {width n : Nat} {c : Char} (h : c ∈ zeroPadded width n) :
    isDigit c = true := by
  rcases List.mem_append.mp h with h | h
  · rw [List.eq_of_mem_replicate h]
    rfl
  · exact isDigit_iff.mpr (Nat.isDigit_of_mem_toDigits (by decide) (by decide) h)

theorem zeroPadded_ne_nil (width n : Nat) : zeroPadded width n ≠ [] := by
  simp [zeroPadded]

theorem ofDigitChars_zeroPadded (width n : Nat) :
    Nat.ofDigitChars 10 (zeroPadded width n) 0 = n := by
  simp [zeroPadded, Nat.ofDigitChars_append]

theorem length_zeroPadded {width n : Nat} (hwidth : 0 < width) (hn : n < 10 ^ width) :
    (zeroPadded width n).length = width := by
  have hle := (Nat.length_toDigits_le_iff (b := 10) (by decide) hwidth).mpr hn
  simp only [zeroPadded, List.length_append, List.length_replicate]
  omega

theorem number_zeroPadded {width n : Nat} (hwidth : 0 < width) (hn : n < 10 ^ width)
    (hvalue : n ≤ greatestNumber) (rest : List Char) :
    number width (zeroPadded width n ++ rest) = .ok (n, width, rest) := by
  have hlength := length_zeroPadded hwidth hn
  rw [number_append (fun _ => isDigit_of_mem_zeroPadded) (zeroPadded_ne_nil width n) (.inl hlength)
    (by rwa [ofDigitChars_zeroPadded]), ofDigitChars_zeroPadded, hlength]

/-! ### The parts of a timestamp -/

theorem skipBlanks_cons {c : Char} (h : Text.isBlank c = false) (rest : List Char) :
    skipBlanks (c :: rest) = c :: rest :=
  List.dropWhile_cons_of_neg (by simp [h])

theorem skipBlanks_zeroPadded (width n : Nat) (rest : List Char) :
    skipBlanks (zeroPadded width n ++ rest) = zeroPadded width n ++ rest := by
  cases hdigits : zeroPadded width n with
  | nil => exact absurd hdigits (zeroPadded_ne_nil width n)
  | cons c others =>
    have hdigit : isDigit c = true := by
      have hmem : c ∈ zeroPadded width n := by
        rw [hdigits]
        exact List.mem_cons_self
      exact isDigit_of_mem_zeroPadded hmem
    exact skipBlanks_cons (isBlank_of_isDigit hdigit) _

theorem mark_cons {c : Char} (h : Text.isBlank c = false) (rest : List Char) :
    mark c (c :: rest) = .ok rest := by
  rw [mark, skipBlanks_cons h]
  exact if_pos rfl

theorem part_zeroPadded {least greatest n : Nat} (hleast : least ≤ n) (hgreatest : n ≤ greatest)
    (hwidth : greatest < 100) (rest : List Char) :
    part least greatest (zeroPadded 2 n ++ rest) = .ok (n, rest) := by
  have hvalue : n ≤ greatestNumber := by
    unfold greatestNumber
    omega
  rw [part, skipBlanks_zeroPadded, number_zeroPadded (by decide) (by omega) hvalue, ok_bind]
  exact if_pos ⟨hleast, hgreatest⟩

theorem fractionPart_zeroPadded {width n : Nat} (hwidth : 0 < width) (hnine : width ≤ 9)
    (hn : n < 10 ^ width) :
    fractionPart ('.' :: zeroPadded width n) = .ok (n * 10 ^ (9 - width), []) := by
  have hvalue : n ≤ greatestNumber := by
    have hpow : 10 ^ width ≤ 10 ^ 9 := Nat.pow_le_pow_right (by decide) hnine
    unfold greatestNumber
    omega
  have hnumber : number 9 (zeroPadded width n) = .ok (n, width, []) := by
    have hlength := length_zeroPadded hwidth hn
    have hread : number 9 (zeroPadded width n ++ []) = _ :=
      number_append (fun _ => isDigit_of_mem_zeroPadded) (zeroPadded_ne_nil width n)
        (.inr ⟨by rwa [hlength], endsDigits_nil⟩) (by rwa [ofDigitChars_zeroPadded])
    rwa [List.append_nil, ofDigitChars_zeroPadded, hlength] at hread
  rw [fractionPart, hnumber]
  rfl

theorem fractionPart_fractionChars {n : Nat} (h : n < 1000000000) :
    fractionPart (fractionChars n) = .ok (n, []) := by
  unfold fractionChars
  split
  · next hzero => rw [hzero]; rfl
  · split
    · rw [fractionPart_zeroPadded (by decide) (by decide) (by omega)]
      congr 2
      omega
    · split
      · rw [fractionPart_zeroPadded (by decide) (by decide) (by omega)]
        congr 2
        omega
      · rw [fractionPart_zeroPadded (by decide) (by decide) (by omega)]
        congr 2
        omega

theorem yearPart_yearChars {year : Int} (hleast : leastYear ≤ year)
    (hgreatest : year ≤ greatestYear) {rest : List Char} (hrest : EndsDigits rest) :
    yearPart (yearChars year ++ rest) = .ok (year, rest) := by
  unfold leastYear at hleast
  unfold greatestYear at hgreatest
  have hvalue : year.natAbs ≤ greatestNumber := by
    unfold greatestNumber
    omega
  have hplus : -0x80000000 ≤ (year.natAbs : Int) ∧ (year.natAbs : Int) < 0x80000000 := by omega
  have hminus : -0x80000000 ≤ -(year.natAbs : Int) ∧ -(year.natAbs : Int) < 0x80000000 := by omega
  have hsigned : number (zeroPadded 4 year.natAbs ++ rest).length
      (zeroPadded 4 year.natAbs ++ rest) =
      .ok (year.natAbs, (zeroPadded 4 year.natAbs).length, rest) := by
    rw [number_append (fun _ => isDigit_of_mem_zeroPadded) (zeroPadded_ne_nil 4 year.natAbs)
      (.inr ⟨by simp, hrest⟩) (by rwa [ofDigitChars_zeroPadded]), ofDigitChars_zeroPadded]
  unfold yearChars
  split
  · next hplain =>
    have hread : number 4 (zeroPadded 4 year.natAbs ++ rest) = .ok (year.natAbs, 4, rest) :=
      number_zeroPadded (by decide) (by omega) hvalue rest
    have hback : (year.natAbs : Int) = year := Int.natAbs_of_nonneg hplain.1
    have hfirst : ∀ {c : Char} {others : List Char},
        zeroPadded 4 year.natAbs ++ rest = c :: others → isDigit c = true := by
      intro c others heq
      obtain ⟨d, digits, hdigits⟩ := List.exists_cons_of_ne_nil (zeroPadded_ne_nil 4 year.natAbs)
      rw [hdigits, List.cons_append] at heq
      cases heq
      have hmem : c ∈ zeroPadded 4 year.natAbs := by
        rw [hdigits]
        exact List.mem_cons_self
      exact isDigit_of_mem_zeroPadded hmem
    rw [yearPart, skipBlanks_zeroPadded]
    split
    · next heq => exact absurd (hfirst heq) (by decide)
    · next heq => exact absurd (hfirst heq) (by decide)
    · rw [hread, ok_bind]
      exact (if_pos hplus).trans (by rw [hback])
  · split
    · next hnegative =>
      have hback : -(year.natAbs : Int) = year := by omega
      rw [List.cons_append, yearPart, skipBlanks_cons (by decide)]
      exact bind_eq_ok.mpr ⟨_, hsigned, (if_pos hminus).trans (by rw [hback])⟩
    · next hpositive =>
      have hback : (year.natAbs : Int) = year := by omega
      rw [List.cons_append, yearPart, skipBlanks_cons (by decide)]
      exact bind_eq_ok.mpr ⟨_, hsigned, (if_pos hplus).trans (by rw [hback])⟩

/-! ### What was read -/

theorem ofDigitChars_lt {digits : List Char} (h : ∀ c ∈ digits, isDigit c = true) :
    Nat.ofDigitChars 10 digits 0 < 10 ^ digits.length := by
  induction digits with
  | nil => decide
  | cons c rest ih =>
    have hrest := ih fun d hmem => h d (List.mem_cons_of_mem _ hmem)
    have hdigit := h c List.mem_cons_self
    simp only [isDigit, Bool.and_eq_true, decide_eq_true_eq] at hdigit
    have hfirst : c.toNat - '0'.toNat ≤ 9 := Nat.sub_le_of_le_add hdigit.2
    rw [Nat.ofDigitChars_cons, Nat.ofDigitChars_eq_ofDigitChars_zero, List.length_cons,
      Nat.pow_succ, Nat.mul_zero, Nat.zero_add]
    have hproduct := Nat.mul_le_mul_left (10 ^ rest.length) hfirst
    omega

theorem of_number {width value count : Nat} {text rest : List Char}
    (h : number width text = .ok (value, count, rest)) :
    0 < count ∧ count ≤ width ∧ value < 10 ^ count := by
  unfold number at h
  split at h
  · cases h
  · dsimp only at h
    split at h
    · cases h
    · next hne =>
      split at h
      · cases h
      · cases h
        refine ⟨List.length_pos_iff.mpr hne, ?_, ?_⟩
        · exact (List.takeWhile_sublist _).length_le.trans (List.length_take_le _ _)
        · exact ofDigitChars_lt fun c hmem => List.mem_takeWhile_imp hmem

theorem of_part {least greatest value : Nat} {text rest : List Char}
    (h : part least greatest text = .ok (value, rest)) : least ≤ value ∧ value ≤ greatest := by
  obtain ⟨_, -, h⟩ := bind_eq_ok.mp h
  dsimp only at h
  split at h
  · next hbetween =>
    cases h
    exact hbetween
  · cases h

theorem of_fractionPart {value : Nat} {text rest : List Char}
    (h : fractionPart text = .ok (value, rest)) : value < 1000000000 := by
  unfold fractionPart at h
  split at h
  · obtain ⟨⟨read, count, left⟩, hnumber, h⟩ := bind_eq_ok.mp h
    cases h
    obtain ⟨-, hcount, hread⟩ := of_number hnumber
    calc read * 10 ^ (9 - count) < 10 ^ count * 10 ^ (9 - count) :=
          Nat.mul_lt_mul_of_pos_right hread (Nat.pow_pos (by decide))
      _ = 10 ^ 9 := by rw [← Nat.pow_add, Nat.add_sub_cancel' hcount]
  · cases h
    decide

/-- **What is read exists.** -/
theorem valid_of_parse {text : String} {t : Timestamp} (h : parse text = .ok t) : t.Valid := by
  obtain ⟨⟨year, _⟩, -, h⟩ := bind_eq_ok.mp h
  obtain ⟨_, -, h⟩ := bind_eq_ok.mp h
  obtain ⟨⟨month, _⟩, hmonth, h⟩ := bind_eq_ok.mp h
  obtain ⟨_, -, h⟩ := bind_eq_ok.mp h
  obtain ⟨⟨day, _⟩, hday, h⟩ := bind_eq_ok.mp h
  obtain ⟨_, -, h⟩ := bind_eq_ok.mp h
  obtain ⟨⟨hour, _⟩, hhour, h⟩ := bind_eq_ok.mp h
  obtain ⟨_, -, h⟩ := bind_eq_ok.mp h
  obtain ⟨⟨minute, _⟩, hminute, h⟩ := bind_eq_ok.mp h
  obtain ⟨_, -, h⟩ := bind_eq_ok.mp h
  obtain ⟨⟨second, _⟩, hsecond, h⟩ := bind_eq_ok.mp h
  obtain ⟨⟨nanosecond, _⟩, hnanosecond, h⟩ := bind_eq_ok.mp h
  dsimp only at h
  split at h
  · cases h
  · split at h
    · next hexists =>
      cases h
      exact ⟨⟨hexists.1, hexists.2.1⟩, of_part hmonth, ⟨(of_part hday).1, hexists.2.2⟩,
        (of_part hhour).2, (of_part hminute).2, (of_part hsecond).2, of_fractionPart hnanosecond⟩
    · cases h

/-! ### Reading back -/

/-- **A timestamp is read from its own text.** -/
theorem Valid.parse_text {t : Timestamp} (h : t.Valid) : parse t.text = .ok t := by
  have hday : t.day ≤ 31 := h.day.2.trans (daysInMonth_le t.year t.month)
  rw [text, parse, String.toList_ofList, chars, dateChars]
  simp only [List.append_assoc, List.cons_append]
  rw [yearPart_yearChars h.year.1 h.year.2 (endsDigits_cons (by decide) _), ok_bind]
  rw [mark_cons (by decide), ok_bind, part_zeroPadded h.month.1 h.month.2 (by decide), ok_bind]
  rw [mark_cons (by decide), ok_bind, part_zeroPadded h.day.1 hday (by decide), ok_bind]
  rw [mark_cons (by decide), ok_bind, part_zeroPadded (Nat.zero_le _) h.hour (by decide), ok_bind]
  rw [mark_cons (by decide), ok_bind, part_zeroPadded (Nat.zero_le _) h.minute (by decide), ok_bind]
  rw [mark_cons (by decide), ok_bind, part_zeroPadded (Nat.zero_le _) h.second (by decide), ok_bind]
  rw [fractionPart_fractionChars h.nanosecond, ok_bind]
  have hend : ¬skipBlanks [] ≠ [] := fun hne => hne rfl
  exact (if_neg hend).trans (if_pos ⟨h.year.1, h.year.2, h.day.2⟩)

end IdentityConsole.Timestamp
