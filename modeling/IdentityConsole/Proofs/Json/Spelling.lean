import Mathlib.Data.Fintype.Basic
import Mathlib.Tactic.FinCases
import Mathlib.Tactic.SplitIfs
import IdentityConsole.Json.Printer
import IdentityConsole.Proofs.Json.Decimal

/-!
# Spellings

A value has many spellings: blanks may stand between its parts. Each of them is read as the same
draft, and what follows it is left unread.
-/

namespace IdentityConsole.Json

namespace Draft

def Blanks (text : List Char) : Prop :=
  ∀ c ∈ text, isSpace c = true

mutual

inductive Spelling : Draft → List Char → Prop
  | null : Spelling .null ['n', 'u', 'l', 'l']
  | bool (value : Bool) : Spelling (.bool value) (boolChars value)
  | number (n : Int) : Spelling (.number (.ofInt n)) (Number.intChars n)
  | negativeZero : Spelling (.number .negativeZero) (Number.floatChars .negativeZero)
  | string (text : String) : Spelling (.string (some text)) (stringChars text)
  | emptyArray {blanks : List Char} (hblanks : Blanks blanks) :
      Spelling (.array [] true) ('[' :: (blanks ++ [']']))
  | array {items : List Draft} {before inner : List Char} (hbefore : Blanks before)
      (hitems : SpellingItems items inner) :
      Spelling (.array items true) ('[' :: (before ++ inner ++ [']']))
  | emptyObject {blanks : List Char} (hblanks : Blanks blanks) :
      Spelling (.object [] true) ('{' :: (blanks ++ ['}']))
  | object {members : List (Key × Draft)} {before inner : List Char} (hbefore : Blanks before)
      (hmembers : SpellingMembers members inner) :
      Spelling (.object members true) ('{' :: (before ++ inner ++ ['}']))

/-- What stands between the brackets, from the first item on. -/
inductive SpellingItems : List Draft → List Char → Prop
  | last {item : Draft} {text after : List Char} (hitem : Spelling item text)
      (hafter : Blanks after) : SpellingItems [item] (text ++ after)
  | cons {item : Draft} {rest : List Draft} {text after before inner : List Char}
      (hitem : Spelling item text) (hafter : Blanks after) (hbefore : Blanks before)
      (hrest : SpellingItems rest inner) :
      SpellingItems (item :: rest) (text ++ after ++ ',' :: (before ++ inner))

inductive SpellingMembers : List (Key × Draft) → List Char → Prop
  | last (key : String) {value : Draft} {between text after : List Char}
      (hbetween : Blanks between) (hvalue : Spelling value text) (hafter : Blanks after) :
      SpellingMembers [(.name key, value)] (stringChars key ++ ':' :: (between ++ text ++ after))
  | cons (key : String) {value : Draft} {rest : List (Key × Draft)}
      {between text after before inner : List Char} (hbetween : Blanks between)
      (hvalue : Spelling value text) (hafter : Blanks after) (hbefore : Blanks before)
      (hrest : SpellingMembers rest inner) :
      SpellingMembers ((.name key, value) :: rest)
        (stringChars key ++ ':' :: (between ++ text ++ after ++ ',' :: (before ++ inner)))

end

/-! ### Reading strings -/

theorem units?_plain (read : List Nat) {c : Char} (hquote : c ≠ '"') (hbackslash : c ≠ '\\')
    (hcontrol : ¬c.toNat < 0x20) (rest : List Char) :
    units? read (c :: rest) = units? (c.toNat :: read) rest := by
  have hplain : ¬(c.toNat < 0x20 ∨ c = '\\') := fun h => h.elim hcontrol hbackslash
  rw [units?.eq_def]
  split
  · next h => cases h
  · next h => cases h; exact absurd rfl hquote
  · next h => cases h; exact absurd rfl hbackslash
  · next h => cases h; exact absurd rfl hbackslash
  · next h => cases h; exact if_neg hplain

theorem units?_control (read : List Nat) {c : Char} (hcontrol : c.toNat < 0x20)
    (rest : List Char) :
    units? read ('\\' :: 'u' :: '0' :: '0' :: Text.lowerHexDigit (c.toNat / 16) ::
      Text.lowerHexDigit (c.toNat % 16) :: rest) = units? (c.toNat :: read) rest := by
  have hzero : Text.hexValue? '0' = some 0 := rfl
  have hhigh := Text.hexValue?_lowerHexDigit (c.toNat / 16) (by omega)
  have hlow := Text.hexValue?_lowerHexDigit (c.toNat % 16) (by omega)
  simp only [units?, hzero, hhigh, hlow]
  congr 2
  omega

/-- A character is one code unit, be it escaped or not. -/
theorem units?_escape (read : List Nat) (c : Char) (rest : List Char) :
    units? read (escape c ++ rest) = units? (c.toNat :: read) rest := by
  unfold escape
  split_ifs with hquote hbackslash hbackspace hfeed hline hreturn htab hcontrol
  · subst hquote; rfl
  · subst hbackslash; rfl
  · rw [hbackspace]; rfl
  · rw [hfeed]; rfl
  · subst hline; rfl
  · subst hreturn; rfl
  · subst htab; rfl
  · exact units?_control read hcontrol rest
  · exact units?_plain read hquote hbackslash hcontrol rest

theorem units?_stringChars (read : List Nat) (text rest : List Char) :
    units? read (text.flatMap escape ++ '"' :: rest) =
      some (read.reverse ++ text.map Char.toNat, rest) := by
  induction text generalizing read with
  | nil => simp [units?]
  | cons c text ih =>
    rw [List.flatMap_cons, List.append_assoc, units?_escape, ih]
    simp

theorem paired?_map (read text : List Char) :
    paired? read (text.map Char.toNat) = some (read.reverse ++ text) := by
  induction text generalizing read with
  | nil => simp [paired?]
  | cons c text ih =>
    have hscalar : c.toNat < 0xD800 ∨ 0xDFFF < c.toNat ∧ c.toNat < 0x110000 := c.valid
    cases text with
    | nil =>
      rw [List.map_singleton, paired?, if_neg (by omega), Char.ofNat_toNat]
      simp
    | cons next text =>
      rw [List.map_cons] at ih
      rw [List.map_cons, List.map_cons, paired?, if_neg (by omega), if_neg (by omega),
        Char.ofNat_toNat, ih]
      simp

theorem string?_stringChars (text : String) (rest : List Char) :
    string? (text.toList.flatMap escape ++ '"' :: rest) = some (some text, rest) := by
  rw [string?, units?_stringChars]
  simp [paired?_map]

/-! ### Reading values -/

theorem isSpace_cases {c : Char} (h : isSpace c = true) :
    c = ' ' ∨ c = '\n' ∨ c = '\t' ∨ c = '\r' := by
  simpa [isSpace, or_assoc] using h

theorem skipSpace_blanks {blanks : List Char} (h : Blanks blanks) (text : List Char) :
    skipSpace (blanks ++ text) = skipSpace text :=
  List.dropWhile_append_of_pos h

theorem skipSpace_cons {c : Char} (h : isSpace c = false) (text : List Char) :
    skipSpace (c :: text) = c :: text := by
  rw [skipSpace, List.dropWhile_cons_of_neg (by simp [h])]

theorem readValue_blanks {blanks : List Char} (h : Blanks blanks) (fuel : Nat)
    (text : List Char) : readValue fuel (blanks ++ text) = readValue fuel text := by
  cases fuel with
  | zero => rfl
  | succ fuel => rw [readValue, readValue, skipSpace_blanks h]

/-- Blanks, and what separates or closes, end a number. -/
theorem endsNumber_blanks {blanks rest : List Char} (hblanks : Blanks blanks)
    (hrest : EndsNumber rest) : EndsNumber (blanks ++ rest) := by
  cases blanks with
  | nil => exact hrest
  | cons c blanks =>
    rintro _ ⟨⟩
    rcases isSpace_cases (hblanks c List.mem_cons_self) with rfl | rfl | rfl | rfl <;> decide

theorem endsNumber_cons {c : Char} (hc : c = ',' ∨ c = ']' ∨ c = '}') (rest : List Char) :
    EndsNumber (c :: rest) := by
  rintro _ ⟨⟩
  rcases hc with rfl | rfl | rfl <;> decide

theorem readValue_digit (d : Fin 10) (fuel : Nat) (text : List Char) :
    readValue (fuel + 1) (Number.digitChar d :: text) =
      ofLiteral (literal? false (Number.digitChar d :: text)) := by
  fin_cases d <;> rfl

theorem readValue_number (n : Int) (fuel : Nat) {rest : List Char} (hrest : EndsNumber rest) :
    readValue (fuel + 1) (Number.intChars n ++ rest) = (.number (.ofInt n), rest) := by
  rw [intChars_eq]
  by_cases hneg : n < 0
  · have hliteral := literal?_decimal true n.natAbs hrest
    rw [if_pos hneg, List.append_assoc, List.singleton_append, readValue,
      skipSpace_cons (by decide)]
    simp only [hliteral, ofLiteral, Literal.ofInt, hneg, decide_true]
  · have hliteral := literal?_decimal false n.natAbs hrest
    rw [if_neg hneg, List.nil_append]
    obtain ⟨d, others, hdigits⟩ := List.exists_cons_of_ne_nil (decimal_ne_nil n.natAbs)
    rw [hdigits, List.map_cons, List.cons_append] at hliteral
    rw [hdigits, List.map_cons, List.cons_append, readValue_digit d, hliteral]
    simp only [ofLiteral, Literal.ofInt, hneg, decide_false, hdigits]

theorem floatChars_negativeZero : Number.floatChars .negativeZero = ['-', '0', '.', '0'] := by
  decide

theorem readValue_negativeZero (fuel : Nat) {rest : List Char} (hrest : EndsNumber rest) :
    readValue (fuel + 1) (Number.floatChars .negativeZero ++ rest) =
      (.number .negativeZero, rest) := by
  rw [floatChars_negativeZero, List.cons_append, readValue, skipSpace_cons (by decide)]
  simp only [List.cons_append, List.nil_append, literal?_negativeZero hrest, ofLiteral]

theorem digitChar_first : ∀ d : Fin 10, isSpace (Number.digitChar d) = false ∧
    Number.digitChar d ≠ ']' ∧ Number.digitChar d ≠ '}' := by
  decide

/-- A spelling begins with neither a blank nor a closing bracket. -/
theorem Spelling.first {draft : Draft} {text : List Char} (h : Spelling draft text) :
    ∃ c others, text = c :: others ∧ isSpace c = false ∧ c ≠ ']' ∧ c ≠ '}' := by
  cases h with
  | null => exact ⟨_, _, rfl, by decide⟩
  | bool value => cases value <;> exact ⟨_, _, rfl, by decide⟩
  | number n =>
    rw [intChars_eq]
    by_cases hneg : n < 0
    · rw [if_pos hneg]
      exact ⟨_, _, rfl, by decide⟩
    · rw [if_neg hneg, List.nil_append]
      obtain ⟨d, others, hdigits⟩ := List.exists_cons_of_ne_nil (decimal_ne_nil n.natAbs)
      rw [hdigits]
      exact ⟨_, _, rfl, digitChar_first d⟩
  | negativeZero =>
    rw [floatChars_negativeZero]
    exact ⟨_, _, rfl, by decide⟩
  | string | emptyArray | array | emptyObject | object => exact ⟨_, _, rfl, by decide⟩

theorem Spelling.skipSpace_append {draft : Draft} {text : List Char} (h : Spelling draft text)
    (rest : List Char) : skipSpace (text ++ rest) = text ++ rest := by
  obtain ⟨c, others, rfl, hspace, -⟩ := h.first
  rw [List.cons_append, skipSpace_cons hspace]

theorem SpellingItems.first {items : List Draft} {inner : List Char}
    (h : SpellingItems items inner) :
    ∃ c others, inner = c :: others ∧ isSpace c = false ∧ c ≠ ']' := by
  cases h with
  | last hitem | cons hitem =>
    obtain ⟨c, others, rfl, hspace, hclose, -⟩ := hitem.first
    exact ⟨c, _, rfl, hspace, hclose⟩

theorem SpellingMembers.first {members : List (Key × Draft)} {inner : List Char}
    (h : SpellingMembers members inner) : ∃ others, inner = '"' :: others := by
  cases h with
  | last | cons => exact ⟨_, rfl⟩

theorem readItems_blanks {blanks : List Char} (h : Blanks blanks) (fuel : Nat)
    (text : List Char) :
    readValue.readItems fuel (blanks ++ text) = readValue.readItems fuel text := by
  cases fuel with
  | zero => rfl
  | succ fuel => rw [readValue.readItems, readValue.readItems, readValue_blanks h]

theorem readMembers_blanks {blanks : List Char} (h : Blanks blanks) (fuel : Nat)
    (text : List Char) :
    readValue.readMembers fuel (blanks ++ text) = readValue.readMembers fuel text := by
  cases fuel with
  | zero => rfl
  | succ fuel => rw [readValue.readMembers, readValue.readMembers, skipSpace_blanks h]

theorem isSpace_closing : isSpace ']' = false ∧ isSpace '}' = false ∧ isSpace ',' = false ∧
    isSpace ':' = false ∧ isSpace '"' = false := by
  decide

mutual

/-- Each value costs one unit of fuel, and so does each item; both have a character at least. -/
theorem Spelling.readValue {draft : Draft} {text : List Char} (h : Spelling draft text)
    (fuel : Nat) (hfuel : text.length ≤ fuel) {rest : List Char} (hrest : EndsNumber rest) :
    Draft.readValue fuel (text ++ rest) = (draft, rest) := by
  obtain ⟨fuel, rfl⟩ : ∃ n, fuel = n + 1 := by
    obtain ⟨c, others, rfl, -⟩ := h.first
    exact Nat.exists_eq_succ_of_ne_zero (by rw [List.length_cons] at hfuel; omega)
  have hskip := h.skipSpace_append rest
  cases h with
  | null => rfl
  | bool value => cases value <;> rfl
  | number n => exact readValue_number n fuel hrest
  | negativeZero => exact readValue_negativeZero fuel hrest
  | string text =>
    simp only [stringChars, List.cons_append, List.append_assoc, List.nil_append] at hskip ⊢
    rw [Draft.readValue, hskip]
    simp only [string?_stringChars]
  | emptyArray hblanks =>
    simp only [List.cons_append, List.append_assoc, List.nil_append] at hskip ⊢
    rw [Draft.readValue, hskip]
    simp only [skipSpace_blanks hblanks, skipSpace_cons isSpace_closing.1]
  | @array items before inner hbefore hitems =>
    obtain ⟨c, others, hinner, hspace, hclose⟩ := hitems.first
    have hread := hitems.readItems fuel
      (by simp only [List.length_cons, List.length_append, List.length_nil] at hfuel; omega) rest
    simp only [List.cons_append, List.append_assoc, List.nil_append] at hskip ⊢
    rw [Draft.readValue, hskip]
    simp only [skipSpace_blanks hbefore]
    rw [hinner, List.cons_append] at hread ⊢
    rw [skipSpace_cons hspace]
    split
    · next heq => cases heq; exact absurd rfl hclose
    · rw [hread]
  | emptyObject hblanks =>
    simp only [List.cons_append, List.append_assoc, List.nil_append] at hskip ⊢
    rw [Draft.readValue, hskip]
    simp only [skipSpace_blanks hblanks, skipSpace_cons isSpace_closing.2.1]
  | @object members before inner hbefore hmembers =>
    obtain ⟨others, hinner⟩ := hmembers.first
    have hread := hmembers.readMembers fuel
      (by simp only [List.length_cons, List.length_append, List.length_nil] at hfuel; omega) rest
    simp only [List.cons_append, List.append_assoc, List.nil_append] at hskip ⊢
    rw [Draft.readValue, hskip]
    simp only [skipSpace_blanks hbefore]
    rw [hinner, List.cons_append] at hread ⊢
    rw [skipSpace_cons isSpace_closing.2.2.2.2]
    split
    · next heq => simp at heq
    · rw [hread]

theorem SpellingItems.readItems {items : List Draft} {inner : List Char}
    (h : SpellingItems items inner) (fuel : Nat) (hfuel : inner.length < fuel) (rest : List Char) :
    readValue.readItems fuel (inner ++ ']' :: rest) = (items, true, rest) := by
  obtain ⟨fuel, rfl⟩ : ∃ n, fuel = n + 1 := Nat.exists_eq_succ_of_ne_zero (by omega)
  cases h with
  | @last item text after hitem hafter =>
    have hend : EndsNumber (after ++ ']' :: rest) :=
      endsNumber_blanks hafter (endsNumber_cons (.inr (.inl rfl)) rest)
    have hvalue := hitem.readValue fuel
      (by rw [List.length_append] at hfuel; omega) hend
    rw [List.append_assoc, readValue.readItems, hvalue]
    simp only [skipSpace_blanks hafter, skipSpace_cons isSpace_closing.1]
  | @cons item others text after before inner hitem hafter hbefore hothers =>
    simp only [List.length_append, List.length_cons] at hfuel
    have hend : EndsNumber (after ++ ',' :: (before ++ (inner ++ ']' :: rest))) :=
      endsNumber_blanks hafter (endsNumber_cons (.inl rfl) _)
    have hvalue := hitem.readValue fuel (by omega) hend
    have hread := hothers.readItems fuel (by omega) rest
    simp only [List.append_assoc, List.cons_append]
    rw [readValue.readItems, hvalue]
    simp only [skipSpace_blanks hafter, skipSpace_cons isSpace_closing.2.2.1,
      readItems_blanks hbefore, hread]

theorem SpellingMembers.readMembers {members : List (Key × Draft)} {inner : List Char}
    (h : SpellingMembers members inner) (fuel : Nat) (hfuel : inner.length < fuel)
    (rest : List Char) :
    readValue.readMembers fuel (inner ++ '}' :: rest) = (members, true, rest) := by
  obtain ⟨fuel, rfl⟩ : ∃ n, fuel = n + 1 := Nat.exists_eq_succ_of_ne_zero (by omega)
  cases h with
  | @last key value between text after hbetween hvalue hafter =>
    simp only [stringChars, List.length_append, List.length_cons] at hfuel
    have hend : EndsNumber (after ++ '}' :: rest) :=
      endsNumber_blanks hafter (endsNumber_cons (.inr (.inr rfl)) rest)
    have hread := hvalue.readValue fuel (by omega) hend
    simp only [stringChars, List.append_assoc, List.cons_append, List.nil_append]
    rw [readValue.readMembers, skipSpace_cons isSpace_closing.2.2.2.2]
    simp only [string?_stringChars, skipSpace_cons isSpace_closing.2.2.2.1,
      readValue_blanks hbetween, hread, skipSpace_blanks hafter, skipSpace_cons isSpace_closing.2.1]
  | @cons key value others between text after before inner hbetween hvalue hafter hbefore hothers =>
    simp only [stringChars, List.length_append, List.length_cons] at hfuel
    have hend : EndsNumber (after ++ ',' :: (before ++ (inner ++ '}' :: rest))) :=
      endsNumber_blanks hafter (endsNumber_cons (.inl rfl) _)
    have hread := hvalue.readValue fuel (by omega) hend
    have hmembers := hothers.readMembers fuel (by omega) rest
    simp only [stringChars, List.append_assoc, List.cons_append, List.nil_append]
    rw [readValue.readMembers, skipSpace_cons isSpace_closing.2.2.2.2]
    simp only [string?_stringChars, skipSpace_cons isSpace_closing.2.2.2.1,
      readValue_blanks hbetween, hread, skipSpace_blanks hafter,
      skipSpace_cons isSpace_closing.2.2.1, readMembers_blanks hbefore, hmembers]

end

/-- **A spelling is read as what it spells**, whatever fits the text after it. -/
theorem ofText_spelling {draft : Draft} {text : String} (h : Spelling draft text.toList) :
    ofText text = (draft, true) := by
  have hend : EndsNumber [] := by
    rintro _ ⟨⟩
  have hread := h.readValue (text.toList.length + 1) (Nat.le_succ _) hend
  rw [List.append_nil] at hread
  simp [ofText, hread, skipSpace]

end Draft

end IdentityConsole.Json
