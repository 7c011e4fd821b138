import Mathlib.Data.List.Basic
import IdentityConsole.Text.Utf8

/-!
# Reading back what was encoded

The octets of a character are read as that character, and what follows them is left as it is. A text
is therefore read back from its octets. No other octets are read as a character, and so a text is
read from its own octets only.
-/

namespace IdentityConsole.Text.Utf8

/-- A continuation octet adds six bits to what was read before. -/
theorem follow_ofNat {code n bits : Nat} {low high : UInt8} {rest : List UInt8}
    (hbits : bits < 64) (hlow : low.toNat ≤ bits + 128) (hhigh : bits + 128 ≤ high.toNat) :
    follow code (n + 1) low high (UInt8.ofNat (bits + 128) :: rest) =
      follow (code * 64 + bits) n 0x80 0xBF rest := by
  have hoctet : (UInt8.ofNat (bits + 128)).toNat = bits + 128 := by
    rw [UInt8.toNat_ofNat']
    omega
  have hwithin : low ≤ UInt8.ofNat (bits + 128) ∧ UInt8.ofNat (bits + 128) ≤ high := by
    rw [UInt8.le_iff_toNat_le, UInt8.le_iff_toNat_le, hoctet]
    exact ⟨hlow, hhigh⟩
  rw [follow, if_pos hwithin, hoctet, Nat.add_sub_cancel]

/-- Where the octet after the lead may be any continuation octet. -/
theorem follow_any {code n bits : Nat} {rest : List UInt8} (hbits : bits < 64) :
    follow code (n + 1) 0x80 0xBF (UInt8.ofNat (bits + 128) :: rest) =
      follow (code * 64 + bits) n 0x80 0xBF rest :=
  follow_ofNat hbits (by simp) (by simp; omega)

theorem next_of_lead {n : Nat} {lead : Lead} (rest : List UInt8) (hlow : 0x80 ≤ n)
    (hhigh : n < 256) (hlead : lead? (UInt8.ofNat n) = some lead) :
    next (UInt8.ofNat n) rest = follow lead.bits lead.following lead.low lead.high rest := by
  have hnot : ¬UInt8.ofNat n < 0x80 := by
    rw [UInt8.lt_iff_toNat_lt, UInt8.toNat_ofNat', Nat.mod_eq_of_lt hhigh]
    exact Nat.not_lt.mpr hlow
  rw [next, if_neg hnot, hlead]

theorem toNat_ofNat_of_lt {n : Nat} (h : n < 256) : (UInt8.ofNat n).toNat = n := by
  rw [UInt8.toNat_ofNat', Nat.mod_eq_of_lt h]

theorem next_one {v : Nat} (hhigh : v < 0x80) (rest : List UInt8) :
    next (UInt8.ofNat v) rest = (some (Char.ofNat v), rest) := by
  have hoctet : (UInt8.ofNat v).toNat = v := toNat_ofNat_of_lt (by omega)
  have hascii : UInt8.ofNat v < 0x80 := by
    rw [UInt8.lt_iff_toNat_lt, hoctet]
    exact hhigh
  rw [next, if_pos hascii, hoctet]

theorem next_two {v : Nat} (hlow : 0x80 ≤ v) (hhigh : v < 0x800) (rest : List UInt8) :
    next (UInt8.ofNat (v / 64 + 192)) (UInt8.ofNat (v % 64 + 128) :: rest) =
      (some (Char.ofNat v), rest) := by
  have hlead : lead? (UInt8.ofNat (v / 64 + 192)) = some ⟨v / 64, 0x80, 0xBF, 1⟩ := by
    unfold lead?
    simp only [toNat_ofNat_of_lt (show v / 64 + 192 < 256 by omega)]
    rw [if_neg (by omega), if_pos (by omega), Nat.add_sub_cancel]
  rw [next_of_lead _ (by omega) (by omega) hlead]
  simp only
  rw [follow_any (by omega), follow, show v / 64 * 64 + v % 64 = v by omega]

/-- After two of the leads not every continuation octet may come: what would follow the one has a
shorter form, and what would follow the other is a surrogate. -/
theorem next_three {v : Nat} (hlow : 0x800 ≤ v) (hhigh : v < 0x10000)
    (hscalar : v < 0xD800 ∨ 0xDFFF < v) (rest : List UInt8) :
    next (UInt8.ofNat (v / 4096 + 224))
        (UInt8.ofNat (v / 64 % 64 + 128) :: UInt8.ofNat (v % 64 + 128) :: rest) =
      (some (Char.ofNat v), rest) := by
  have hlead : ∃ low high : UInt8,
      lead? (UInt8.ofNat (v / 4096 + 224)) = some ⟨v / 4096, low, high, 2⟩ ∧
      low.toNat ≤ v / 64 % 64 + 128 ∧ v / 64 % 64 + 128 ≤ high.toNat := by
    unfold lead?
    simp only [toNat_ofNat_of_lt (show v / 4096 + 224 < 256 by omega)]
    rw [if_neg (by omega), if_neg (by omega)]
    by_cases hshort : v / 4096 = 0
    · refine ⟨0xA0, 0xBF, ?_, ?_, ?_⟩
      · rw [if_pos (by omega), hshort]
      all_goals
        simp only [UInt8.reduceToNat]
        omega
    · rw [if_neg (by omega)]
      by_cases hsurrogate : v / 4096 = 0xD
      · refine ⟨0x80, 0x9F, ?_, ?_, ?_⟩
        · rw [if_pos (by omega), hsurrogate]
        all_goals
          simp only [UInt8.reduceToNat]
          omega
      · refine ⟨0x80, 0xBF, ?_, ?_, ?_⟩
        · rw [if_neg (by omega), if_pos (by omega), Nat.add_sub_cancel]
        all_goals
          simp only [UInt8.reduceToNat]
          omega
  obtain ⟨low, high, hlead, hlow', hhigh'⟩ := hlead
  rw [next_of_lead _ (by omega) (by omega) hlead]
  simp only
  rw [follow_ofNat (by omega) hlow' hhigh', follow_any (by omega), follow,
    show (v / 4096 * 64 + v / 64 % 64) * 64 + v % 64 = v by omega]

theorem next_four {v : Nat} (hlow : 0x10000 ≤ v) (hhigh : v < 0x110000) (rest : List UInt8) :
    next (UInt8.ofNat (v / 262144 + 240))
        (UInt8.ofNat (v / 4096 % 64 + 128) :: UInt8.ofNat (v / 64 % 64 + 128) ::
          UInt8.ofNat (v % 64 + 128) :: rest) =
      (some (Char.ofNat v), rest) := by
  have hlead : ∃ low high : UInt8,
      lead? (UInt8.ofNat (v / 262144 + 240)) = some ⟨v / 262144, low, high, 3⟩ ∧
      low.toNat ≤ v / 4096 % 64 + 128 ∧ v / 4096 % 64 + 128 ≤ high.toNat := by
    unfold lead?
    simp only [toNat_ofNat_of_lt (show v / 262144 + 240 < 256 by omega)]
    rw [if_neg (by omega), if_neg (by omega), if_neg (by omega), if_neg (by omega),
      if_neg (by omega)]
    by_cases hshort : v / 262144 = 0
    · refine ⟨0x90, 0xBF, ?_, ?_, ?_⟩
      · rw [if_pos (by omega), hshort]
      all_goals
        simp only [UInt8.reduceToNat]
        omega
    · rw [if_neg (by omega)]
      by_cases hlast : v / 262144 = 4
      · refine ⟨0x80, 0x8F, ?_, ?_, ?_⟩
        · rw [if_neg (by omega), if_pos (by omega), hlast]
        all_goals
          simp only [UInt8.reduceToNat]
          omega
      · refine ⟨0x80, 0xBF, ?_, ?_, ?_⟩
        · rw [if_pos (by omega), Nat.add_sub_cancel]
        all_goals
          simp only [UInt8.reduceToNat]
          omega
  obtain ⟨low, high, hlead, hlow', hhigh'⟩ := hlead
  rw [next_of_lead _ (by omega) (by omega) hlead]
  simp only
  rw [follow_ofNat (by omega) hlow' hhigh', follow_any (by omega), follow_any (by omega), follow,
    show ((v / 262144 * 64 + v / 4096 % 64) * 64 + v / 64 % 64) * 64 + v % 64 = v by omega]

/-- The octets of a character give it back, and what follows them is left unread. -/
theorem next_encodeChar (c : Char) (rest : List UInt8) :
    ∃ octet others, String.utf8EncodeChar c = octet :: others ∧
      next octet (others ++ rest) = (some c, rest) := by
  have hscalar : c.val.toNat < 0xD800 ∨ 0xDFFF < c.val.toNat ∧ c.val.toNat < 0x110000 := c.valid
  have hback : Char.ofNat c.val.toNat = c := Char.ofNat_toNat c
  unfold String.utf8EncodeChar
  dsimp only
  split
  · exact ⟨_, _, rfl, by rw [List.nil_append, next_one (by omega), hback]⟩
  · split
    · refine ⟨_, _, rfl, ?_⟩
      rw [Nat.mod_eq_of_lt (show c.val.toNat / 64 < 32 by omega)]
      exact (next_two (by omega) (by omega) rest).trans (by rw [hback])
    · split
      · refine ⟨_, _, rfl, ?_⟩
        rw [Nat.mod_eq_of_lt (show c.val.toNat / 4096 < 16 by omega)]
        exact (next_three (by omega) (by omega) (by omega) rest).trans (by rw [hback])
      · refine ⟨_, _, rfl, ?_⟩
        rw [Nat.mod_eq_of_lt (show c.val.toNat / 262144 < 8 by omega)]
        exact (next_four (by omega) (by omega) rest).trans (by rw [hback])

theorem length_le_length_encode (text : List Char) :
    text.length ≤ (text.flatMap String.utf8EncodeChar).length := by
  induction text with
  | nil => exact Nat.le_refl 0
  | cons c rest ih =>
    obtain ⟨octet, others, hencode, -⟩ := next_encodeChar c []
    simp only [List.flatMap_cons, hencode, List.length_append, List.length_cons]
    omega

theorem steps_encode (read : List (Option Char)) {fuel : Nat} {text : List Char}
    (hfuel : text.length ≤ fuel) :
    steps read fuel (text.flatMap String.utf8EncodeChar) = read.reverse ++ text.map some := by
  induction text generalizing read fuel with
  | nil => cases fuel <;> simp [steps]
  | cons c rest ih =>
    obtain ⟨octet, others, hencode, hnext⟩ :=
      next_encodeChar c (rest.flatMap String.utf8EncodeChar)
    obtain ⟨fuel, rfl⟩ : ∃ n, fuel = n + 1 :=
      Nat.exists_eq_succ_of_ne_zero (by rw [List.length_cons] at hfuel; omega)
    rw [List.flatMap_cons, hencode, List.cons_append, steps, hnext]
    simp only
    rw [ih (some c :: read) (Nat.le_of_succ_le_succ hfuel)]
    simp

theorem characters_encode (text : String) : characters (encode text) = text.toList.map some := by
  rw [characters, encode, steps_encode [] (length_le_length_encode text.toList)]
  rfl

/-- **Encoded text is read back.** -/
theorem decode?_encode (text : String) : decode? (encode text) = some text := by
  rw [decode?, characters_encode]
  simp [List.filterMap_map]

/-! ### Only what was encoded is read -/

theorem follow_succ_eq_some {code n : Nat} {low high : UInt8} {octets rest : List UInt8} {c : Char}
    (hlow : 0x80 ≤ low.toNat) (h : follow code (n + 1) low high octets = (some c, rest)) :
    ∃ bits others, octets = UInt8.ofNat (bits + 128) :: others ∧ low.toNat ≤ bits + 128 ∧
      bits + 128 ≤ high.toNat ∧ follow (code * 64 + bits) n 0x80 0xBF others = (some c, rest) := by
  cases octets with
  | nil => cases h
  | cons octet others =>
    rw [follow] at h
    split at h
    · next hwithin =>
      rw [UInt8.le_iff_toNat_le, UInt8.le_iff_toNat_le] at hwithin
      have hoctet : octet.toNat - 128 + 128 = octet.toNat := by omega
      refine ⟨octet.toNat - 128, others, ?_, ?_, ?_, h⟩
      · rw [hoctet, UInt8.ofNat_toNat]
      · exact hoctet.symm ▸ hwithin.1
      · exact hoctet.symm ▸ hwithin.2
    · cases h

/-- What a lead promises when one, two or three octets follow it: no shorter form, no surrogate, and
nothing beyond the last character. -/
theorem of_lead? {octet : UInt8} {lead : Lead} (h : lead? octet = some lead) :
    0x80 ≤ lead.low.toNat ∧ lead.high.toNat ≤ 0xBF ∧
      (lead.following = 1 ∧ octet.toNat = lead.bits + 192 ∧ 2 ≤ lead.bits ∧ lead.bits < 32 ∨
      lead.following = 2 ∧ octet.toNat = lead.bits + 224 ∧ lead.bits < 16 ∧
        (lead.bits = 0 → 0xA0 ≤ lead.low.toNat) ∧ (lead.bits = 0xD → lead.high.toNat ≤ 0x9F) ∨
      lead.following = 3 ∧ octet.toNat = lead.bits + 240 ∧ lead.bits ≤ 4 ∧
        (lead.bits = 0 → 0x90 ≤ lead.low.toNat) ∧ (lead.bits = 4 → lead.high.toNat ≤ 0x8F)) := by
  unfold lead? at h
  dsimp only at h
  generalize octet.toNat = n at h ⊢
  split_ifs at h <;> obtain rfl := Option.some.inj h <;> dsimp only <;>
    simp only [UInt8.reduceToNat, true_and, true_implies] <;> omega

theorem toNat_val_ofNat {v : Nat} (hscalar : v < 0xD800 ∨ 0xDFFF < v ∧ v < 0x110000) :
    (Char.ofNat v).val.toNat = v := by
  have hchar : Char.ofNat v = Char.ofNatAux v hscalar := dif_pos hscalar
  rw [hchar]
  rfl

theorem encodeChar_one {v : Nat} (h : v < 0x80) :
    String.utf8EncodeChar (Char.ofNat v) = [UInt8.ofNat v] := by
  unfold String.utf8EncodeChar
  rw [toNat_val_ofNat (by omega)]
  exact if_pos (by omega)

theorem encodeChar_two {a b : Nat} (hlow : 2 ≤ a) (ha : a < 32) (hb : b < 64) :
    String.utf8EncodeChar (Char.ofNat (a * 64 + b)) =
      [UInt8.ofNat (a + 192), UInt8.ofNat (b + 128)] := by
  unfold String.utf8EncodeChar
  rw [toNat_val_ofNat (by omega)]
  dsimp only
  rw [if_neg (by omega), if_pos (by omega), show (a * 64 + b) / 64 % 32 = a by omega,
    show (a * 64 + b) % 64 = b by omega]

theorem encodeChar_three {a b c : Nat} (ha : a < 16) (hb : b < 64) (hc : c < 64)
    (hshort : a = 0 → 32 ≤ b) (hsurrogate : a = 0xD → b < 32) :
    String.utf8EncodeChar (Char.ofNat ((a * 64 + b) * 64 + c)) =
      [UInt8.ofNat (a + 224), UInt8.ofNat (b + 128), UInt8.ofNat (c + 128)] := by
  unfold String.utf8EncodeChar
  rw [toNat_val_ofNat (by omega)]
  dsimp only
  rw [if_neg (by omega), if_neg (by omega), if_pos (by omega),
    show ((a * 64 + b) * 64 + c) / 4096 % 16 = a by omega,
    show ((a * 64 + b) * 64 + c) / 64 % 64 = b by omega,
    show ((a * 64 + b) * 64 + c) % 64 = c by omega]

theorem encodeChar_four {a b c d : Nat} (ha : a ≤ 4) (hb : b < 64) (hc : c < 64) (hd : d < 64)
    (hshort : a = 0 → 16 ≤ b) (hlast : a = 4 → b < 16) :
    String.utf8EncodeChar (Char.ofNat (((a * 64 + b) * 64 + c) * 64 + d)) =
      [UInt8.ofNat (a + 240), UInt8.ofNat (b + 128), UInt8.ofNat (c + 128),
        UInt8.ofNat (d + 128)] := by
  unfold String.utf8EncodeChar
  rw [toNat_val_ofNat (by omega)]
  dsimp only
  rw [if_neg (by omega), if_neg (by omega), if_neg (by omega),
    show (((a * 64 + b) * 64 + c) * 64 + d) / 262144 % 8 = a by omega,
    show (((a * 64 + b) * 64 + c) * 64 + d) / 4096 % 64 = b by omega,
    show (((a * 64 + b) * 64 + c) * 64 + d) / 64 % 64 = c by omega,
    show (((a * 64 + b) * 64 + c) * 64 + d) % 64 = d by omega]

/-- A character is read from nothing but its own octets. -/
theorem of_next_eq_some {octet : UInt8} {octets rest : List UInt8} {c : Char}
    (h : next octet octets = (some c, rest)) :
    octet :: octets = String.utf8EncodeChar c ++ rest := by
  have hcontinues : (0x80 : UInt8).toNat = 128 ∧ (0xBF : UInt8).toNat = 191 := ⟨rfl, rfl⟩
  unfold next at h
  split at h
  · next hascii =>
    cases h
    rw [encodeChar_one (UInt8.lt_iff_toNat_lt.mp hascii), UInt8.ofNat_toNat]
    rfl
  · split at h
    · cases h
    · next lead hlead =>
      obtain ⟨hlow, hhigh, hfollowing⟩ := of_lead? hlead
      -- By the number of octets that follow: each gives six bits, and what the lead promises is
      -- what the encoding asks of the bits to be of this length.
      rw [← UInt8.ofNat_toNat (x := octet)]
      rcases hfollowing with ⟨hn, hbits, hleast, hmost⟩ | ⟨hn, hbits, hmost, hshort, hsurrogate⟩ |
        ⟨hn, hbits, hmost, hshort, hlast⟩
      · rw [hn] at h
        obtain ⟨second, others, rfl, hfrom, hto, h⟩ := follow_succ_eq_some hlow h
        cases h
        rw [encodeChar_two hleast hmost (by omega), hbits]
        rfl
      · rw [hn] at h
        obtain ⟨second, _, rfl, hfrom, hto, h⟩ := follow_succ_eq_some hlow h
        obtain ⟨third, others, rfl, hfrom', hto', h⟩ := follow_succ_eq_some (by omega) h
        cases h
        rw [encodeChar_three hmost (by omega) (by omega) (by omega) (by omega), hbits]
        rfl
      · rw [hn] at h
        obtain ⟨second, _, rfl, hfrom, hto, h⟩ := follow_succ_eq_some hlow h
        obtain ⟨third, _, rfl, hfrom', hto', h⟩ := follow_succ_eq_some (by omega) h
        obtain ⟨fourth, others, rfl, hfrom'', hto'', h⟩ := follow_succ_eq_some (by omega) h
        cases h
        rw [encodeChar_four hmost (by omega) (by omega) (by omega) (by omega) (by omega), hbits]
        rfl

theorem steps_eq (read : List (Option Char)) (fuel : Nat) (octets : List UInt8) :
    steps read fuel octets = read.reverse ++ steps [] fuel octets := by
  induction fuel generalizing read octets with
  | zero => simp [steps]
  | succ fuel ih =>
    cases octets with
    | nil => simp [steps]
    | cons octet rest =>
      simp only [steps]
      rw [ih, ih [_]]
      simp

theorem of_steps {fuel : Nat} {octets : List UInt8} (hfuel : octets.length ≤ fuel)
    {text : List Char} (h : steps [] fuel octets = text.map some) :
    octets = text.flatMap String.utf8EncodeChar := by
  induction fuel generalizing octets text with
  | zero =>
    rw [List.eq_nil_of_length_eq_zero (Nat.le_zero.mp hfuel)] at h ⊢
    rw [List.map_eq_nil_iff.mp h.symm]
    rfl
  | succ fuel ih =>
    cases octets with
    | nil =>
      rw [List.map_eq_nil_iff.mp (h.symm : text.map some = [])]
      rfl
    | cons octet octets =>
      simp only [steps] at h
      rw [steps_eq, List.reverse_singleton, List.singleton_append] at h
      obtain ⟨c, text, rfl, hc, hrest⟩ := List.map_eq_cons_iff.mp h.symm
      have hshorter : (next octet octets).2.length ≤ fuel :=
        Nat.le_trans (length_next_le octet octets) (Nat.le_of_succ_le_succ hfuel)
      rw [of_next_eq_some (Prod.ext hc.symm rfl), List.flatMap_cons, ← ih hshorter hrest.symm]

theorem eq_map_some_of_all {read : List (Option Char)} (h : read.all Option.isSome = true) :
    read = (read.filterMap id).map some := by
  induction read with
  | nil => rfl
  | cons character rest ih =>
    rw [List.all_cons, Bool.and_eq_true] at h
    obtain ⟨c, rfl⟩ := Option.isSome_iff_exists.mp h.1
    exact congrArg (some c :: ·) (ih h.2)

/-- **Octets read as a text exactly if they are its encoding.** -/
theorem decode?_eq_some_iff {octets : List UInt8} {text : String} :
    decode? octets = some text ↔ octets = encode text := by
  constructor
  · intro h
    unfold decode? at h
    dsimp only at h
    split at h
    · next hall =>
      have htext : (characters octets).filterMap id = text.toList := by
        rw [← Option.some.inj h, String.toList_ofList]
      have hsome : characters octets = text.toList.map some :=
        (eq_map_some_of_all hall).trans (congrArg (List.map some) htext)
      exact of_steps (Nat.le_refl _) hsome
    · cases h
  · rintro rfl
    exact decode?_encode text

end IdentityConsole.Text.Utf8
