import IdentityConsole.Proofs.Text.Utf8
import IdentityConsole.Text.Percent

/-!
# Percent-encoding is read back

An octet is written as itself or as a triple that begins with a percent sign. Either can be told
from what follows it, so that different texts are encoded differently.
-/

namespace IdentityConsole.Text.Percent

/-- What holds of all numbers below 256 holds of all octets. -/
theorem forall_octet {p : UInt8 → Prop} (h : ∀ n < 256, p (UInt8.ofNat n)) (octet : UInt8) :
    p octet := by
  have hoctet := h octet.toNat octet.toNat_lt
  rwa [UInt8.ofNat_toNat] at hoctet

theorem encodeOctet_of_unreserved {octet : UInt8} (h : isUnreserved octet = true) :
    encodeOctet octet = [Char.ofNat octet.toNat] :=
  if_pos h

theorem encodeOctet_of_reserved {octet : UInt8} (h : isUnreserved octet = false) :
    encodeOctet octet =
      ['%', upperHexDigit (octet.toNat / 16), upperHexDigit (octet.toNat % 16)] :=
  if_neg (by rw [h]; exact Bool.false_ne_true)

/-- An unreserved octet is that of its character. -/
theorem unreserved_char : ∀ octet : UInt8, isUnreserved octet = true →
    Char.ofNat octet.toNat ≠ '%' ∧ String.utf8EncodeChar (Char.ofNat octet.toNat) = [octet] :=
  forall_octet (by decide +kernel)

theorem octets_cons {c : Char} (h : c ≠ '%') (rest : List Char) :
    octets (c :: rest) = String.utf8EncodeChar c ++ octets rest := by
  rw [octets]
  rintro a b rest' rfl
  exact absurd rfl h

theorem octets_encodeOctet (octet : UInt8) (rest : List Char) :
    octets (encodeOctet octet ++ rest) = octet :: octets rest := by
  cases h : isUnreserved octet with
  | true =>
    obtain ⟨hne, hchar⟩ := unreserved_char octet h
    rw [encodeOctet_of_unreserved h, List.singleton_append, octets_cons hne, hchar]
    rfl
  | false =>
    have hlt := octet.toNat_lt
    have hvalue : 16 * (octet.toNat / 16) + octet.toNat % 16 = octet.toNat := Nat.div_add_mod _ 16
    rw [encodeOctet_of_reserved h]
    simp only [List.cons_append, List.nil_append, octets,
      hexValue?_upperHexDigit (octet.toNat / 16) (by omega),
      hexValue?_upperHexDigit (octet.toNat % 16) (by omega), hvalue, UInt8.ofNat_toNat]

theorem octets_flatMap (encoded : List UInt8) : octets (encoded.flatMap encodeOctet) = encoded := by
  induction encoded with
  | nil => rfl
  | cons octet rest ih => rw [List.flatMap_cons, octets_encodeOctet, ih]

theorem octets_encode (text : String) : octets (encode text).toList = Utf8.encode text := by
  rw [encode, String.toList_ofList, octets_flatMap]

/-- **An encoded text is read back.** -/
theorem decode_encode (text : String) : decode (encode text) = text := by
  rw [decode, octets_encode, Utf8.decode?_encode]
  rfl

theorem encode_injective {text other : String} (h : encode text = encode other) : text = other := by
  rw [← decode_encode text, h, decode_encode]

theorem encode_eq_empty_iff {text : String} : encode text = "" ↔ text = "" :=
  ⟨fun h => @encode_injective text "" h, fun h => by rw [h]; rfl⟩

end IdentityConsole.Text.Percent
