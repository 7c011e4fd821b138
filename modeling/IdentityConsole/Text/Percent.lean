import IdentityConsole.Text.Hex
import IdentityConsole.Text.Utf8

/-!
# Percent-encoding of one path segment

Everything but unreserved characters is written as the hexadecimal value of its octets. Reading
takes a `%` that no two digits follow as itself, and a segment whose octets are not UTF-8 as it
stands.
-/

namespace IdentityConsole.Text.Percent

def isUnreserved (octet : UInt8) : Bool :=
  let n := octet.toNat
  (0x30 ≤ n && n ≤ 0x39) || (0x41 ≤ n && n ≤ 0x5A) || (0x61 ≤ n && n ≤ 0x7A) ||
    n == 0x2D || n == 0x2E || n == 0x5F || n == 0x7E

def encodeOctet (octet : UInt8) : List Char :=
  if isUnreserved octet then [Char.ofNat octet.toNat]
  else ['%', upperHexDigit (octet.toNat / 16), upperHexDigit (octet.toNat % 16)]

def encode (text : String) : String :=
  String.ofList ((Utf8.encode text).flatMap encodeOctet)

def octets : List Char → List UInt8
  | '%' :: a :: b :: rest =>
    match hexValue? a, hexValue? b with
    | some high, some low => UInt8.ofNat (16 * high + low) :: octets rest
    | _, _ => 0x25 :: octets (a :: b :: rest)
  | c :: rest => String.utf8EncodeChar c ++ octets rest
  | [] => []

def decode (segment : String) : String :=
  (Utf8.decode? (octets segment.toList)).getD segment

end IdentityConsole.Text.Percent
