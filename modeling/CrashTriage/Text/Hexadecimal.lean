/-!
# Hexadecimal text

Addresses, offsets and checksums are printed in base sixteen with lower case digits. An address
in running text carries the prefix `0x` and no leading zeros (`hex`); a column of addresses or a
checksum is padded with zeros to a fixed number of digits (`paddedHex`), and a number with more
digits than that is printed in full.
-/

namespace CrashTriage

namespace Text

/-- The digits of `n` in base sixteen, most significant first; zero has the one digit `0`. -/
def hexDigits (n : Nat) : String :=
  String.ofList (Nat.toDigits 16 n)

/-- `n` in base sixteen behind the prefix `0x`. -/
def hex (n : Nat) : String :=
  "0x" ++ hexDigits n

/-- The digits of `n` in base sixteen, with zeros in front up to `width` digits. -/
def paddedHex (width n : Nat) : String :=
  String.ofList ((Nat.toDigits 16 n).leftpad width '0')

end Text

end CrashTriage
