import Confluence.Library.Utf8

/-!
# Hexadecimal texts

The decoder of the encryption key and the encoder of signatures. Slicing a text inside a character
panics, which ends the decoding without a result.
-/

namespace Confluence

/-- `char::to_digit`. -/
def toDigit (c : Char) (radix : ℕ) : Option ℕ :=
  let value :=
    if '0' ≤ c ∧ c ≤ '9' then some (c.toNat - '0'.toNat)
    else if 'a' ≤ c ∧ c ≤ 'z' then some (c.toNat - 'a'.toNat + 10)
    else if 'A' ≤ c ∧ c ≤ 'Z' then some (c.toNat - 'A'.toNat + 10)
    else none
  value.filter (· < radix)

/-- The digits from the first on; no more than a byte. -/
def digitsFrom (radix acc : ℕ) : List Char → Except Unit ℕ
  | [] => .ok acc
  | c :: cs =>
    match toDigit c radix with
    | none => .error ()
    | some d => if acc * radix + d < 256 then digitsFrom radix (acc * radix + d) cs else .error ()

/-- `u8::from_str_radix`: one plus sign may stand before the digits. -/
def fromStrRadix (src : List Char) (radix : ℕ) : Except Unit UInt8 :=
  match src with
  | [] | ['+'] | ['-'] => .error ()
  | '+' :: digits => (digitsFrom radix 0 digits).map UInt8.ofNat
  | digits => (digitsFrom radix 0 digits).map UInt8.ofNat

/-- `hex::decode`, without a result when it panics. -/
def hexDecode (s : String) : ExceptT Unit Option (List UInt8) :=
  if s.utf8ByteSize % 2 ≠ 0 then throw ()
  else ((List.range (s.utf8ByteSize / 2)).map (2 * ·)).mapM fun i =>
    ExceptT.mk ((Utf8.slice i (i + 2) s.toList).map (fromStrRadix · 16))

/-- `format!("{b:02x}")`. -/
def formatByte (b : UInt8) : List Char :=
  let digits := Nat.toDigits 16 b.toNat
  List.replicate (2 - digits.length) '0' ++ digits

def hexEncode (bytes : List UInt8) : String := String.ofList (bytes.flatMap formatByte)

end Confluence
