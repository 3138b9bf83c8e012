import ShardScan.Floating.Basic
import ShardScan.Text.Numeral

/-!
# Bytes and bits in hexadecimal digits

A byte string written with two digits for every byte, a floating-point number
as its bit pattern, and both read back.

## Main definitions

* `hexOfBytes` — the digits of some bytes.
* `bytesOfHex?` — the bytes that digits stand for.
* `Floating.hex`, `Floating.ofHex?` — a number by its bit pattern; all NaNs are written alike.
-/

namespace ShardScan.Text

/-- Two digits for every byte. -/
def hexOfBytes (bytes : List UInt8) : List Char := bytes.flatMap fun b => paddedHex 2 b.toNat

/-- The bytes that digits stand for, two digits for each. -/
def bytesOfHex? : List Char → Option (List UInt8)
  | [] => some []
  | [_] => none
  | a :: b :: rest => do
    let n ← ofHex? 0 [a, b]
    return UInt8.ofNat n :: (← bytesOfHex? rest)

end ShardScan.Text

namespace ShardScan.Floating

variable {f : FloatFormat}

/-- The bit pattern of a number; no NaN is told from another. -/
def hex (x : Floating f) : String :=
  if x.isNaN then "nan"
  else "0x" ++ String.ofList (Text.paddedHex (2 * f.word.bytes) x.bits)

/-- The number of a bit pattern. -/
def ofHex? (f : FloatFormat) (s : String) : Option (Floating f) :=
  match s.toList with
  | '0' :: 'x' :: digits => (Text.ofHex? 0 digits).map (ofBits f)
  | _ => if s = "nan" then some (nan f) else none

end ShardScan.Floating
