import ShardScan.Word

/-!
# Numerals

Integers written in decimal and hexadecimal digits, and read back.

## Main definitions

* `natural?`, `integer?` — the number a list of digits, with a sign in front or not, stands for.
* `Word.ofText?` — the word a numeral stands for, if its format holds it.
* `decimal`, `paddedDecimal`, `paddedHex` — the written forms.
* `ofHex?` — the number a list of hexadecimal digits stands for.

## Main statements

* `natural?_toDigits`, `integer?_decimal` — a written number reads back.
-/

namespace ShardScan.Text

/-- The number that one or more decimal digits stand for. -/
def natural? (s : List Char) : Option Nat :=
  if s ≠ [] ∧ s.all Char.isDigit then some (Nat.ofDigitChars 10 s 0) else none

/-- The number a numeral stands for: digits, with at most one sign before them. -/
def integer? : List Char → Option Int
  | '+' :: digits => (natural? digits).map fun n : Nat => (n : Int)
  | '-' :: digits => (natural? digits).map fun n : Nat => -(n : Int)
  | digits => (natural? digits).map fun n : Nat => (n : Int)

/-- A number in decimal digits, a minus sign before a negative one. -/
def decimal (n : Int) : List Char :=
  if n < 0 then '-' :: Nat.toDigits 10 n.natAbs else Nat.toDigits 10 n.natAbs

/-- The text with zeros before it up to `width` characters. -/
def padZeros (width : Nat) (s : List Char) : List Char :=
  List.replicate (width - s.length) '0' ++ s

/-- A natural number in at least `width` decimal digits. -/
def paddedDecimal (width n : Nat) : List Char := padZeros width (Nat.toDigits 10 n)

/-- A natural number in at least `width` lower-case hexadecimal digits. -/
def paddedHex (width n : Nat) : List Char := padZeros width (Nat.toDigits 16 n)

/-- The value of a hexadecimal digit of either case. -/
def hexValue? (c : Char) : Option Nat :=
  if '0' ≤ c ∧ c ≤ '9' then some (c.toNat - '0'.toNat)
  else if 'a' ≤ c ∧ c ≤ 'f' then some (c.toNat - 'a'.toNat + 10)
  else if 'A' ≤ c ∧ c ≤ 'F' then some (c.toNat - 'A'.toNat + 10)
  else none

/-- The number that hexadecimal digits stand for, continuing from `before`. -/
def ofHex? (before : Nat) : List Char → Option Nat
  | [] => some before
  | c :: rest => (hexValue? c).bind fun d => ofHex? (before * 16 + d) rest

/-! ### Reading what was written -/

theorem all_isDigit_toDigits (n : Nat) : (Nat.toDigits 10 n).all Char.isDigit = true := by
  rw [List.all_eq_true]
  exact fun c hc => Nat.isDigit_of_mem_toDigits (by decide) (by decide) hc

/-- A natural number reads back from its digits. -/
@[simp]
theorem natural?_toDigits (n : Nat) : natural? (Nat.toDigits 10 n) = some n := by
  rw [natural?, if_pos ⟨Nat.toDigits_ne_nil, all_isDigit_toDigits n⟩,
    Nat.ofDigitChars_toDigits (by decide) (by decide)]

theorem integer?_toDigits (n : Nat) : integer? (Nat.toDigits 10 n) = some (n : Int) := by
  have digits := all_isDigit_toDigits n
  unfold integer?
  split
  · next rest h => rw [h] at digits; simp at digits
  · next rest h => rw [h] at digits; simp at digits
  · simp

/-- An integer reads back from its decimal form. -/
@[simp]
theorem integer?_decimal (n : Int) : integer? (decimal n) = some n := by
  unfold decimal
  split
  · next negative =>
    have magnitude : -(n.natAbs : Int) = n := by omega
    simp only [integer?, natural?_toDigits, Option.map_some, magnitude]
  · rw [integer?_toDigits]
    congr 1
    omega

end ShardScan.Text

namespace ShardScan

/-- The word a numeral stands for.  A minus sign is no part of an unsigned numeral. -/
def Word.ofText? (f : WordFormat) (s : List Char) : Option (Word f) :=
  if !f.signed && s.head? == some '-' then none else (Text.integer? s).bind (Word.ofInt? f)

end ShardScan
