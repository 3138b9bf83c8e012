import ShardScan.Dict
import ShardScan.Json
import ShardScan.Text.Affix
import ShardScan.Text.Numeral

/-!
# Reading JSON

The document that a text spells.  Whole numbers of 64 bits are integers.  Any
other number is read into a significand of 64 bits, which is then scaled by one
multiplication or division with a power of ten; digits beyond the significand
only count for the power.  Of two members of an object with one key the later
counts.

## Main definitions

* `Json.number?`, `Json.characters?` — a number, and the inside of a string.
* `Json.parse?` — a whole document.
-/

namespace ShardScan.Json

/-! ### Numbers -/

/-- Digits taken from the front of a text. -/
structure Gathered where
  significand : Nat
  /-- The digits that are part of the significand. -/
  taken : Nat
  /-- The digits behind them. -/
  skipped : Nat
  rest : List Char

/-- Takes digits in as long as the significand stays below `2 ^ 64`. -/
def gatherFitting (significand : Nat) : List Char → Nat × Nat × List Char
  | [] => (significand, 0, [])
  | c :: s =>
    let next := significand * 10 + (c.toNat - '0'.toNat)
    if c.isDigit && next < Nat.pow 2 64 then
      let (significand, taken, rest) := gatherFitting next s
      (significand, taken + 1, rest)
    else (significand, 0, c :: s)

/-- Takes all digits at the front of a text. -/
def gather (significand : Nat) (s : List Char) : Gathered :=
  let (significand, taken, rest) := gatherFitting significand s
  ⟨significand, taken, (rest.takeWhile Char.isDigit).length, rest.dropWhile Char.isDigit⟩

/-- The digits before the point; a zero stands alone. -/
def wholePart? : List Char → Option Gathered
  | [] => none
  | c :: s =>
    if c = '0' then if s.head?.any Char.isDigit then none else some ⟨0, 1, 0, s⟩
    else if c.isDigit then some (gather 0 (c :: s))
    else none

/-- The point and the digits behind it, if there is a point, appended to the significand. -/
def fraction? (whole : Gathered) : Option Gathered :=
  match whole.rest with
  | '.' :: s =>
    let g := gather whole.significand s
    if g.taken + g.skipped = 0 then none else some g
  | rest => some ⟨whole.significand, 0, 0, rest⟩

/-- The exponent at the front of a text, if there is one. -/
def exponent? (s : List Char) : Option (Int × List Char) :=
  match s with
  | [] => some (0, [])
  | c :: rest =>
    if c = 'e' || c = 'E' then
      let (negative, digits) := match rest with
        | '-' :: digits => (true, digits)
        | '+' :: digits => (false, digits)
        | digits => (false, digits)
      (Text.natural? (digits.takeWhile Char.isDigit)).map fun n =>
        (if negative then -(n : Int) else n, digits.dropWhile Char.isDigit)
    else some (0, c :: rest)

/-- The greatest power of ten that a number is scaled with at once. -/
def greatestPower : Int := 308

/-- A number times a power of ten; none where the result is too great. -/
def scale? (x : Binary64) (exponent : Int) : Option Binary64 :=
  let power := fun n : Int => Floating.ofInt .binary64 (Nat.pow 10 n.toNat)
  if exponent < -greatestPower then
    if x.isZero then some x
    else scale? (x.div (power greatestPower)) (exponent + greatestPower)
  else if greatestPower < exponent then if x.isZero then some x else none
  else if exponent < 0 then some (x.div (power (-exponent)))
  else
    let y := x.mul (power exponent)
    if y.isInfinite then none else some y
termination_by exponent.natAbs
decreasing_by
  unfold greatestPower at *
  omega

/-- The number at the front of a text, behind its sign. -/
def unsigned? (negative : Bool) (s : List Char) : Option (Json × List Char) := do
  let whole ← wholePart? s
  let all ← fraction? whole
  let (exponent, rest) ← exponent? all.rest
  -- Neither a point nor an exponent was read if what follows the digits is the rest.
  let isWhole := whole.skipped = 0 && whole.rest.length = rest.length
  let n : Int := if negative then -(whole.significand : Int) else whole.significand
  -- An integer has no negative zero.
  if isWhole && WordFormat.i64.Holds n && !(negative && n = 0) then
    return (.integer n, rest)
  else
    let x ← scale? (Floating.ofInt .binary64 all.significand)
      (whole.skipped - all.taken + exponent)
    return (.number (Floating.ofMagnitude .binary64 negative x.magnitude), rest)

/-- The number at the front of a text. -/
def number? : List Char → Option (Json × List Char)
  | '-' :: s => unsigned? true s
  | s => unsigned? false s

/-! ### Strings -/

/-- The character that a backslash and one character stand for. -/
def escaped? : Char → Option Char
  | '"' => some '"'
  | '\\' => some '\\'
  | '/' => some '/'
  | 'b' => some '\x08'
  | 'f' => some '\x0c'
  | 'n' => some '\n'
  | 'r' => some '\r'
  | 't' => some '\t'
  | _ => none

def isHighSurrogate (n : Nat) : Bool := 0xd800 ≤ n && n < 0xdc00
def isLowSurrogate (n : Nat) : Bool := 0xdc00 ≤ n && n < 0xe000

/-- The characters up to the closing quote, and what follows it. -/
def characters? : List Char → Option (List Char × List Char)
  | [] => none
  | '"' :: rest => some ([], rest)
  | '\\' :: 'u' :: a :: b :: c :: d :: rest => do
    let n ← Text.ofHex? 0 [a, b, c, d]
    if isHighSurrogate n then
      match rest with
      | '\\' :: 'u' :: a :: b :: c :: d :: rest =>
        let m ← Text.ofHex? 0 [a, b, c, d]
        if isLowSurrogate m then
          let (text, rest) ← characters? rest
          return (Char.ofNat (0x10000 + (n - 0xd800) * 0x400 + (m - 0xdc00)) :: text, rest)
        else none
      | _ => none
    else if isLowSurrogate n then none
    else
      let (text, rest) ← characters? rest
      return (Char.ofNat n :: text, rest)
  | '\\' :: c :: rest => do
    let c ← escaped? c
    let (text, rest) ← characters? rest
    return (c :: text, rest)
  | c :: rest =>
    if c.toNat < 0x20 || c = '\\' then none
    else (characters? rest).map fun (text, rest) => (c :: text, rest)

/-! ### Documents -/

/-- The character may stand between the parts of a document. -/
def isSpace (c : Char) : Bool := c = ' ' || c = '\n' || c = '\t' || c = '\r'

/-- What follows the space at the front of a text. -/
def skipSpace (s : List Char) : List Char := s.dropWhile isSpace

/-- How deep arrays and objects may lie in each other, and one more. -/
def depthLimit : Nat := 128

mutual

/-- The value at the front of a text, where arrays and objects lie less than `depth` deep.  `fuel`
bounds the number of values and separators. -/
def value? (depth : Nat) : Nat → List Char → Option (Json × List Char)
  | 0, _ => none
  | fuel + 1, s =>
    match skipSpace s with
    | 'n' :: s => (Text.after? "ull".toList s).map fun rest => (.null, rest)
    | 't' :: s => (Text.after? "rue".toList s).map fun rest => (.bool true, rest)
    | 'f' :: s => (Text.after? "alse".toList s).map fun rest => (.bool false, rest)
    | '"' :: s => (characters? s).map fun (text, rest) => (.string (String.ofList text), rest)
    | '[' :: s =>
      if depth ≤ 1 then none
      else
        match skipSpace s with
        | ']' :: rest => some (.array [], rest)
        | s => (items? (depth - 1) fuel s).map fun (items, rest) => (.array items, rest)
    | '\x7b' :: s =>
      if depth ≤ 1 then none
      else
        match skipSpace s with
        | '\x7d' :: rest => some (.object [], rest)
        | s => (members? (depth - 1) fuel s).map fun (members, rest) =>
            (.object (Dict.ofList members).entries, rest)
    | s => number? s

/-- The items of an array up to its closing bracket. -/
def items? (depth : Nat) : Nat → List Char → Option (List Json × List Char)
  | 0, _ => none
  | fuel + 1, s => do
    let (item, rest) ← value? depth fuel s
    match skipSpace rest with
    | ',' :: rest =>
      let (items, rest) ← items? depth fuel rest
      return (item :: items, rest)
    | ']' :: rest => return ([item], rest)
    | _ => none

/-- The members of an object up to its closing brace. -/
def members? (depth : Nat) : Nat → List Char → Option (List (String × Json) × List Char)
  | 0, _ => none
  | fuel + 1, s =>
    match skipSpace s with
    | '"' :: s => do
      let (key, rest) ← characters? s
      match skipSpace rest with
      | ':' :: rest =>
        let (value, rest) ← value? depth fuel rest
        let member := (String.ofList key, value)
        match skipSpace rest with
        | ',' :: rest =>
          let (members, rest) ← members? depth fuel rest
          return (member :: members, rest)
        | '\x7d' :: rest => return ([member], rest)
        | _ => none
      | _ => none
    | _ => none

end

/-- The document that a text spells. -/
def parse? (s : String) : Option Json := do
  let (value, rest) ← value? depthLimit (s.length + 1) s.toList
  if (skipSpace rest).isEmpty then return value else none

end ShardScan.Json
