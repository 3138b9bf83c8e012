import ShardScan.Text.Blank
import ShardScan.Text.Numeral

/-!
# Calendar dates and times of day

Dates of the proleptic Gregorian calendar counted in days from 1 January 1970,
instants counted in microseconds from its midnight, and the texts both are
read from.

A date is `year-month-day`, the year with an optional sign.  An instant is a
date and a time of day with an offset from universal time, as in RFC 3339, or
without an offset and then in universal time, or a date alone.  Second 60 is a
leap second: it counts as the first second of the next minute.

## Main definitions

* `dayNumber?` — the day of a year, month and day that name a date.
* `parseDate?`, `parseInstant?` — the day or the instant that a text names.
-/

namespace ShardScan.Calendar

/-! ### Counting days -/

/-- The year has a 29 February. -/
def isLeap (year : Int) : Bool :=
  year % 4 == 0 && (year % 100 != 0 || year % 400 == 0)

/-- The days in the months of a year. -/
def monthLengths (year : Int) : List Nat :=
  [31, if isLeap year then 29 else 28, 31, 30, 31, 30, 31, 31, 30, 31, 30, 31]

/-- The days from 1 January to the first day of a month. -/
def monthStart (year : Int) (month : Nat) : Nat :=
  ((monthLengths year).take (month - 1)).foldl Nat.add 0

/-- The days from 1 January 1970 to 1 January of a year. -/
def yearStart (year : Int) : Int :=
  let y := year - 1
  365 * y + y / 4 - y / 100 + y / 400 - 719162

/-- The years that dates are counted in. -/
def supportedYear (year : Int) : Bool := -262143 ≤ year && year ≤ 262142

/-- The number of the day that a year, month and day name, if they name one. -/
def dayNumber? (year : Int) (month day : Nat) : Option Int :=
  match (monthLengths year)[month - 1]? with
  | none => none
  | some length =>
    if supportedYear year && 1 ≤ month && 1 ≤ day && day ≤ length then
      some (yearStart year + monthStart year month + (day - 1))
    else none

example : dayNumber? 1970 1 1 = some 0 := by decide
example : dayNumber? 2024 2 29 = some 19782 := by decide

/-! ### Reading parts of a text

Each reader returns what it read with the characters after it.
-/

/-- Between `least` and `most` decimal digits. -/
def digits? (least most : Nat) (s : List Char) : Option (List Char × List Char) :=
  let read := (s.take most).takeWhile Char.isDigit
  if least ≤ read.length then some (read, s.drop read.length) else none

/-- The number of between `least` and `most` decimal digits. -/
def number? (least most : Nat) (s : List Char) : Option (Nat × List Char) :=
  (digits? least most s).map fun (read, rest) => (Nat.ofDigitChars 10 read 0, rest)

/-- A given character. -/
def char? (c : Char) : List Char → Option (Unit × List Char)
  | d :: rest => if d = c then some ((), rest) else none
  | [] => none

/-- At most `most` digits after optional white space. -/
def loose? (most : Nat) (s : List Char) : Option (Nat × List Char) :=
  number? 1 most (Text.trimStart s)

/-- A year: four digits at most, or a sign and any number of digits. -/
def year? (s : List Char) : Option (Int × List Char) :=
  match Text.trimStart s with
  | '-' :: rest => (number? 1 rest.length rest).map fun (n, rest) => (-(n : Int), rest)
  | '+' :: rest => (number? 1 rest.length rest).map fun (n, rest) => ((n : Int), rest)
  | rest => (number? 1 4 rest).map fun (n, rest) => ((n : Int), rest)

/-- The microseconds of a fraction of a second, from its first six digits; none without a point. -/
def fraction? : List Char → Option (Nat × List Char)
  | '.' :: rest => do
    let (read, rest) ← digits? 1 rest.length rest
    let micros := read.take 6
    return (Nat.ofDigitChars 10 micros 0 * Nat.pow 10 (6 - micros.length), rest)
  | rest => some (0, rest)

/-! ### Dates and times -/

/-- Microseconds in a second. -/
def microsPerSecond : Int := 1000000

/-- Microseconds in a day. -/
def microsPerDay : Int := 86400 * microsPerSecond

/-- The microseconds from midnight to a time of day. -/
def timeOfDay? (hour minute second micros : Nat) : Option Int :=
  if hour < 24 && minute < 60 && second ≤ 60 then
    some (((hour * 60 + minute) * 60 + second : Nat) * microsPerSecond + micros)
  else none

/-- A date at the front of a text, each number after optional white space. -/
def looseDate? (s : List Char) : Option (Int × List Char) := do
  let (year, s) ← year? s
  let ((), s) ← char? '-' s
  let (month, s) ← loose? 2 s
  let ((), s) ← char? '-' s
  let (day, s) ← loose? 2 s
  return (← dayNumber? year month day, s)

/-- A time of day at the front of a text, each number after optional white space. -/
def looseTime? (s : List Char) : Option (Int × List Char) := do
  let (hour, s) ← loose? 2 s
  let ((), s) ← char? ':' s
  let (minute, s) ← loose? 2 s
  let ((), s) ← char? ':' s
  let (second, s) ← loose? 2 s
  let (micros, s) ← fraction? s
  return (← timeOfDay? hour minute second micros, s)

/-- The whole of a text, or nothing. -/
def whole? {α : Type} : Option (α × List Char) → Option α
  | some (a, []) => some a
  | _ => none

/-- A date and a time in universal time; `between` reads what stands between the two. -/
def localInstant? (between : List Char → Option (List Char)) (s : List Char) : Option Int :=
  whole? do
    let (day, s) ← looseDate? s
    let s ← between s
    let (time, s) ← looseTime? s
    return (day * microsPerDay + time, s)

/-- The minutes that a zone is ahead of universal time. -/
def offset? : List Char → Option (Int × List Char)
  | 'Z' :: rest => some (0, rest)
  | 'z' :: rest => some (0, rest)
  | '+' :: rest => minutes? rest
  | '-' :: rest => (minutes? rest).map fun (n, rest) => (-n, rest)
  | '−' :: rest => (minutes? rest).map fun (n, rest) => (-n, rest)
  | _ => none
where
  /-- Hours and minutes, less than a day of them. -/
  minutes? (s : List Char) : Option (Int × List Char) := do
    let (hours, s) ← number? 2 2 s
    let ((), s) ← char? ':' s
    let (minutes, s) ← number? 2 2 s
    if minutes < 60 && hours < 24 then return ((hours * 60 + minutes : Nat), s) else none

/-- A date, a time and an offset with every number at its full width. -/
def offsetInstant? (s : List Char) : Option Int :=
  whole? do
    let (year, s) ← number? 4 4 s
    let ((), s) ← char? '-' s
    let (month, s) ← number? 2 2 s
    let ((), s) ← char? '-' s
    let (day, s) ← number? 2 2 s
    let ((), s) ← char? 'T' s <|> char? 't' s <|> char? ' ' s
    let (hour, s) ← number? 2 2 s
    let ((), s) ← char? ':' s
    let (minute, s) ← number? 2 2 s
    let ((), s) ← char? ':' s
    let (second, s) ← number? 2 2 s
    let (micros, s) ← fraction? s
    let (ahead, s) ← offset? s
    let date ← dayNumber? year month day
    let time ← timeOfDay? hour minute second micros
    return (date * microsPerDay + time - ahead * 60 * microsPerSecond, s)

/-- The day that a text names, white space around it aside. -/
def parseDate? (s : String) : Option Int := whole? (looseDate? (Text.trim s.toList))

/-- The instant that a text names, white space around it aside, in microseconds. -/
def parseInstant? (s : String) : Option Int :=
  let t := Text.trim s.toList
  offsetInstant? t
    <|> localInstant? (fun s => some (Text.trimStart s)) t
    <|> localInstant? (fun s => (char? 'T' s).map (·.2)) t
    <|> (whole? (looseDate? t)).map (· * microsPerDay)

end ShardScan.Calendar
