import ShardScan.Value.Display
import ShardScan.Value.Order

/-!
# Key ranges

Ranges over composite keys.  A bound is a tuple that may be shorter than the
keys, and then bounds by prefix: an inclusive lower bound starts at the first
key with that prefix and an exclusive one behind the last, and an upper bound
mirrors this.

## Main definitions

* `KeyBound.admitsAbove`, `KeyBound.admitsBelow` — the keys that a bound admits on either side.
* `KeyRange.contains`, `KeyRange.inter`, `KeyRange.isEmpty` — membership, the common part of two
  ranges, and the test for having no member.
-/

namespace ShardScan

/-- One side of a key range. -/
structure KeyBound where
  values : Tuple
  /-- Keys that begin with the values are admitted. -/
  inclusive : Bool
  /-- Every key is admitted. -/
  unrestricted : Bool
deriving DecidableEq

namespace KeyBound

/-- The bound that admits every key. -/
def all : KeyBound := ⟨[], false, true⟩

/-- The bound at a tuple; no values bound nothing. -/
def ofTuple (values : Tuple) (inclusive : Bool) : KeyBound :=
  if values.isEmpty then all else ⟨values, inclusive, false⟩

/-- The order of two bounds with one common prefix, as starts of a range: the bound that admits
more keys is the lesser. -/
def tieOrder (a b : KeyBound) : Ordering :=
  match compare a.values.length b.values.length with
  | .eq =>
    match a.inclusive, b.inclusive with
    | true, false => .lt
    | false, true => .gt
    | _, _ => .eq
  | .lt => if a.inclusive then .lt else .gt
  | .gt => if b.inclusive then .gt else .lt

/-- The order of two bounds as starts of a range, the unrestricted bound least. -/
def cmpAsLower (a b : KeyBound) : Ordering :=
  match a.unrestricted, b.unrestricted with
  | true, true => .eq
  | true, false => .lt
  | false, true => .gt
  | false, false => (compareKeys a.values b.values).then (a.tieOrder b)

/-- The order of two bounds as ends of a range, the unrestricted bound greatest. -/
def cmpAsUpper (a b : KeyBound) : Ordering :=
  match a.unrestricted, b.unrestricted with
  | true, true => .eq
  | true, false => .gt
  | false, true => .lt
  | false, false => (compareKeys a.values b.values).then (a.tieOrder b).swap

/-- The bound, as the start of a range, admits a full key. -/
def admitsAbove (b : KeyBound) (key : Tuple) : Bool :=
  b.unrestricted ||
    match compareKeys key b.values with
    | .gt => true
    | .lt => false
    | .eq => b.inclusive

/-- The bound, as the end of a range, admits a full key. -/
def admitsBelow (b : KeyBound) (key : Tuple) : Bool :=
  b.unrestricted ||
    match compareKeys key b.values with
    | .lt => true
    | .gt => false
    | .eq => b.inclusive

/-- The bounds are equal, floating-point values as numbers. -/
def agrees (a b : KeyBound) : Bool :=
  a.values.agrees b.values && a.inclusive == b.inclusive && a.unrestricted == b.unrestricted

/-- The written form of a bound. -/
def display (b : KeyBound) : String := if b.unrestricted then "*" else b.values.display

end KeyBound

/-- A range of keys. -/
structure KeyRange where
  lower : KeyBound
  upper : KeyBound
deriving DecidableEq

namespace KeyRange

/-- The range of all keys. -/
def all : KeyRange := ⟨.all, .all⟩

/-- Neither side restricts the range. -/
def isUnrestricted (r : KeyRange) : Bool := r.lower.unrestricted && r.upper.unrestricted

/-- The range contains a full key. -/
def contains (r : KeyRange) (key : Tuple) : Bool :=
  r.lower.admitsAbove key && r.upper.admitsBelow key

/-- The range of the tighter start and the tighter end of two ranges. -/
def inter (a b : KeyRange) : KeyRange where
  lower := if a.lower.cmpAsLower b.lower = .lt then b.lower else a.lower
  upper := if a.upper.cmpAsUpper b.upper = .gt then b.upper else a.upper

/-- No key lies behind the start and before the end. -/
def isEmpty (r : KeyRange) : Bool :=
  if r.lower.unrestricted || r.upper.unrestricted then false
  else
    match compareKeys r.lower.values r.upper.values with
    | .gt => true
    | .lt => false
    | .eq =>
      match compare r.lower.values.length r.upper.values.length with
      | .eq => !(r.lower.inclusive && r.upper.inclusive)
      | .gt => !r.upper.inclusive
      | .lt => !r.lower.inclusive

/-- The ranges are equal, floating-point values as numbers. -/
def agrees (a b : KeyRange) : Bool := a.lower.agrees b.lower && a.upper.agrees b.upper

/-- The written form of a range: a bracket beside an inclusive bound, a parenthesis beside an
exclusive one. -/
def display (r : KeyRange) : String :=
  (if r.lower.inclusive then "[" else "(") ++ r.lower.display ++ " .. " ++ r.upper.display ++
    (if r.upper.inclusive then "]" else ")")

end KeyRange
end ShardScan
