import ShardScan.Expr.Basic
import ShardScan.Text.Blank

/-!
# From predicates to a key prefix

A conjunction of predicates on a composite key restricts the keys that can
satisfy it.  The restriction is a range of key prefixes: each key column in
turn is compared with literals, and as long as an equality pins a column the
next one is looked at too.  Both ends count as included, so a strict comparison
loses its strictness, and what is not a comparison of a key column with a
literal restricts nothing.

## Main definitions

* `Comparison.of?` — a predicate as the comparison of a column with a literal.
* `ColumnRange.narrow` — the literals between which a column has to lie.
* `PlannedRange.ofPredicates` — the range of key prefixes.
* `prefixSuccessor?` — the least text above every text with a given beginning.
-/

namespace ShardScan

/-! ### The texts with a given beginning -/

/-- The next character; none behind the last. -/
def nextChar? (c : Char) : Option Char :=
  let n := c.toNat + 1
  if n = 0xd800 then some (Char.ofNat 0xe000)
  else if n.isValidChar then some (Char.ofNat n)
  else none

/-- The least text above every text that begins with the given characters; none if there are no
characters or the last of them is the last there is. -/
def prefixSuccessor? (s : List Char) : Option (List Char) := do
  let last ← s.getLast?
  let next ← nextChar? last
  return s.dropLast ++ [next]

/-! ### Comparisons with literals -/

/-- The comparison of a column with a literal. -/
structure Comparison where
  op : Operator
  literal : Scalar
  /-- The literal stands before the column. -/
  reversed : Bool

namespace Comparison

/-- A predicate as a comparison of the given column.  Where both operands could be columns, the
second counts as one. -/
def of? (column : String) : Expr → Option Comparison
  | .predicate op [.literal v, .column path] =>
    if path.getLast? = some column then some ⟨op, v, true⟩ else none
  | .predicate op [.column path, .literal v] =>
    if path.getLast? = some column then some ⟨op, v, false⟩ else none
  | _ => none

end Comparison

/-! ### One column -/

/-- The literals between which a column has to lie, NULL where there is none. -/
structure ColumnRange where
  lower : Scalar
  upper : Scalar
  /-- An equality fixes the column. -/
  pinned : Bool
deriving DecidableEq

namespace ColumnRange

/-- Nothing known of the column. -/
def unknown : ColumnRange := ⟨.null, .null, false⟩

/-- The greater of a lower literal and a new one; the new one where the two do not compare. -/
def tightenLower (slot v : Scalar) : Scalar :=
  if v.isNull then slot
  else
    match slot.naturalCmp v with
    | some .lt => v
    | none => v
    | some _ => slot

/-- The lesser of an upper literal and a new one; the new one where the two do not compare. -/
def tightenUpper (slot v : Scalar) : Scalar :=
  if v.isNull then slot
  else
    match slot.naturalCmp v with
    | some .gt => v
    | none => v
    | some _ => slot

def raise (r : ColumnRange) (v : Scalar) : ColumnRange := { r with lower := tightenLower r.lower v }
def reduce (r : ColumnRange) (v : Scalar) : ColumnRange := { r with upper := tightenUpper r.upper v }

/-- The range with a comparison taken in.  After an equality nothing changes any more. -/
def narrow (r : ColumnRange) (c : Comparison) : ColumnRange :=
  if r.pinned then r
  else
    match c.op, c.reversed with
    | .eq, _ => ⟨c.literal, c.literal, true⟩
    | .nullSafeEq, _ => ⟨c.literal, c.literal, true⟩
    | .gt, false => r.raise c.literal
    | .gtEq, false => r.raise c.literal
    | .lt, true => r.raise c.literal
    | .ltEq, true => r.raise c.literal
    | .lt, false => r.reduce c.literal
    | .ltEq, false => r.reduce c.literal
    | .gt, true => r.reduce c.literal
    | .gtEq, true => r.reduce c.literal
    | .startsWith, false =>
      match c.literal with
      | .utf8 s =>
        match prefixSuccessor? s.toList with
        | some next => (r.raise c.literal).reduce (.utf8 (String.ofList next))
        | none => r
      | _ => r
    | _, _ => r

/-- What some predicates say of a column. -/
def ofPredicates (predicates : List Expr) (column : String) : ColumnRange :=
  (predicates.filterMap (Comparison.of? column)).foldl narrow unknown

/-- The ranges of the leading columns: of those that are pinned, and of the first that is not. -/
def leading (predicates : List Expr) : List String → List ColumnRange
  | [] => []
  | column :: rest =>
    let r := ofPredicates predicates column
    r :: if r.pinned then leading predicates rest else []

end ColumnRange

/-! ### The whole key -/

/-- A range of key prefixes, both ends included.  Neither ends in NULL. -/
structure PlannedRange where
  lower : List Scalar
  upper : List Scalar
deriving DecidableEq

namespace PlannedRange

/-- Neither end restricts the keys. -/
def isUnrestricted (r : PlannedRange) : Bool := r.lower.isEmpty && r.upper.isEmpty

/-- The key prefixes that the conjunction of some predicates allows. -/
def ofPredicates (keyColumns : List String) (predicates : List Expr) : PlannedRange :=
  let ranges := ColumnRange.leading (Expr.conjunctsOf predicates) keyColumns
  { lower := Text.dropEndWhile Scalar.isNull (ranges.map (·.lower))
    upper := Text.dropEndWhile Scalar.isNull (ranges.map (·.upper)) }

/-- The ranges are equal, floating-point literals as numbers. -/
def agrees (a b : PlannedRange) : Bool :=
  sides a.lower b.lower && sides a.upper b.upper
where
  sides (a b : List Scalar) : Bool :=
    a.length == b.length && (a.zip b).all fun (x, y) => x.agrees y

end PlannedRange
end ShardScan
