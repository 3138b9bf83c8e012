import ShardScan.StoreType.Basic
import ShardScan.Text.Affix
import ShardScan.Text.Blank
import ShardScan.Text.Numeral

/-!
# Names of store types

Every store type has one written name; reading is more liberal.  White space
around a name and around the arguments of a decimal is skipped, `T?` and
`Optional<T>` both admit NULL, some types have a second name, and a decimal
without arguments has 22 digits, nine of them after the point.

## Main definitions

* `StoreType.name` — the written name.
* `StoreType.ofName` — the type a text names, or the part of it that names none.
-/

namespace ShardScan
namespace StoreType

open Text (trim after? before? cutAt? length_lt_of_before? length_le_of_after?)

/-- The written name of a type, as characters. -/
def nameChars : StoreType → List Char
  | bool => "Bool".toList
  | int kind => kind.storeName.toList
  | float => "Float".toList
  | double => "Double".toList
  | decimal precision scale =>
    "Decimal(".toList ++ Text.decimal precision.val ++ ',' :: Text.decimal scale.val ++ [')']
  | bytes => "String".toList
  | text => "Utf8".toList
  | date => "Date".toList
  | datetime => "Datetime".toList
  | timestamp => "Timestamp".toList
  | interval => "Interval".toList
  | uuid => "Uuid".toList
  | optional inner => inner.nameChars ++ ['?']

/-- The written name of a type. -/
def name (t : StoreType) : String := String.ofList t.nameChars

/-- The decimal type whose arguments are left out. -/
def plainDecimal : StoreType := decimal 22 9

/-- The names without arguments. -/
def plainNames : List (String × StoreType) :=
  IntKind.all.map (fun k => (k.storeName, int k)) ++
  [("Bool", bool), ("Float", float), ("Double", double), ("Decimal", plainDecimal),
    ("String", bytes), ("Bytes", bytes), ("Utf8", text), ("Text", text),
    ("Date", date), ("Datetime", datetime), ("Timestamp", timestamp), ("Interval", interval),
    ("Uuid", uuid)]

/-! ### Reading -/

/-- The decimal type with the given arguments. -/
def ofDecimalArguments? (s : List Char) : Option StoreType := do
  let (precision, scale) ← cutAt? ',' s
  let precision ← Word.ofText? .u8 (trim precision)
  let scale ← Word.ofText? .i8 (trim scale)
  return decimal precision scale

/-- The type that a text without optional layers names. -/
def ofPlainName? (s : List Char) : Option StoreType :=
  match (after? "Decimal(".toList s).bind (before? ')') with
  | some arguments => ofDecimalArguments? arguments
  | none => plainNames.lookup (String.ofList s)

/-- What the outermost optional layer of a name is around. -/
def optionalPart? (s : List Char) : Option (List Char) :=
  before? '?' s <|> (after? "Optional<".toList s).bind (before? '>')

theorem length_lt_of_optionalPart? {s inner : List Char} (h : optionalPart? s = some inner) :
    inner.length < s.length := by
  unfold optionalPart? at h
  rcases hb : before? '?' s with _ | part
  · rw [hb] at h
    obtain ⟨rest, hr, hi⟩ := Option.bind_eq_some_iff.mp h
    exact Nat.lt_of_lt_of_le (length_lt_of_before? hi) (length_le_of_after? hr)
  · rw [hb] at h
    rw [← Option.some.inj h]
    exact length_lt_of_before? hb

/-- The type that a text names, or the innermost text without a meaning if it names none. -/
def ofNameChars (s : List Char) : Except (List Char) StoreType :=
  match _part : optionalPart? (trim s) with
  | some inner => (ofNameChars inner).map orNull
  | none =>
    match ofPlainName? (trim s) with
    | some type => .ok type
    | none => .error (trim s)
termination_by s.length
decreasing_by exact Nat.lt_of_lt_of_le (length_lt_of_optionalPart? _part) (Text.length_trim_le s)

/-- The type that a text names. -/
def ofName (s : String) : Except String StoreType :=
  (ofNameChars s.toList).mapError String.ofList

end StoreType
end ShardScan
