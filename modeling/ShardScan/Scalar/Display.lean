import ShardScan.Scalar.Basic
import ShardScan.Value.Display

/-!
# The written forms of engine values

A value is written in three ways: plainly, inside messages with its kind
spelled out, and as JSON.

## Main definitions

* `Scalar.display` — the plain form; `Scalar.hasText` says which values have one.
* `Scalar.spelled` — the form that names the kind.
* `Scalar.toJson` — the JSON form; what JSON has no number for is a string, a NaN or infinity null.
* `decimalText` — a scaled integer with its decimal point.
-/

namespace ShardScan

/-- The number `unscaled * 10 ^ -scale` with `scale` digits after the point, of which there are 38 at
most: the power of ten for more of them overflows 128 bits, and the program stops.  A scale of zero
or below leaves the unscaled number. -/
def decimalText (unscaled scale : Int) : List Char :=
  if scale ≤ 0 then Text.decimal unscaled
  else
    let one := Nat.pow 10 scale.toNat
    let digits := Nat.toDigits 10 (unscaled.natAbs / one) ++
      '.' :: Text.paddedDecimal scale.toNat (unscaled.natAbs % one)
    if unscaled < 0 then '-' :: digits else digits

namespace Scalar

/-- The value has a text in plain form and in JSON.  Where it has none, the program that asks for it
stops. -/
def hasText : Scalar → Bool
  | decimal _ _ scale => scale.val ≤ 38
  | _ => true

/-- The plain written form. -/
def display : Scalar → String
  | null => "NULL"
  | boolean b => if b then "true" else "false"
  | int _ n => toString n.val
  | float32 x => x.text .plain
  | float64 x => x.text .plain
  | decimal unscaled _ scale => String.ofList (decimalText unscaled.val scale.val)
  | utf8 s => Text.quoted s
  | binary b => displayBytes b
  | date days => "Date32(" ++ toString days.val ++ ")"
  | timestamp micros => "TimestampMicros(" ++ toString micros.val ++ ")"
  | duration micros => "DurationMicros(" ++ toString micros.val ++ ")"

/-- The written form that names the kind of the value. -/
def spelled : Scalar → String
  | null => "Null"
  | boolean b => "Boolean(" ++ (if b then "true" else "false") ++ ")"
  | int kind n => kind.engineName ++ "(" ++ toString n.val ++ ")"
  | float32 x => "Float32(" ++ x.text .general ++ ")"
  | float64 x => "Float64(" ++ x.text .general ++ ")"
  | decimal unscaled precision scale =>
    "Decimal128 \x7b value: " ++ toString unscaled.val ++ ", precision: " ++
      toString precision.val ++ ", scale: " ++ toString scale.val ++ " \x7d"
  | utf8 s => "Utf8(" ++ Text.quoted s ++ ")"
  | binary b =>
    "Binary([" ++ String.intercalate ", " (b.map fun x => toString x.toNat) ++ "])"
  | date days => "Date32(" ++ toString days.val ++ ")"
  | timestamp micros => "TimestampMicros(" ++ toString micros.val ++ ")"
  | duration micros => "DurationMicros(" ++ toString micros.val ++ ")"

/-- A floating-point number in JSON. -/
def jsonNumber (x : Binary64) : Json := if x.isFinite then .number x else .null

/-- The JSON form of a value. -/
def toJson : Scalar → Json
  | null => .null
  | boolean b => .bool b
  | int _ n => .integer n.val
  | float32 x => jsonNumber (x.convert .binary64)
  | float64 x => jsonNumber x
  | decimal unscaled _ scale => .string (String.ofList (decimalText unscaled.val scale.val))
  | utf8 s => .string s
  | binary b => .string (String.ofList (Text.base64 b))
  | date days => .integer days.val
  | timestamp micros => .integer micros.val
  | duration micros => .integer micros.val

end Scalar
end ShardScan
