import ShardScan.Floating.Shortest
import ShardScan.Text.Base64
import ShardScan.Text.Quoted
import ShardScan.Value.Basic

/-!
# The written form of store values

A number carries a mark of its type, a text stands between quotes, bytes are
in base 64, and every optional layer adds a question mark.
-/

namespace ShardScan

namespace IntKind

/-- The mark behind an integer of the kind. -/
def suffix : IntKind → String
  | int8 => "t"
  | int16 => "s"
  | int32 => ""
  | int64 => "l"
  | uint8 => "ut"
  | uint16 => "us"
  | uint32 => "u"
  | uint64 => "ul"

end IntKind

/-- Bytes in base 64, marked and between quotes. -/
def displayBytes (b : List UInt8) : String :=
  "b64'" ++ String.ofList (Text.base64 b) ++ "'"

namespace Value

/-- The written form of a value. -/
def display : Value → String
  | null => "NULL"
  | optional inner => inner.display ++ "?"
  | bool b => if b then "true" else "false"
  | int kind n => toString n.val ++ kind.suffix
  | float x => x.text .plain ++ "f"
  | double x => x.text .plain
  | decimal unscaled _ scale => toString unscaled.val ++ "e-" ++ toString scale.val
  | bytes b => displayBytes b
  | text s => Text.quoted s
  | date days => "Date(" ++ toString days.val ++ ")"
  | datetime seconds => "Datetime(" ++ toString seconds.val ++ ")"
  | timestamp micros => "Timestamp(" ++ toString micros.val ++ ")"
  | interval micros => "Interval(" ++ toString micros.val ++ ")"
  | uuid n => "Uuid(" ++ String.ofList (Text.paddedHex 32 n.val.toNat) ++ ")"

end Value

/-- The values of a tuple between parentheses. -/
def Tuple.display (t : Tuple) : String :=
  "(" ++ String.intercalate ", " (t.map Value.display) ++ ")"

end ShardScan
