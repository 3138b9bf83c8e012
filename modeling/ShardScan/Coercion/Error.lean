import ShardScan.EngineType.Name
import ShardScan.Scalar.Display
import ShardScan.StoreType.Name

/-!
# Conversion failures

Why a value or a type has no counterpart on the other side.

One of the reasons is none that a caller gets to see: where the arithmetic of a
conversion overflows, the program stops, and nothing behind the conversion happens.
-/

namespace ShardScan

/-- Why a conversion between engine and store fails. -/
inductive CoercionError
  /-- The kind of value, or its text, has no form in the type. -/
  | mismatch (value : Scalar) (target : StoreType)
  /-- The value has a form in the type, but not one the type holds. -/
  | outOfRange (value : Scalar) (target : StoreType)
  /-- NULL for a type that does not admit it. -/
  | nullForRequired (target : StoreType)
  /-- The text names no store type. -/
  | unknownStoreType (name : String)
  /-- The engine type has no store type. -/
  | unsupportedEngineType (type : EngineType)
  /-- A product does not fit the integers it is computed in.  No failure is reported: the program
  stops. -/
  | overflow
deriving DecidableEq

namespace CoercionError

/-- The name of a kind of failure. -/
def kind : CoercionError → String
  | mismatch .. => "Mismatch"
  | outOfRange .. => "OutOfRange"
  | nullForRequired .. => "NullForRequired"
  | unknownStoreType .. => "UnknownStoreType"
  | unsupportedEngineType .. => "UnsupportedEngineType"
  | overflow => "Overflow"

/-- The text of a failure. -/
def message : CoercionError → String
  | mismatch value target => "Cannot convert " ++ value.display ++ " to " ++ target.name
  | outOfRange value target =>
    "Value " ++ value.display ++ " is out of range for " ++ target.name
  | nullForRequired target => "NULL is not allowed for non-optional type " ++ target.name
  | unknownStoreType name => "Unknown store type: " ++ name
  | unsupportedEngineType type => "Unsupported engine type: " ++ type.name
  | overflow => "attempt to multiply with overflow"

end CoercionError

namespace StoreType

/-- The type that a text names. -/
def parse (s : String) : Except CoercionError StoreType :=
  (ofName s).mapError .unknownStoreType

end StoreType
end ShardScan
