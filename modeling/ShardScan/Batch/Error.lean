import ShardScan.EngineType.Name
import ShardScan.Scalar.Display

/-!
# Failures of record batches

Why rows cannot be put together into a batch of a schema.

## Main definitions

* `DecimalFault` — a precision and scale that no decimal column has.
* `BatchError` — why rows make no batch.
-/

namespace ShardScan

/-- Why there is no decimal column of a precision and scale. -/
inductive DecimalFault
  | noPrecision
  | precisionAboveMax (precision : Int)
  | scaleAboveMax (scale : Int)
  | scaleAbovePrecision (scale precision : Int)
deriving DecidableEq

namespace DecimalFault

/-- The greatest precision and scale of a decimal column. -/
def maxDigits : Int := 38

/-- What is wrong with a precision and scale. -/
def of? (precision scale : Int) : Option DecimalFault :=
  if precision = 0 then some .noPrecision
  else if maxDigits < precision then some (.precisionAboveMax precision)
  else if maxDigits < scale then some (.scaleAboveMax scale)
  else if precision < scale then some (.scaleAbovePrecision scale precision)
  else none

/-- The text of a fault. -/
def message : DecimalFault → String
  | noPrecision => "precision cannot be 0, has to be between [1, " ++ toString maxDigits ++ "]"
  | precisionAboveMax precision =>
    "precision " ++ toString precision ++ " is greater than max " ++ toString maxDigits
  | scaleAboveMax scale =>
    "scale " ++ toString scale ++ " is greater than max " ++ toString maxDigits
  | scaleAbovePrecision scale precision =>
    "scale " ++ toString scale ++ " is greater than precision " ++ toString precision

end DecimalFault

/-- Why rows make no batch. -/
inductive BatchError
  /-- A row is wider or narrower than the schema. -/
  | rowWidth (got expected : Nat)
  /-- A column of the type cannot hold the value. -/
  | cannotHold (column : String) (type : EngineType) (value : Scalar)
  /-- No column of the type can be built. -/
  | unsupportedType (column : String) (type : EngineType)
  | decimal (fault : DecimalFault)
  /-- NULL in a column that does not admit it. -/
  | nullInRequired (column : String)
  /-- The next row is not there yet, and nobody is going to bring it. -/
  | stalled
deriving DecidableEq

namespace BatchError

/-- The text of a failure. -/
def message : BatchError → String
  | rowWidth got expected =>
    "row has " ++ toString got ++ " values, schema has " ++ toString expected ++ " fields"
  | cannotHold column type value =>
    "column " ++ column ++ " of type " ++ type.name ++ " cannot hold " ++ value.spelled
  | unsupportedType column type => "column " ++ column ++ " has unsupported type " ++ type.name
  | decimal fault => "Invalid argument error: " ++ fault.message
  | nullInRequired column =>
    "Invalid argument error: Column '" ++ column ++
      "' is declared as non-nullable but contains null values"
  | stalled => "WouldBlock"

end BatchError
end ShardScan
