import ShardScan.KeyRange
import ShardScan.Scalar.Basic
import ShardScan.StoreType.Basic
import ShardScan.Wire.Basic

/-!
# The transport form of values and key ranges

Store values, engine values and store types are alternatives numbered in the
order of their kinds, the eight kinds of integers in a row.  The readers of
nested values take a bound on the depth, which the number of bytes is.
-/

namespace ShardScan
namespace Wire

/-- The number of an alternative. -/
def alternative (n : Nat) : List UInt8 := writeCount 4 n

/-- An alternative's number as an integer kind, where the first kind has number `first`. -/
def intKind? (first n : Nat) : Option IntKind :=
  if n < first then none else IntKind.all[n - first]?

/-! ### Store types -/

def writeStoreType : StoreType → List UInt8
  | .bool => alternative 0
  | .int kind => alternative (1 + kind.index)
  | .float => alternative 9
  | .double => alternative 10
  | .decimal precision scale => alternative 11 ++ write precision ++ write scale
  | .bytes => alternative 12
  | .text => alternative 13
  | .date => alternative 14
  | .datetime => alternative 15
  | .timestamp => alternative 16
  | .interval => alternative 17
  | .uuid => alternative 18
  | .optional inner => alternative 19 ++ writeStoreType inner

/-- A store type of at most `depth` optional layers. -/
def readStoreType : Nat → WireReader StoreType
  | 0 => throw .ended
  | depth + 1 => do
    let n ← readCount 4
    match intKind? 1 n with
    | some kind => return .int kind
    | none =>
      match n with
      | 0 => return .bool
      | 9 => return .float
      | 10 => return .double
      | 11 => return .decimal (← read) (← read)
      | 12 => return .bytes
      | 13 => return .text
      | 14 => return .date
      | 15 => return .datetime
      | 16 => return .timestamp
      | 17 => return .interval
      | 18 => return .uuid
      | 19 => return .optional (← readStoreType depth)
      | _ => throw .unknownAlternative

instance : Wire StoreType where
  write := writeStoreType
  read := do readStoreType (← get).length.succ

/-! ### Store values -/

def writeValue : Value → List UInt8
  | .bool b => alternative 0 ++ write b
  | .int kind n => alternative (1 + kind.index) ++ write n
  | .float x => alternative 9 ++ write x
  | .double x => alternative 10 ++ write x
  | .decimal unscaled precision scale =>
    alternative 11 ++ write unscaled ++ write precision ++ write scale
  | .bytes b => alternative 12 ++ write b
  | .text s => alternative 13 ++ write s
  | .date days => alternative 14 ++ write days
  | .datetime seconds => alternative 15 ++ write seconds
  | .timestamp micros => alternative 16 ++ write micros
  | .interval micros => alternative 17 ++ write micros
  | .uuid n => alternative 18 ++ write n
  | .null => alternative 19 ++ [0]
  | .optional inner => alternative 19 ++ 1 :: writeValue inner

/-- A store value of at most `depth` optional layers. -/
def readValue : Nat → WireReader Value
  | 0 => throw .ended
  | depth + 1 => do
    let n ← readCount 4
    match intKind? 1 n with
    | some kind => return .int kind (← read)
    | none =>
      match n with
      | 0 => return .bool (← read)
      | 9 => return .float (← read)
      | 10 => return .double (← read)
      | 11 => return .decimal (← read) (← read) (← read)
      | 12 => return .bytes (← read)
      | 13 => return .text (← read)
      | 14 => return .date (← read)
      | 15 => return .datetime (← read)
      | 16 => return .timestamp (← read)
      | 17 => return .interval (← read)
      | 18 => return .uuid (← read)
      | 19 =>
        match ← readOption (readValue depth) with
        | none => return .null
        | some inner => return .optional inner
      | _ => throw .unknownAlternative

instance : Wire Value where
  write := writeValue
  read := do readValue (← get).length.succ

/-! ### Engine values -/

def writeScalar : Scalar → List UInt8
  | .null => alternative 0
  | .boolean b => alternative 1 ++ write b
  | .int kind n => alternative (2 + kind.index) ++ write n
  | .float32 x => alternative 10 ++ write x
  | .float64 x => alternative 11 ++ write x
  | .decimal unscaled precision scale =>
    alternative 12 ++ write unscaled ++ write precision ++ write scale
  | .utf8 s => alternative 13 ++ write s
  | .binary b => alternative 14 ++ write b
  | .date days => alternative 15 ++ write days
  | .timestamp micros => alternative 16 ++ write micros
  | .duration micros => alternative 17 ++ write micros

def readScalar : WireReader Scalar := do
  let n ← readCount 4
  match intKind? 2 n with
  | some kind => return .int kind (← read)
  | none =>
    match n with
    | 0 => return .null
    | 1 => return .boolean (← read)
    | 10 => return .float32 (← read)
    | 11 => return .float64 (← read)
    | 12 => return .decimal (← read) (← read) (← read)
    | 13 => return .utf8 (← read)
    | 14 => return .binary (← read)
    | 15 => return .date (← read)
    | 16 => return .timestamp (← read)
    | 17 => return .duration (← read)
    | _ => throw .unknownAlternative

instance : Wire Scalar where
  write := writeScalar
  read := readScalar

/-! ### Key ranges -/

instance : Wire KeyBound where
  write b := write b.values ++ write b.inclusive ++ write b.unrestricted
  read := do return ⟨← read, ← read, ← read⟩

instance : Wire KeyRange where
  write r := write r.lower ++ write r.upper
  read := do return ⟨← read, ← read⟩

end Wire
end ShardScan
