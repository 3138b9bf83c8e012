import ShardScan.Calendar
import ShardScan.Coercion.Error

/-!
# Values across the border

A store value is read as an engine value without loss; an engine value is
stored in a declared type if the type has a value for it.  Narrowing is
checked, finer units are rounded down, and a decimal is brought to the declared
scale with excess digits cut off.

Two products are not checked and may overflow: the microseconds of a date, and the
power of ten in the text of a decimal.  The text is part of every failure that names
a value, and is made with it, so that a conversion may stop the program where it was
about to fail.

## Main definitions

* `Value.toEngine` — the engine value that a store value is read as.
* `Scalar.toStore` — the store value of a declared type for an engine value.
* `Scalar.toStoreKey` — the same for a key position, where NULL is always admitted.
-/

namespace ShardScan

open Text (paddedHex trim ofHex?)

/-! ### Identifiers as text -/

/-- An identifier as 32 hexadecimal digits with hyphens after 8, 12, 16 and 20 of them. -/
def uuidText (n : Word .u128) : String :=
  let hex := paddedHex 32 n.val.toNat
  let part := fun start size => (hex.drop start).take size
  String.ofList (part 0 8 ++ '-' :: part 8 4 ++ '-' :: part 12 4 ++ '-' :: part 16 4 ++
    '-' :: part 20 12)

/-- The identifier that a text of 32 hexadecimal digits names.  Hyphens are skipped, and a plus
sign may stand in place of the first digit. -/
def parseUuid? (s : String) : Option (Word .u128) :=
  let hex := (trim s.toList).filter (· ≠ '-')
  if hex.length = 32 then
    let digits := if hex.head? = some '+' then hex.drop 1 else hex
    (ofHex? 0 digits).bind fun n => Word.ofInt? .u128 n
  else none

namespace Value

/-- The engine value that a store value is read as. -/
def toEngine : Value → Scalar
  | null => .null
  | optional inner => inner.toEngine
  | bool b => .boolean b
  | int kind n => .int kind n
  | float x => .float32 x
  | double x => .float64 x
  | decimal unscaled precision scale => .decimal unscaled precision scale
  | bytes b => .binary b
  | text s => .utf8 s
  | date days => .date days
  | datetime seconds =>
    .timestamp ⟨seconds.val * Calendar.microsPerSecond, by
      have held : 0 ≤ seconds.val ∧ seconds.val < 0 + 2 ^ 32 := seconds.holds
      show -2 ^ 63 ≤ _ ∧ _ < -2 ^ 63 + 2 ^ 64
      unfold Calendar.microsPerSecond
      omega⟩
  | timestamp micros => .timestamp micros
  | interval micros => .duration micros
  | uuid n => .utf8 (uuidText n)

end Value

namespace Scalar

/-- A failure that names the value, whose text is made at once. -/
def refuse {α : Type} (v : Scalar) (e : CoercionError) : Except CoercionError α :=
  if v.hasText then .error e else .error .overflow

/-- The integer that a value is or spells. -/
def toInteger (v : Scalar) (target : StoreType) : Except CoercionError Int :=
  match v with
  | utf8 s =>
    match Word.ofText? .i128 (trim s.toList) with
    | some n => .ok n.val
    | none => v.refuse (.mismatch v target)
  | int _ n => .ok n.val
  | _ => v.refuse (.mismatch v target)

/-- The integer as a word of the target. -/
def narrow (v : Scalar) (target : StoreType) (f : WordFormat) (n : Int) :
    Except CoercionError (Word f) :=
  match Word.ofInt? f n with
  | some w => .ok w
  | none => v.refuse (.outOfRange v target)

/-- A decimal or an integer as an unscaled number at the given scale, excess digits cut off. -/
def toUnscaled (v : Scalar) (target : StoreType) (scale : Word .i8) :
    Except CoercionError (Word .i128) :=
  let rescale (n from' : Int) : Except CoercionError (Word .i128) :=
    let shift := scale.val - from'
    let factor : Int := Nat.pow 10 shift.natAbs
    if 38 < shift.natAbs then v.refuse (.outOfRange v target)
    else if 0 ≤ shift then v.narrow target .i128 (n * factor)
    else v.narrow target .i128 (n.tdiv factor)
  match v with
  | decimal unscaled _ own => rescale unscaled.val own.val
  | int _ n => rescale n.val 0
  | _ => v.refuse (.mismatch v target)

/-- The microseconds since 1970 that a value stands for, as a number of 64 bits.  Those of a date are
a product that is not checked. -/
def instant (v : Scalar) (target : StoreType) : Except CoercionError (Word .i64) :=
  match v with
  | timestamp micros => .ok micros
  | date days =>
    match Word.ofInt? .i64 (days.val * Calendar.microsPerDay) with
    | some micros => .ok micros
    | none => .error .overflow
  | utf8 s =>
    match (Calendar.parseInstant? s).bind (Word.ofInt? .i64) with
    | some micros => .ok micros
    | none => v.refuse (.mismatch v target)
  | _ => v.refuse (.mismatch v target)

/-- The value of a type without an optional layer for a value other than NULL. -/
def toStorePlain (v : Scalar) (target : StoreType) : Except CoercionError Value :=
  let mismatch : Except CoercionError Value := v.refuse (.mismatch v target)
  match target with
  | .bool =>
    match v with
    | boolean b => .ok (.bool b)
    | _ => mismatch
  | .int kind => do
    let n ← v.toInteger target
    return .int kind (← v.narrow target kind.format n)
  | .float =>
    match v with
    | float32 x => .ok (.float x)
    | _ =>
      match v.number? with
      | some x => .ok (.float (x.convert .binary32))
      | none => mismatch
  | .double =>
    match v.number? with
    | some x => .ok (.double x)
    | none => mismatch
  | .decimal precision scale => do
    return .decimal (← v.toUnscaled target scale) precision scale
  | .bytes =>
    match v with
    | binary b => .ok (.bytes b)
    | utf8 s => .ok (.bytes (Text.utf8 s))
    | _ => mismatch
  | .text =>
    match v with
    | utf8 s => .ok (.text s)
    | _ => mismatch
  | .date =>
    match v with
    | date days => .ok (.date days)
    | timestamp micros => do
      return .date (← v.narrow target .i32 (micros.val / Calendar.microsPerDay))
    | utf8 s =>
      match (Calendar.parseDate? s).bind (Word.ofInt? .i32) with
      | some days => .ok (.date days)
      | none => mismatch
    | _ => mismatch
  | .datetime => do
    let micros ← v.instant target
    return .datetime (← v.narrow target .u32 (micros.val / Calendar.microsPerSecond))
  | .timestamp => do
    return .timestamp (← v.instant target)
  | .interval =>
    match v with
    | duration micros => .ok (.interval micros)
    | _ =>
      match v.integer? with
      | some n => do return .interval (← v.narrow target .i64 n)
      | none => mismatch
  | .uuid =>
    match v with
    | utf8 s =>
      match parseUuid? s with
      | some n => .ok (.uuid n)
      | none => mismatch
    | _ => mismatch
  | .optional _ => mismatch

/-- The store value of a declared type for an engine value. -/
def toStore (v : Scalar) : StoreType → Except CoercionError Value
  | .optional inner =>
    if v.isNull then .ok .null
    else do return (← v.toStore inner).orNull
  | target => if v.isNull then .error (.nullForRequired target) else v.toStorePlain target

/-- The store value of a declared type for an engine value in a key position, where NULL is
always admitted. -/
def toStoreKey (v : Scalar) (target : StoreType) : Except CoercionError Value :=
  v.toStore target.orNull

end Scalar
end ShardScan
