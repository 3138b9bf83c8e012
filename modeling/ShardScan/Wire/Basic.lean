import ShardScan.Dict
import ShardScan.Floating.Basic
import ShardScan.Text.Bytes

/-!
# The binary transport form

Plans travel to workers as bytes.  Words are little-endian at their full
width, a text, a list or a dictionary begins with its length in eight bytes, an
optional value with a byte that is 0 or 1, and one of several alternatives
with its number in four bytes; a structure is its members one after the other.

## Main definitions

* `Wire` — the types with a transport form, by `write` and `read`.
* `Wire.encode`, `Wire.decode?` — a value as bytes, and back from the front of some bytes.
-/

namespace ShardScan

/-- Why bytes are not the transport form of a value. -/
inductive WireError
  /-- The bytes end too early. -/
  | ended
  /-- The bytes of a text are not UTF-8. -/
  | invalidText
  /-- A truth value other than 0 and 1. -/
  | invalidBool
  /-- The mark of an optional value is neither 0 nor 1. -/
  | invalidTag
  /-- There is no alternative of that number. -/
  | unknownAlternative
deriving DecidableEq

/-- Reading from the front of some bytes. -/
abbrev WireReader (α : Type) := StateT (List UInt8) (Except WireError) α

/-- The types with a transport form. -/
class Wire (α : Type) where
  write : α → List UInt8
  read : WireReader α

namespace Wire

/-- The transport form of a value. -/
def encode {α : Type} [Wire α] (a : α) : List UInt8 := write a

/-- The value whose transport form the bytes begin with; what follows it is passed over. -/
def decode {α : Type} [Wire α] (bytes : List UInt8) : Except WireError α :=
  ((read : WireReader α).run bytes).map (·.1)

/-! ### Bytes and words -/

/-- The next `n` bytes. -/
def take (n : Nat) : WireReader (List UInt8) := fun bytes =>
  if n ≤ bytes.length then .ok (bytes.take n, bytes.drop n) else .error .ended

/-- The `width` lowest bytes of a number, the least significant first. -/
def littleEndian : Nat → Nat → List UInt8
  | 0, _ => []
  | width + 1, n => UInt8.ofNat (n % 256) :: littleEndian width (n / 256)

/-- The number whose bytes are given, the least significant first. -/
def ofLittleEndian : List UInt8 → Nat
  | [] => 0
  | b :: rest => b.toNat + 256 * ofLittleEndian rest

instance (f : WordFormat) : Wire (Word f) where
  write w := littleEndian f.bytes w.residue
  read := do return Word.ofResidue f (ofLittleEndian (← take f.bytes))

instance (f : FloatFormat) : Wire (Floating f) where
  write x := write x.pattern
  read := do return ⟨← read⟩

/-- A length or a number of an alternative, in `width` bytes. -/
def writeCount (width n : Nat) : List UInt8 := littleEndian width n

/-- A length or a number of an alternative, from `width` bytes. -/
def readCount (width : Nat) : WireReader Nat := do return ofLittleEndian (← take width)

instance : Wire UInt8 where
  write b := [b]
  read := do return UInt8.ofNat (← readCount 1)

instance : Wire Bool where
  write b := [if b then 1 else 0]
  read := do
    match ← readCount 1 with
    | 0 => return false
    | 1 => return true
    | _ => throw .invalidBool

/-! ### Texts, lists and optional values -/

instance : Wire String where
  write s := writeCount 8 (Text.utf8 s).length ++ Text.utf8 s
  read := do
    let bytes ← take (← readCount 8)
    match Text.ofUtf8? bytes with
    | some s => return s
    | none => throw .invalidText

instance {α β : Type} [Wire α] [Wire β] : Wire (α × β) where
  write p := write p.1 ++ write p.2
  read := do
    let a ← read
    return (a, ← read)

/-- `n` values one after the other. -/
def readMany {α : Type} (item : WireReader α) : Nat → WireReader (List α)
  | 0 => return []
  | n + 1 => do
    let a ← item
    return a :: (← readMany item n)

/-- Any number of values after their count. -/
def readList {α : Type} (item : WireReader α) : WireReader (List α) := do
  readMany item (← readCount 8)

instance {α : Type} [Wire α] : Wire (List α) where
  write l := writeCount 8 l.length ++ l.flatMap write
  read := readList read

/-- An optional value after its mark. -/
def readOption {α : Type} (item : WireReader α) : WireReader (Option α) := do
  match ← readCount 1 with
  | 0 => return none
  | 1 => return some (← item)
  | _ => throw .invalidTag

instance {α : Type} [Wire α] : Wire (Option α) where
  write
    | none => [0]
    | some a => 1 :: write a
  read := readOption read

instance {α : Type} [Wire α] : Wire (Dict α) where
  write d := write d.entries
  read := do return Dict.ofList (← read)

/-- One of some alternatives without members. -/
def readAlternative {α : Type} (alternatives : List α) : WireReader α := do
  match alternatives[← readCount 4]? with
  | some a => return a
  | none => throw .unknownAlternative

end Wire
end ShardScan
