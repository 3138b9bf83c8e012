/-!
# Machine words

Integers of a fixed width.  A `WordFormat` says how many bytes a word has and
whether it is signed; a `Word` of that format is an integer together with the
proof that the format holds it, so arithmetic is arithmetic of `Int` and a
range check is the construction of the word.

## Main definitions

* `WordFormat.Holds` — the integers a format can hold: `size` of them, from `lo` on.
* `Word.ofInt?` — the checked construction.
* `Word.ofResidue` — the word with a given remainder modulo the size, which is
  how two's complement reads a bit pattern.
-/

namespace ShardScan

/-- The shape of a machine integer. -/
structure WordFormat where
  /-- Whether negative integers are held. -/
  signed : Bool
  /-- The width, in bytes. -/
  bytes : Nat
deriving DecidableEq

namespace WordFormat

/-- The number of words of the format. -/
def size (f : WordFormat) : Nat := Nat.pow 256 f.bytes

/-- The least integer held. -/
def lo (f : WordFormat) : Int := if f.signed then -(f.size / 2 : Nat) else 0

/-- The first integer above the held ones. -/
def past (f : WordFormat) : Int := f.lo + f.size

/-- The format holds `n`. -/
def Holds (f : WordFormat) (n : Int) : Prop := f.lo ≤ n ∧ n < f.past

instance (f : WordFormat) (n : Int) : Decidable (f.Holds n) :=
  inferInstanceAs (Decidable (_ ∧ _))

/-- Signed, 8 bits. -/
def i8 : WordFormat := ⟨true, 1⟩
/-- Signed, 16 bits. -/
def i16 : WordFormat := ⟨true, 2⟩
/-- Signed, 32 bits. -/
def i32 : WordFormat := ⟨true, 4⟩
/-- Signed, 64 bits. -/
def i64 : WordFormat := ⟨true, 8⟩
/-- Signed, 128 bits. -/
def i128 : WordFormat := ⟨true, 16⟩
/-- Unsigned, 8 bits. -/
def u8 : WordFormat := ⟨false, 1⟩
/-- Unsigned, 16 bits. -/
def u16 : WordFormat := ⟨false, 2⟩
/-- Unsigned, 32 bits. -/
def u32 : WordFormat := ⟨false, 4⟩
/-- Unsigned, 64 bits. -/
def u64 : WordFormat := ⟨false, 8⟩
/-- Unsigned, 128 bits. -/
def u128 : WordFormat := ⟨false, 16⟩

theorem size_pos (f : WordFormat) : 0 < f.size := Nat.pow_pos (by decide)

/-- Every format holds zero. -/
theorem holds_zero (f : WordFormat) : f.Holds 0 := by
  have := f.size_pos
  unfold Holds past lo
  split <;> omega

end WordFormat

/-- An integer that `f` holds. -/
structure Word (f : WordFormat) where
  /-- The integer itself. -/
  val : Int
  /-- It is one the format holds. -/
  holds : f.Holds val
deriving DecidableEq

namespace Word

variable {f : WordFormat}

@[ext]
theorem ext {a b : Word f} (h : a.val = b.val) : a = b := by
  cases a; cases b; simp_all

instance : Inhabited (Word f) := ⟨⟨0, f.holds_zero⟩⟩

/-- The word of an integer, if the format holds it. -/
def ofInt? (f : WordFormat) (n : Int) : Option (Word f) :=
  if h : f.Holds n then some ⟨n, h⟩ else none

@[simp]
theorem ofInt?_val (w : Word f) : ofInt? f w.val = some w := by
  simp [ofInt?, w.holds]

theorem ofInt?_eq_some_iff {n : Int} {w : Word f} : ofInt? f n = some w ↔ w.val = n := by
  constructor
  · intro h
    unfold ofInt? at h
    split at h
    · rw [← Option.some.inj h]
    · simp at h
  · rintro rfl
    exact ofInt?_val w

theorem ofInt?_eq_none_iff {n : Int} : ofInt? f n = none ↔ ¬ f.Holds n := by
  unfold ofInt?
  split <;> simp_all

/-- The word that leaves the remainder of `r` modulo the format's size. -/
def ofResidue (f : WordFormat) (r : Int) : Word f :=
  ⟨f.lo + (r - f.lo) % f.size, by
    have size := f.size_pos
    have := Int.emod_nonneg (r - f.lo) (show (f.size : Int) ≠ 0 by omega)
    have := Int.emod_lt_of_pos (r - f.lo) (show (0 : Int) < f.size by omega)
    unfold WordFormat.Holds WordFormat.past
    omega⟩

/-- The remainder of a word modulo the format's size: its bit pattern read as a natural number. -/
def residue (w : Word f) : Nat := (w.val % f.size).toNat

theorem residue_lt (w : Word f) : w.residue < f.size := by
  have := f.size_pos
  have := Int.emod_lt_of_pos w.val (show (0 : Int) < f.size by omega)
  unfold residue
  omega

@[simp]
theorem ofResidue_residue (w : Word f) : ofResidue f w.residue = w := by
  have := f.size_pos
  have := Int.emod_nonneg w.val (show (f.size : Int) ≠ 0 by omega)
  have held : (w.val - f.lo) % f.size = w.val - f.lo :=
    Int.emod_eq_of_lt (by have := w.holds.1; omega)
      (by have := w.holds.2; unfold WordFormat.past at this; omega)
  have same : (w.val % f.size - f.lo) % f.size = (w.val - f.lo) % f.size := by
    rw [Int.sub_emod, Int.emod_emod, ← Int.sub_emod]
  apply Word.ext
  show f.lo + ((w.residue : Int) - f.lo) % f.size = w.val
  rw [residue, Int.toNat_of_nonneg this, same, held]
  omega

/-- The word of a bit pattern has that bit pattern. -/
theorem residue_ofResidue {r : Nat} (h : r < f.size) : (ofResidue f r).residue = r := by
  have same : (f.lo + ((r : Int) - f.lo) % f.size) % f.size = (r : Int) := by
    rw [Int.add_emod_emod, show f.lo + ((r : Int) - f.lo) = r by omega]
    exact Int.emod_eq_of_lt (by omega) (by omega)
  show ((f.lo + ((r : Int) - f.lo) % f.size) % f.size).toNat = r
  rw [same]
  rfl

/-- A numeral stands for the word with that residue. -/
instance (n : Nat) : OfNat (Word f) n := ⟨ofResidue f n⟩

/-- The word nearest to an integer. -/
def clamp (f : WordFormat) (n : Int) : Word f :=
  ⟨max f.lo (min n (f.past - 1)), by
    have := f.size_pos
    unfold WordFormat.Holds WordFormat.past
    omega⟩

theorem clamp_val {n : Int} (h : f.Holds n) : (clamp f n).val = n := by
  have := h.1
  have := h.2
  simp only [clamp]
  omega

/-- Words are ordered as the integers they are. -/
def cmp (a b : Word f) : Ordering := compare a.val b.val

end Word
end ShardScan
