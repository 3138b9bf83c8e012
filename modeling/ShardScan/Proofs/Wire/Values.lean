import ShardScan.Proofs.Wire.Laws
import ShardScan.Wire.Value

/-!
# Transport of values and key ranges

Store types, store values, engine values and key ranges obey both laws of the
transport form.  The alternatives are numbered without gaps, the eight kinds of
integers in a row, so the number of an alternative tells the constructor.

## Main results

* `reads_readValue`, `inverts_readValue` — store values under any number of optional layers.
* The instances of `LawfulWire` and `CanonicalWire` for `StoreType`, `Value`, `Scalar`,
  `KeyBound` and `KeyRange`.
-/

namespace ShardScan
namespace Wire

/-- The kinds of integers have the numbers from `first` on, in their order. -/
theorem intKind?_eq_some_iff {first n : Nat} {kind : IntKind} :
    intKind? first n = some kind ↔ n = first + kind.index := by
  constructor
  · intro h
    unfold intKind? at h
    split at h
    · cases h
    · next hle =>
      have hindex : ∀ m < 8, IntKind.all[m]? = some kind → m = kind.index := by
        cases kind <;> decide
      have := hindex (n - first) (List.getElem?_eq_some_iff.mp h).1 h
      omega
  · rintro rfl
    rw [intKind?, if_neg (by omega), Nat.add_sub_cancel_left]
    exact kind.all_getElem?_index

@[simp] theorem intKind?_add_index (first : Nat) (kind : IntKind) :
    intKind? first (first + kind.index) = some kind := intKind?_eq_some_iff.mpr rfl

theorem index_lt (kind : IntKind) : kind.index < 8 := by
  cases kind <;> decide

theorem length_alternative (n : Nat) : (alternative n).length = 4 := length_writeCount 4 n

/-! ### Store types -/

theorem reads_readStoreType (t : StoreType) (depth : Nat) (h : (writeStoreType t).length ≤ depth) :
    Reads (readStoreType (depth + 1)) (writeStoreType t) t := by
  induction t generalizing depth with
  | int kind =>
    have := index_lt kind
    refine reads_alternative_pure (by omega) ?_
    rw [intKind?_add_index]
  | decimal precision scale =>
    rw [writeStoreType, List.append_assoc]
    exact reads_alternative (by decide) ((reads_word precision).bind (reads_word scale).bind_pure)
  | optional inner ih =>
    rw [writeStoreType, List.length_append, length_alternative] at h
    obtain ⟨depth, rfl⟩ : ∃ d, depth = d + 1 := ⟨depth - 1, by omega⟩
    exact reads_alternative (by decide) (ih depth (by omega)).bind_pure
  | _ => exact reads_alternative_pure (by decide) rfl

theorem inverts_readStoreType (depth : Nat) :
    Inverts (readStoreType depth) writeStoreType fun _ => True := by
  induction depth with
  | zero =>
    intro input t rest h _
    cases h
  | succ depth ih =>
    intro input t rest hread _
    obtain ⟨n, middle, hcount, h⟩ := run_bind_eq_ok_iff.mp hread
    obtain ⟨rfl, -⟩ := readCount_eq_ok hcount
    split at h
    · next kind hkind =>
      cases h
      rw [intKind?_eq_some_iff.mp hkind]
      rfl
    · -- One case for every number that stands for something, and one for the rest.
      split at h
      case h_4 =>
        obtain ⟨precision, middle', hp, h⟩ := run_bind_eq_ok_iff.mp h
        obtain ⟨scale, middle'', hs, h⟩ := run_bind_eq_ok_iff.mp h
        cases h
        rw [eq_write_append hp, eq_write_append hs]
        simp only [writeStoreType, alternative, List.append_assoc]
      case h_12 =>
        obtain ⟨inner, middle', hinner, h⟩ := run_bind_eq_ok_iff.mp h
        cases h
        rw [ih hinner trivial]
        simp only [writeStoreType, alternative, List.append_assoc]
      all_goals cases h
      all_goals rfl

instance : SizedWire StoreType where
  length_write_pos t := by
    have hlen : 4 ≤ (writeStoreType t).length := by
      cases t <;> simp only [writeStoreType, List.length_append, length_alternative] <;> omega
    exact Nat.lt_of_lt_of_le (by decide) hlen

instance : LawfulWire StoreType := ⟨fun t _ => reads_of_depth (reads_readStoreType t)⟩

instance : CanonicalWire StoreType := ⟨inverts_of_depth inverts_readStoreType⟩

/-! ### Store values -/

theorem reads_readValue (v : Value) (depth : Nat) (hlen : (writeValue v).length < byteLimit)
    (h : (writeValue v).length ≤ depth) : Reads (readValue (depth + 1)) (writeValue v) v := by
  induction v generalizing depth with
  | null => exact reads_alternative (by decide) ((reads_readOption_none _).bind_eq_pure rfl)
  | optional inner ih =>
    simp only [writeValue, List.length_append, List.length_cons, length_alternative] at h hlen
    obtain ⟨depth, rfl⟩ : ∃ d, depth = d + 1 := ⟨depth - 1, by omega⟩
    have hinner := ih depth (by omega) (by omega)
    exact reads_alternative (by decide) ((reads_readOption_some hinner).bind_eq_pure rfl)
  | int kind n =>
    have := index_lt kind
    refine reads_alternative (by omega) ?_
    rw [intKind?_add_index]
    exact (reads_word n).bind_pure
  | bool b => exact reads_alternative (by decide) (reads_bool b).bind_pure
  | float x => exact reads_alternative (by decide) (reads_floating x).bind_pure
  | double x => exact reads_alternative (by decide) (reads_floating x).bind_pure
  | decimal unscaled precision scale =>
    rw [writeValue, List.append_assoc, List.append_assoc]
    exact reads_alternative (by decide)
      ((reads_word unscaled).bind ((reads_word precision).bind (reads_word scale).bind_pure))
  | bytes b => exact reads_alternative (by decide) (reads_write_right hlen).bind_pure
  | text s => exact reads_alternative (by decide) (reads_write_right hlen).bind_pure
  | date days => exact reads_alternative (by decide) (reads_word days).bind_pure
  | datetime seconds => exact reads_alternative (by decide) (reads_word seconds).bind_pure
  | timestamp micros => exact reads_alternative (by decide) (reads_word micros).bind_pure
  | interval micros => exact reads_alternative (by decide) (reads_word micros).bind_pure
  | uuid n => exact reads_alternative (by decide) (reads_word n).bind_pure

theorem inverts_readValue (depth : Nat) : Inverts (readValue depth) writeValue fun _ => True := by
  induction depth with
  | zero =>
    intro input v rest h _
    cases h
  | succ depth ih =>
    intro input v rest hread _
    obtain ⟨n, middle, hcount, h⟩ := run_bind_eq_ok_iff.mp hread
    obtain ⟨rfl, -⟩ := readCount_eq_ok hcount
    split at h
    · next kind hkind =>
      obtain ⟨w, middle', hw, h⟩ := run_bind_eq_ok_iff.mp h
      cases h
      rw [eq_write_append hw, intKind?_eq_some_iff.mp hkind]
      simp only [writeValue, alternative, List.append_assoc]
    · split at h
      case h_4 =>
        obtain ⟨unscaled, middle₁, hu, h⟩ := run_bind_eq_ok_iff.mp h
        obtain ⟨precision, middle₂, hp, h⟩ := run_bind_eq_ok_iff.mp h
        obtain ⟨scale, middle₃, hs, h⟩ := run_bind_eq_ok_iff.mp h
        cases h
        rw [eq_write_append hu, eq_write_append hp, eq_write_append hs]
        simp only [writeValue, alternative, List.append_assoc]
      case h_12 =>
        obtain ⟨o, middle', ho, h⟩ := run_bind_eq_ok_iff.mp h
        have hform := inverts_readOption ih ho fun _ _ => trivial
        split at h <;> cases h <;> rw [hform] <;>
          simp only [writeValue, alternative, List.append_assoc, List.cons_append]
      case h_13 => cases h
      all_goals
        obtain ⟨a, middle', ha, h⟩ := run_bind_eq_ok_iff.mp h
        cases h
        rw [eq_write_append ha]
        simp only [writeValue, alternative, List.append_assoc]

instance : SizedWire Value where
  length_write_pos v := by
    have hlen : 4 ≤ (writeValue v).length := by
      cases v <;> simp only [writeValue, List.length_append, length_alternative] <;> omega
    exact Nat.lt_of_lt_of_le (by decide) hlen

instance : LawfulWire Value :=
  ⟨fun v hlen => reads_of_depth fun depth h => reads_readValue v depth hlen h⟩

instance : CanonicalWire Value := ⟨inverts_of_depth inverts_readValue⟩

/-! ### Engine values -/

instance : SizedWire Scalar where
  length_write_pos v := by
    have hlen : 4 ≤ (writeScalar v).length := by
      cases v <;> simp only [writeScalar, List.length_append, length_alternative] <;> omega
    exact Nat.lt_of_lt_of_le (by decide) hlen

theorem reads_readScalar (v : Scalar) (hlen : (writeScalar v).length < byteLimit) :
    Reads readScalar (writeScalar v) v := by
  cases v with
  | null => exact reads_alternative_pure (by decide) rfl
  | boolean b => exact reads_alternative (by decide) (reads_bool b).bind_pure
  | int kind n =>
    have := index_lt kind
    refine reads_alternative (by omega) ?_
    rw [intKind?_add_index]
    exact (reads_word n).bind_pure
  | float32 x => exact reads_alternative (by decide) (reads_floating x).bind_pure
  | float64 x => exact reads_alternative (by decide) (reads_floating x).bind_pure
  | decimal unscaled precision scale =>
    rw [writeScalar, List.append_assoc, List.append_assoc]
    exact reads_alternative (by decide)
      ((reads_word unscaled).bind ((reads_word precision).bind (reads_word scale).bind_pure))
  | utf8 s => exact reads_alternative (by decide) (reads_write_right hlen).bind_pure
  | binary b => exact reads_alternative (by decide) (reads_write_right hlen).bind_pure
  | date days => exact reads_alternative (by decide) (reads_word days).bind_pure
  | timestamp micros => exact reads_alternative (by decide) (reads_word micros).bind_pure
  | duration micros => exact reads_alternative (by decide) (reads_word micros).bind_pure

theorem inverts_readScalar : Inverts readScalar writeScalar fun _ => True := by
  intro input v rest hread _
  obtain ⟨n, middle, hcount, h⟩ := run_bind_eq_ok_iff.mp hread
  obtain ⟨rfl, -⟩ := readCount_eq_ok hcount
  split at h
  · next kind hkind =>
    obtain ⟨w, middle', hw, h⟩ := run_bind_eq_ok_iff.mp h
    cases h
    rw [eq_write_append hw, intKind?_eq_some_iff.mp hkind]
    simp only [writeScalar, alternative, List.append_assoc]
  · split at h
    case h_1 =>
      cases h
      rfl
    case h_5 =>
      obtain ⟨unscaled, middle₁, hu, h⟩ := run_bind_eq_ok_iff.mp h
      obtain ⟨precision, middle₂, hp, h⟩ := run_bind_eq_ok_iff.mp h
      obtain ⟨scale, middle₃, hs, h⟩ := run_bind_eq_ok_iff.mp h
      cases h
      rw [eq_write_append hu, eq_write_append hp, eq_write_append hs]
      simp only [writeScalar, alternative, List.append_assoc]
    case h_11 => cases h
    all_goals
      obtain ⟨a, middle', ha, h⟩ := run_bind_eq_ok_iff.mp h
      cases h
      rw [eq_write_append ha]
      simp only [writeScalar, alternative, List.append_assoc]

instance : LawfulWire Scalar := ⟨reads_readScalar⟩

instance : CanonicalWire Scalar := ⟨inverts_readScalar⟩

/-! ### Key ranges -/

instance : SizedWire KeyBound where
  length_write_pos b := by
    have := length_write_pos b.values
    show 0 < (write b.values ++ write b.inclusive ++ write b.unrestricted).length
    rw [List.length_append, List.length_append]
    omega

instance : LawfulWire KeyBound where
  reads_write b hlen := by
    have hform : write b = write b.values ++ (write b.inclusive ++ write b.unrestricted) :=
      List.append_assoc ..
    rw [hform] at hlen ⊢
    exact (reads_write_left hlen).bind
      ((reads_bool b.inclusive).bind (reads_bool b.unrestricted).bind_pure)

instance : CanonicalWire KeyBound where
  inverts_read := by
    intro input b rest hread _
    obtain ⟨values, middle₁, hv, h⟩ := run_bind_eq_ok_iff.mp hread
    obtain ⟨inclusive, middle₂, hi, h⟩ := run_bind_eq_ok_iff.mp h
    obtain ⟨unrestricted, middle₃, hu, h⟩ := run_bind_eq_ok_iff.mp h
    cases h
    rw [eq_write_append hv, eq_write_append hi, eq_write_append hu, ← List.append_assoc,
      ← List.append_assoc]
    rfl

instance : SizedWire KeyRange where
  length_write_pos r := by
    have := length_write_pos r.lower
    show 0 < (write r.lower ++ write r.upper).length
    rw [List.length_append]
    omega

instance : LawfulWire KeyRange where
  reads_write r hlen := by
    have hlen : (write r.lower ++ write r.upper).length < byteLimit := hlen
    exact (reads_write_left hlen).bind (reads_write_right hlen).bind_pure

instance : CanonicalWire KeyRange where
  inverts_read := by
    intro input r rest hread _
    obtain ⟨lower, middle, hl, h⟩ := run_bind_eq_ok_iff.mp hread
    obtain ⟨upper, middle', hu, h⟩ := run_bind_eq_ok_iff.mp h
    cases h
    rw [eq_write_append hl, eq_write_append hu, ← List.append_assoc]
    rfl

end Wire
end ShardScan
