/-!
# Bytes and text

The UTF-8 bytes of a text, the text of some bytes, and the order of byte
strings, in which texts are compared too.
-/

namespace ShardScan.Text

/-- The UTF-8 bytes of a text. -/
def utf8 (s : String) : List UInt8 := s.toByteArray.data.toList

/-- The text that some bytes are the UTF-8 form of. -/
def ofUtf8? (bytes : List UInt8) : Option String :=
  String.fromUTF8? ⟨bytes.toArray⟩

@[simp]
theorem ofUtf8?_utf8 (s : String) : ofUtf8? (utf8 s) = some s := by
  have : (⟨s.toByteArray.data.toList.toArray⟩ : ByteArray) = s.toByteArray := by simp
  unfold ofUtf8? utf8 String.fromUTF8?
  rw [this, dif_pos s.isValidUTF8]
  rfl

theorem ofUtf8?_eq_some_iff {bytes : List UInt8} {s : String} :
    ofUtf8? bytes = some s ↔ utf8 s = bytes := by
  constructor
  · intro h
    unfold ofUtf8? String.fromUTF8? at h
    split at h
    · rw [← Option.some.inj h]
      rfl
    · simp at h
  · rintro rfl
    exact ofUtf8?_utf8 s

/-- The order of byte strings: by the first byte that differs, and a beginning before the whole. -/
def compareBytes : List UInt8 → List UInt8 → Ordering
  | [], [] => .eq
  | [], _ :: _ => .lt
  | _ :: _, [] => .gt
  | a :: as, b :: bs => (compare a.toNat b.toNat).then (compareBytes as bs)

/-- The order of texts: that of their UTF-8 bytes. -/
def compareText (a b : String) : Ordering := compareBytes (utf8 a) (utf8 b)

end ShardScan.Text
