import ShardScan.Text.Bytes
import Mathlib.Data.List.Basic

/-!
# The order of byte strings and texts

Byte strings are ordered by the first byte that differs.  The encoding of
characters is such that texts, as byte strings, are ordered by the first
character that differs.

## Main definitions

* `codes` — the code points of characters.

## Main results

* `compareBytes_swap` — byte strings compared the other way round.
* `compareBytes_encode_lt` — a lesser character makes a lesser byte string, whatever follows.
* `compareBytes_append_left` — a common beginning does not count.
* `compareText_eq_compare` — texts are ordered as the lists of their code points.
-/

namespace ShardScan.Text

/-! ### Byte strings -/

@[simp] theorem compareBytes_self (a : List UInt8) : compareBytes a a = .eq := by
  induction a with
  | nil => rfl
  | cons x a ih => simp [compareBytes, ih]

theorem compareBytes_swap (a b : List UInt8) : (compareBytes a b).swap = compareBytes b a := by
  induction a generalizing b with
  | nil => cases b <;> rfl
  | cons x a ih =>
    cases b with
    | nil => rfl
    | cons y b => rw [compareBytes, compareBytes, Ordering.swap_then, ih, Nat.compare_swap]

/-- A common beginning does not count. -/
@[simp] theorem compareBytes_append_left (a b c : List UInt8) :
    compareBytes (a ++ b) (a ++ c) = compareBytes b c := by
  induction a with
  | nil => rfl
  | cons x a ih => simp [compareBytes, ih]

/-- A byte string is not below its beginnings. -/
theorem compareBytes_append_ne_lt (a b : List UInt8) : compareBytes (a ++ b) a ≠ .lt := by
  have h := compareBytes_append_left a b []
  rw [List.append_nil] at h
  rw [h]
  cases b <;> simp [compareBytes]

/-! ### Characters -/

/-- One byte after the other: the first that differ decide. -/
theorem compareBytes_ofNat_cons_lt {m n : Nat} (hm : m < 256) (hn : n < 256) (a b : List UInt8) :
    compareBytes (UInt8.ofNat m :: a) (UInt8.ofNat n :: b) = .lt ↔
      m < n ∨ m = n ∧ compareBytes a b = .lt := by
  have hm' : (UInt8.ofNat m).toNat = m := by
    rw [UInt8.toNat_ofNat']
    omega
  have hn' : (UInt8.ofNat n).toNat = n := by
    rw [UInt8.toNat_ofNat']
    omega
  rw [compareBytes, hm', hn', Ordering.then_eq_lt, Nat.compare_eq_lt, Nat.compare_eq_eq]

/-- **A lesser character makes a lesser byte string**, whatever follows.  The first byte tells how
many there are, and more bytes stand for greater characters. -/
theorem compareBytes_encode_lt {c d : Char} (h : c.toNat < d.toNat) (r s : List UInt8) :
    compareBytes (String.utf8EncodeChar c ++ r) (String.utf8EncodeChar d ++ s) = .lt := by
  have hd : d.toNat < 0x110000 := by
    rcases d.valid with hd | hd
    · exact Nat.lt_trans hd (by decide)
    · exact hd.2
  have hc : c.toNat < 0x110000 := Nat.lt_trans h hd
  have hcv : c.val.toNat = c.toNat := rfl
  have hdv : d.val.toNat = d.toNat := rfl
  simp only [String.utf8EncodeChar, hcv, hdv]
  generalize c.toNat = m at *
  generalize d.toNat = n at *
  -- In base 64, some digit is less and those above it agree.
  have h₁ : m / 64 < n / 64 ∨ m / 64 = n / 64 ∧ m % 64 < n % 64 := by omega
  have h₂ : m / 4096 < n / 4096 ∨ m / 4096 = n / 4096 ∧
      (m / 64 % 64 < n / 64 % 64 ∨ m / 64 % 64 = n / 64 % 64 ∧ m % 64 < n % 64) := by omega
  have h₃ : m / 262144 < n / 262144 ∨ m / 262144 = n / 262144 ∧
      (m / 4096 % 64 < n / 4096 % 64 ∨ m / 4096 % 64 = n / 4096 % 64 ∧
        (m / 64 % 64 < n / 64 % 64 ∨ m / 64 % 64 = n / 64 % 64 ∧ m % 64 < n % 64)) := by
    omega
  have hm : m / 262144 % 8 = m / 262144 := by omega
  have hn : n / 262144 % 8 = n / 262144 := by omega
  repeat' split
  all_goals
    simp (disch := omega) only [List.cons_append, List.nil_append, compareBytes_ofNat_cons_lt, hm,
      hn]
    omega

/-! ### Texts -/

/-- The bytes of a text are those of its characters. -/
theorem utf8_eq (s : String) : utf8 s = s.toList.flatMap String.utf8EncodeChar := by
  rw [utf8, ← String.utf8Encode_toList, List.utf8Encode, List.toList_data_toByteArray]

/-- A text is not below its beginnings. -/
theorem compareText_ne_lt_of_begins {s t : String} (h : s.toList <+: t.toList) :
    compareText t s ≠ .lt := by
  obtain ⟨rest, hrest⟩ := h
  rw [compareText, utf8_eq, utf8_eq, ← hrest, List.flatMap_append]
  exact compareBytes_append_ne_lt _ _

/-- Texts that first differ in one character are ordered as that character. -/
theorem compareText_lt {s t : String} {front rest rest' : List Char} {c d : Char}
    (hs : s.toList = front ++ c :: rest) (ht : t.toList = front ++ d :: rest')
    (h : c.toNat < d.toNat) : compareText s t = .lt := by
  rw [compareText, utf8_eq, utf8_eq, hs, ht, List.flatMap_append, List.flatMap_append,
    compareBytes_append_left, List.flatMap_cons, List.flatMap_cons]
  exact compareBytes_encode_lt h _ _

theorem compareText_swap (s t : String) : (compareText s t).swap = compareText t s :=
  compareBytes_swap _ _

/-! ### Code points -/

/-- The code points of characters. -/
def codes (s : List Char) : List Nat := s.map Char.toNat

@[simp] theorem codes_append (s t : List Char) : codes (s ++ t) = codes s ++ codes t :=
  List.map_append

@[simp] theorem codes_cons (c : Char) (s : List Char) : codes (c :: s) = c.toNat :: codes s := rfl

theorem length_codes (s : List Char) : (codes s).length = s.length := List.length_map ..

theorem codes_inj {s t : List Char} : codes s = codes t ↔ s = t :=
  List.map_inj_right fun _ _ => Char.toNat_inj.mp

/-- **Texts are ordered as the lists of their code points.** -/
theorem compareText_eq_compare (s t : String) :
    compareText s t = compare (codes s.toList) (codes t.toList) := by
  rw [compareText, utf8_eq, utf8_eq]
  generalize s.toList = a
  generalize t.toList = b
  induction a generalizing b with
  | nil =>
    cases b with
    | nil => rfl
    | cons d b =>
      obtain ⟨byte, rest, hbytes⟩ :=
        List.exists_cons_of_ne_nil (String.utf8EncodeChar_ne_nil (c := d))
      rw [List.flatMap_cons, hbytes]
      rfl
  | cons c a ih =>
    cases b with
    | nil =>
      obtain ⟨byte, rest, hbytes⟩ :=
        List.exists_cons_of_ne_nil (String.utf8EncodeChar_ne_nil (c := c))
      rw [List.flatMap_cons, hbytes]
      rfl
    | cons d b =>
      rw [List.flatMap_cons, List.flatMap_cons, codes_cons, codes_cons, List.compare_cons_cons]
      rcases Nat.lt_trichotomy c.toNat d.toNat with hlt | heq | hgt
      · rw [compareBytes_encode_lt hlt, Nat.compare_eq_lt.mpr hlt]
        rfl
      · rw [Char.toNat_inj.mp heq, compareBytes_append_left, ih, Nat.compare_eq_eq.mpr rfl]
        rfl
      · rw [← compareBytes_swap, compareBytes_encode_lt hgt, Nat.compare_eq_gt.mpr hgt]
        rfl

theorem compareText_eq_eq_iff {s t : String} : compareText s t = .eq ↔ s = t := by
  rw [compareText_eq_compare, Std.LawfulEqOrd.compare_eq_iff_eq, codes_inj, String.toList_inj]

/-- Lists of one length each before others are ordered before those are looked at. -/
theorem compare_append {α : Type} [Ord α] {a b : List α} (h : a.length = b.length)
    (c d : List α) : compare (a ++ c) (b ++ d) = (compare a b).then (compare c d) := by
  induction a generalizing b with
  | nil =>
    cases b with
    | nil => rfl
    | cons => cases h
  | cons x a ih =>
    cases b with
    | nil => cases h
    | cons y b =>
      rw [List.cons_append, List.cons_append, List.compare_cons_cons, List.compare_cons_cons,
        ih (Nat.succ.inj h), Ordering.then_assoc]

end ShardScan.Text
