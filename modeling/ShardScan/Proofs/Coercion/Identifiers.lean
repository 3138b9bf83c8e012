import ShardScan.Coercion.Values
import ShardScan.Proofs.Text.Hexadecimal
import ShardScan.Proofs.Value.Rank

/-!
# Identifiers and their texts

The text of an identifier has all of its digits in lower case and hyphens in
fixed places.  Hyphens in the same places do not count in a comparison, so these
texts are ordered as the identifiers are, and each reads back.  Of the other
spellings of an identifier only the second is true.

## Main definitions

* `hyphenated` — digits with the hyphens of an identifier between them.

## Main results

* `compareText_uuidText` — the texts of identifiers are ordered as the identifiers.
* `parseUuid?_uuidText` — an identifier reads back from its text.
-/

namespace ShardScan

open Text (codes hexDigits isBlank trim)

/-- Digits with hyphens after 8, 12, 16 and 20 of them. -/
def hyphenated (hex : List Char) : List Char :=
  (hex.drop 0).take 8 ++ '-' :: ((hex.drop 8).take 4 ++ '-' :: ((hex.drop 12).take 4 ++
    '-' :: ((hex.drop 16).take 4 ++ '-' :: (hex.drop 20).take 12)))

theorem toNat_lt_size (n : Word .u128) : n.val.toNat < 16 ^ 32 := by
  have held : 0 ≤ n.val ∧ n.val < 0 + (WordFormat.u128.size : Nat) := n.holds
  have hsize : WordFormat.u128.size = 16 ^ 32 := by decide
  omega

/-- The text of an identifier in its digits. -/
theorem uuidText_eq (n : Word .u128) :
    uuidText n = String.ofList (hyphenated (hexDigits 32 n.val.toNat)) := by
  rw [uuidText, Text.paddedHex_eq_hexDigits (by decide) (toNat_lt_size n)]
  simp [hyphenated]

/-! ### The order of identifiers -/

section Order

variable {a b : List Char} (hlength : a.length = b.length)

include hlength

theorem length_codes_part (start size : Nat) :
    (codes ((a.drop start).take size)).length = (codes ((b.drop start).take size)).length := by
  simp [Text.length_codes, hlength]

/-- Some characters are looked at before those behind them. -/
theorem compare_part (start size : Nat) :
    compare (codes (a.drop start)) (codes (b.drop start)) =
      (compare (codes ((a.drop start).take size)) (codes ((b.drop start).take size))).then
        (compare (codes (a.drop (start + size))) (codes (b.drop (start + size)))) := by
  rw [← Text.compare_append (length_codes_part hlength start size), ← Text.codes_append,
    ← Text.codes_append, ← List.drop_drop, ← List.drop_drop, List.take_append_drop,
    List.take_append_drop]

/-- A hyphen behind them does not count. -/
theorem compare_part_hyphen (start size : Nat) (c d : List Char) :
    compare (codes ((a.drop start).take size ++ '-' :: c))
        (codes ((b.drop start).take size ++ '-' :: d)) =
      (compare (codes ((a.drop start).take size)) (codes ((b.drop start).take size))).then
        (compare (codes c) (codes d)) := by
  rw [Text.codes_append, Text.codes_append,
    Text.compare_append (length_codes_part hlength start size), Text.codes_cons, Text.codes_cons,
    List.compare_cons_cons, Std.ReflOrd.compare_self]
  rfl

/-- Digits are ordered as they are without the hyphens. -/
theorem compare_hyphenated (hsize : a.length = 32) :
    compare (codes (hyphenated a)) (codes (hyphenated b)) = compare (codes a) (codes b) := by
  have ha : (a.drop 20).take 12 = a.drop 20 := List.take_of_length_le (by simp [hsize])
  have hb : (b.drop 20).take 12 = b.drop 20 := List.take_of_length_le (by simp [← hlength, hsize])
  show _ = compare (codes (a.drop 0)) (codes (b.drop 0))
  rw [hyphenated, hyphenated, ha, hb, compare_part_hyphen hlength, compare_part_hyphen hlength,
    compare_part_hyphen hlength, compare_part_hyphen hlength, compare_part hlength 0 8,
    compare_part hlength 8 4, compare_part hlength 12 4, compare_part hlength 16 4]

end Order

/-- **The texts of identifiers are ordered as the identifiers.** -/
theorem compareText_uuidText (m n : Word .u128) :
    Text.compareText (uuidText m) (uuidText n) = m.cmp n := by
  have hm : (m.val.toNat : Int) = m.val := Int.toNat_of_nonneg m.holds.1
  have hn : (n.val.toNat : Int) = n.val := Int.toNat_of_nonneg n.holds.1
  rw [Text.compareText_eq_compare, uuidText_eq, uuidText_eq, String.toList_ofList,
    String.toList_ofList, compare_hyphenated (by simp) (by simp),
    Text.compare_hexDigits (toNat_lt_size m) (toNat_lt_size n), ← compare_toInt, hm, hn, Word.cmp]

/-! ### Reading back -/

theorem trim_eq_self {s : List Char} (h : ∀ c ∈ s, isBlank c = false) : trim s = s := by
  have hdrop : ∀ s : List Char, (∀ c ∈ s, isBlank c = false) → s.dropWhile isBlank = s := by
    intro s h
    cases s with
    | nil => rfl
    | cons c s => rw [List.dropWhile_cons_of_neg (by simp [h c List.mem_cons_self])]
  rw [trim, Text.trimStart, hdrop s h, Text.dropEndWhile,
    hdrop s.reverse fun c hc => h c (List.mem_reverse.mp hc), List.reverse_reverse]

theorem mem_hyphenated {hex : List Char} {c : Char} (h : c ∈ hyphenated hex) :
    c ∈ hex ∨ c = '-' := by
  simp only [hyphenated, List.mem_append, List.mem_cons] at h
  rcases h with h | rfl | h | rfl | h | rfl | h | rfl | h
  all_goals
    first
    | exact .inr rfl
    | exact .inl (List.mem_of_mem_drop (List.mem_of_mem_take h))

/-- Without its hyphens a text has the digits that it was made of. -/
theorem filter_hyphenated {hex : List Char} (hsize : hex.length = 32) (h : '-' ∉ hex) :
    (hyphenated hex).filter (· ≠ '-') = hex := by
  have hpart : ∀ start size, ((hex.drop start).take size).filter (· ≠ '-') =
      (hex.drop start).take size := by
    intro start size
    rw [List.filter_eq_self]
    intro c hc
    have hmem := List.mem_of_mem_drop (List.mem_of_mem_take hc)
    exact decide_eq_true fun heq => h (heq ▸ hmem)
  have hlast : (hex.drop 20).take 12 = hex.drop 20 := List.take_of_length_le (by simp [hsize])
  have hstep : ∀ start size (s : List Char),
      ((hex.drop start).take size ++ '-' :: s).filter (· ≠ '-') =
        (hex.drop start).take size ++ s.filter (· ≠ '-') := by
    intro start size s
    rw [List.filter_append, hpart, List.filter_cons_of_neg (by simp)]
  have hjoin : ∀ start size next, start + size = next →
      (hex.drop start).take size ++ hex.drop next = hex.drop start := by
    rintro start size next rfl
    rw [← List.drop_drop, List.take_append_drop]
  rw [hyphenated, hstep, hstep, hstep, hstep, hpart, hlast, hjoin 16 4 20 rfl, hjoin 12 4 16 rfl,
    hjoin 8 4 12 rfl, hjoin 0 8 8 rfl, List.drop_zero]

/-- The digits of an identifier are no white space, no hyphens and no plus signs. -/
theorem plain_hexDigits {width n : Nat} {c : Char} (h : c ∈ hexDigits width n) :
    isBlank c = false ∧ c ≠ '-' ∧ c ≠ '+' := by
  have hdigits : ∀ d < 16, isBlank (Nat.digitChar d) = false ∧ Nat.digitChar d ≠ '-' ∧
      Nat.digitChar d ≠ '+' := by decide
  obtain ⟨d, hd, rfl⟩ := Text.mem_hexDigits h
  exact hdigits d hd

/-- **An identifier reads back from its text.** -/
theorem parseUuid?_uuidText (n : Word .u128) : parseUuid? (uuidText n) = some n := by
  have hblank : ∀ c ∈ hyphenated (hexDigits 32 n.val.toNat), isBlank c = false := by
    intro c hc
    rcases mem_hyphenated hc with hdigit | rfl
    · exact (plain_hexDigits hdigit).1
    · decide
  have hhyphen : '-' ∉ hexDigits 32 n.val.toNat := fun h => (plain_hexDigits h).2.1 rfl
  have hplus : (hexDigits 32 n.val.toNat).head? ≠ some '+' := fun h =>
    (plain_hexDigits (List.mem_of_mem_head? h)).2.2 rfl
  have hvalue : ((n.val.toNat : Nat) : Int) = n.val := Int.toNat_of_nonneg n.holds.1
  rw [parseUuid?, uuidText_eq, String.toList_ofList, trim_eq_self hblank,
    filter_hyphenated (Text.length_hexDigits ..) hhyphen]
  dsimp only
  rw [if_pos (Text.length_hexDigits ..), if_neg hplus, Text.ofHex?_hexDigits (toNat_lt_size n),
    Option.bind_some, hvalue, Word.ofInt?_val]

end ShardScan
