/-!
# Pieces of a text

A text cut at every occurrence of a character, and the test for one text inside
another.
-/

namespace ShardScan.Text

/-- The parts between the occurrences of `c`; a text without `c` is its only part. -/
def pieces (c : Char) : List Char → List (List Char)
  | [] => [[]]
  | d :: s =>
    if d = c then [] :: pieces c s
    else
      match pieces c s with
      | [] => [[d]]
      | part :: rest => (d :: part) :: rest

example : pieces ',' "a,,b".toList = [['a'], [], ['b']] := by decide

/-- A text without the separator is its only piece. -/
theorem pieces_of_notMem {c : Char} {s : List Char} (h : c ∉ s) : pieces c s = [s] := by
  induction s with
  | nil => rfl
  | cons d s ih =>
    rw [List.mem_cons, not_or] at h
    rw [pieces, if_neg (Ne.symm h.1), ih h.2]

/-- The first piece ends at the first separator. -/
theorem pieces_append {c : Char} {s : List Char} (h : c ∉ s) (rest : List Char) :
    pieces c (s ++ c :: rest) = s :: pieces c rest := by
  induction s with
  | nil => rw [List.nil_append, pieces, if_pos rfl]
  | cons d s ih =>
    rw [List.mem_cons, not_or] at h
    rw [List.cons_append, pieces, if_neg (Ne.symm h.1), ih h.2]

/-- Texts without the separator are the pieces of what they are joined to. -/
theorem pieces_intercalate {c : Char} {parts : List (List Char)} (hne : parts ≠ [])
    (h : ∀ part ∈ parts, c ∉ part) : pieces c ([c].intercalate parts) = parts := by
  induction parts with
  | nil => exact absurd rfl hne
  | cons part parts ih =>
    have hpart := h part List.mem_cons_self
    cases parts with
    | nil => rw [List.intercalate_singleton, pieces_of_notMem hpart]
    | cons next rest =>
      rw [List.intercalate_cons_cons, List.append_assoc, List.singleton_append,
        pieces_append hpart, ih (List.cons_ne_nil _ _)]
      exact fun part' hpart' => h part' (List.mem_cons_of_mem _ hpart')

/-- The first text occurs in the second. -/
def occursIn (part : List Char) : List Char → Bool
  | [] => part.isEmpty
  | c :: s => part.isPrefixOf (c :: s) || occursIn part s

theorem occursIn_iff {part s : List Char} : occursIn part s = true ↔ part <:+: s := by
  induction s with
  | nil => simp [occursIn]
  | cons c s ih => simp [occursIn, ih, List.infix_cons_iff]

end ShardScan.Text
