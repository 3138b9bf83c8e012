/-!
# Fixed beginnings and ends

A text without a given beginning or a given last character, and a text cut in
two at the first occurrence of a character.
-/

namespace ShardScan.Text

/-- What follows `opening`, if the text begins with it. -/
def after? : List Char → List Char → Option (List Char)
  | [], s => some s
  | _ :: _, [] => none
  | c :: opening, d :: s => if c = d then after? opening s else none

/-- What precedes `closing`, if the text ends with it. -/
def before? (closing : Char) (s : List Char) : Option (List Char) :=
  if s.getLast? = some closing then some s.dropLast else none

/-- The parts before and after the first `c`. -/
def cutAt? (c : Char) : List Char → Option (List Char × List Char)
  | [] => none
  | d :: s => if d = c then some ([], s) else (cutAt? c s).map fun (a, b) => (d :: a, b)

theorem after?_eq_some_iff {opening s rest : List Char} :
    after? opening s = some rest ↔ s = opening ++ rest := by
  induction opening generalizing s with
  | nil => simp [after?, eq_comm]
  | cons c opening ih =>
    cases s with
    | nil => simp [after?]
    | cons d s =>
      by_cases h : c = d
      · simp [after?, h, ih]
      · simp [after?, h, Ne.symm h]

theorem before?_eq_some_iff {closing : Char} {s rest : List Char} :
    before? closing s = some rest ↔ s = rest ++ [closing] := by
  unfold before?
  constructor
  · intro h
    split at h
    · next last =>
      obtain ⟨_, rfl⟩ := List.getLast?_eq_some_iff.mp last
      simpa using h
    · simp at h
  · rintro rfl
    simp

@[simp]
theorem after?_append (opening rest : List Char) : after? opening (opening ++ rest) = some rest :=
  after?_eq_some_iff.mpr rfl

@[simp]
theorem before?_append_singleton (closing : Char) (rest : List Char) :
    before? closing (rest ++ [closing]) = some rest :=
  before?_eq_some_iff.mpr rfl

/-- A text is cut at the first occurrence of a character. -/
theorem cutAt?_append {c : Char} {s : List Char} (h : c ∉ s) (rest : List Char) :
    cutAt? c (s ++ c :: rest) = some (s, rest) := by
  induction s with
  | nil => simp [cutAt?]
  | cons d s ih =>
    rw [List.mem_cons, not_or] at h
    obtain ⟨hd, hs⟩ := h
    rw [List.cons_append, cutAt?, if_neg (Ne.symm hd), ih hs]
    rfl

theorem length_lt_of_before? {closing : Char} {s rest : List Char}
    (h : before? closing s = some rest) : rest.length < s.length := by
  rw [before?_eq_some_iff.mp h]
  simp

theorem length_le_of_after? {opening s rest : List Char}
    (h : after? opening s = some rest) : rest.length ≤ s.length := by
  rw [after?_eq_some_iff.mp h]
  simp

end ShardScan.Text
