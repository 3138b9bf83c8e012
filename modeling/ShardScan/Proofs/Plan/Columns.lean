import ShardScan.Proofs.Plan.Predicates

/-!
# The literals around a column

Comparisons are folded into two literals between which the column has to lie.
Every comparison that holds keeps the column there: whichever of two literals
is kept, both were bounds, and an equality makes both ends equal to the column.

## Main definitions

* `ColumnRange.Admits` — a value lies between the literals, and is equal to both if pinned.

## Main results

* `ColumnRange.admits_narrow` — a comparison that holds of an admitted value leaves it admitted.
* `ColumnRange.admits_ofPredicates` — a row of which predicates hold has its columns admitted.
* `compareText_prefixSuccessor` — a text is below the successor of each of its beginnings.
-/

namespace ShardScan

/-! ### Texts with a common beginning -/

theorem nextChar?_lt {c d : Char} (h : nextChar? c = some d) : c.toNat < d.toNat := by
  unfold nextChar? at h
  dsimp only at h
  split at h
  · next hgap =>
    cases h
    have : (Char.ofNat 0xe000).toNat = 0xe000 := by decide
    omega
  · split at h
    · next hvalid =>
      cases h
      have : (Char.ofNat (c.toNat + 1)).toNat = c.toNat + 1 := by
        rw [Char.ofNat, dif_pos hvalid]
        rfl
      omega
    · cases h

/-- **A text lies below the successor of each of its beginnings.** -/
theorem compareText_prefixSuccessor {s t : String} {next : List Char}
    (hnext : prefixSuccessor? s.toList = some next) (hbegins : s.toList <+: t.toList) :
    Text.compareText t (String.ofList next) = .lt := by
  simp only [prefixSuccessor?, Option.bind_eq_bind, Option.bind_eq_some_iff] at hnext
  obtain ⟨last, hlast, d, hd, hform⟩ := hnext
  cases hform
  obtain ⟨rest, hrest⟩ := hbegins
  obtain ⟨front, hfront⟩ := List.getLast?_eq_some_iff.mp hlast
  have ht : t.toList = front ++ last :: rest := by
    rw [← hrest, hfront, List.append_assoc, List.singleton_append]
  have hs : (String.ofList (s.toList.dropLast ++ [d])).toList = front ++ d :: [] := by
    rw [String.toList_ofList, hfront, List.dropLast_concat]
  exact Text.compareText_lt ht hs (nextChar?_lt hd)

/-! ### Bounds of one column -/

namespace Scalar

/-- The literal is no bound, or the value is not below it. -/
def AboveOrEq (v l : Scalar) : Prop := l = .null ∨ ∃ o, v.exactCmp l = some o ∧ o ≠ .lt

/-- The literal is no bound, or the value is not above it. -/
def BelowOrEq (v l : Scalar) : Prop := l = .null ∨ ∃ o, v.exactCmp l = some o ∧ o ≠ .gt

/-- The value and the literal are equal, or both NULL. -/
def Matches (v l : Scalar) : Prop := v.exactCmp l = some .eq ∨ l = .null ∧ v = .null

theorem Matches.aboveOrEq {v l : Scalar} (h : v.Matches l) : v.AboveOrEq l := by
  rcases h with h | h
  · exact .inr ⟨.eq, h, nofun⟩
  · exact .inl h.1

theorem Matches.belowOrEq {v l : Scalar} (h : v.Matches l) : v.BelowOrEq l := by
  rcases h with h | h
  · exact .inr ⟨.eq, h, nofun⟩
  · exact .inl h.1

/-- The order of a comparison whose literal stands first, seen from the column. -/
theorem exactCmp_of_swap {v l : Scalar} {o : Ordering} (h : l.exactCmp v = some o) :
    v.exactCmp l = some o.swap := by
  rw [← exactCmp_swap, h]
  rfl

end Scalar

namespace ColumnRange

/-- The value lies between the literals, and is equal to both if they pin it. -/
structure Admits (r : ColumnRange) (v : Scalar) : Prop where
  lower : v.AboveOrEq r.lower
  upper : v.BelowOrEq r.upper
  pinned : r.pinned = true → v.Matches r.lower ∧ v.Matches r.upper

theorem admits_unknown (v : Scalar) : unknown.Admits v := ⟨.inl rfl, .inl rfl, nofun⟩

theorem tightenLower_eq (slot l : Scalar) : tightenLower slot l = slot ∨ tightenLower slot l = l := by
  unfold tightenLower
  repeat' split
  all_goals simp

theorem tightenUpper_eq (slot l : Scalar) : tightenUpper slot l = slot ∨ tightenUpper slot l = l := by
  unfold tightenUpper
  repeat' split
  all_goals simp

section Narrow

variable {r : ColumnRange} {v l : Scalar}

theorem admits_raise (hr : r.Admits v) (hfree : r.pinned = false) (hl : v.AboveOrEq l) :
    (r.raise l).Admits v := by
  refine ⟨?_, hr.upper, by simp [raise, hfree]⟩
  rcases tightenLower_eq r.lower l with h | h
  · rw [raise, h]
    exact hr.lower
  · rw [raise, h]
    exact hl

theorem admits_reduce (hr : r.Admits v) (hfree : r.pinned = false) (hl : v.BelowOrEq l) :
    (r.reduce l).Admits v := by
  refine ⟨hr.lower, ?_, by simp [reduce, hfree]⟩
  rcases tightenUpper_eq r.upper l with h | h
  · rw [reduce, h]
    exact hr.upper
  · rw [reduce, h]
    exact hl

theorem admits_pin (h : v.Matches l) : (⟨l, l, true⟩ : ColumnRange).Admits v :=
  ⟨h.aboveOrEq, h.belowOrEq, fun _ => ⟨h, h⟩⟩

/-- The texts with a beginning lie between it and its successor. -/
theorem admits_startsWith {s t : String} (hr : r.Admits (.utf8 t)) (hfree : r.pinned = false)
    (hbegins : s.toList <+: t.toList) : (r.narrow ⟨.startsWith, .utf8 s, false⟩).Admits (.utf8 t) := by
  rw [narrow, if_neg (by simp [hfree])]
  dsimp only
  split
  · next next hnext =>
    have hlower : (Scalar.utf8 t).AboveOrEq (.utf8 s) :=
      .inr ⟨_, rfl, Text.compareText_ne_lt_of_begins hbegins⟩
    have hupper : (Scalar.utf8 t).BelowOrEq (.utf8 (String.ofList next)) :=
      .inr ⟨.lt, congrArg some (compareText_prefixSuccessor hnext hbegins), nofun⟩
    exact admits_reduce (admits_raise hr hfree hlower) hfree hupper
  · exact hr

/-- **A comparison that holds of an admitted value leaves it admitted.** -/
theorem admits_narrow {c : Comparison} (hr : r.Admits v) (hc : ∀ p ∈ c.meaning? v, p) :
    (r.narrow c).Admits v := by
  unfold narrow
  split
  · exact hr
  · next hfree =>
    have hfree : r.pinned = false := by simpa using hfree
    obtain ⟨op, l, reversed⟩ := c
    -- With its operands exchanged a comparison bounds the column from the other side.
    cases op <;> cases reversed
    case eq.false => exact admits_pin (.inl (hc _ rfl))
    case eq.true => exact admits_pin (.inl (Scalar.exactCmp_of_swap (hc _ rfl)))
    case nullSafeEq.false => exact admits_pin (hc _ rfl)
    case nullSafeEq.true => exact admits_pin ((hc _ rfl).imp Scalar.exactCmp_of_swap id)
    case lt.false =>
      exact admits_reduce hr hfree (.inr ⟨.lt, hc _ rfl, nofun⟩)
    case lt.true =>
      exact admits_raise hr hfree (.inr ⟨.gt, Scalar.exactCmp_of_swap (hc _ rfl), nofun⟩)
    case ltEq.false =>
      rcases hc _ rfl with h | h
      · exact admits_reduce hr hfree (.inr ⟨.lt, h, nofun⟩)
      · exact admits_reduce hr hfree (.inr ⟨.eq, h, nofun⟩)
    case ltEq.true =>
      rcases hc _ rfl with h | h
      · exact admits_raise hr hfree (.inr ⟨.gt, Scalar.exactCmp_of_swap h, nofun⟩)
      · exact admits_raise hr hfree (.inr ⟨.eq, Scalar.exactCmp_of_swap h, nofun⟩)
    case gt.false =>
      exact admits_raise hr hfree (.inr ⟨.gt, hc _ rfl, nofun⟩)
    case gt.true =>
      exact admits_reduce hr hfree (.inr ⟨.lt, Scalar.exactCmp_of_swap (hc _ rfl), nofun⟩)
    case gtEq.false =>
      rcases hc _ rfl with h | h
      · exact admits_raise hr hfree (.inr ⟨.gt, h, nofun⟩)
      · exact admits_raise hr hfree (.inr ⟨.eq, h, nofun⟩)
    case gtEq.true =>
      rcases hc _ rfl with h | h
      · exact admits_reduce hr hfree (.inr ⟨.lt, Scalar.exactCmp_of_swap h, nofun⟩)
      · exact admits_reduce hr hfree (.inr ⟨.eq, Scalar.exactCmp_of_swap h, nofun⟩)
    case startsWith.false =>
      obtain ⟨s, t, rfl, rfl, hbegins⟩ := hc _ rfl
      have hnarrow := admits_startsWith hr hfree hbegins
      rwa [narrow, if_neg (by simp [hfree])] at hnarrow
    all_goals exact hr

/-- What the comparisons of a column leave of it admits every value of which they hold. -/
theorem admits_foldl_narrow {l : List Comparison} (hr : r.Admits v)
    (h : ∀ c ∈ l, ∀ p ∈ c.meaning? v, p) : (l.foldl narrow r).Admits v := by
  induction l generalizing r with
  | nil => exact hr
  | cons c rest ih =>
    rw [List.foldl_cons]
    exact ih (admits_narrow hr (h c List.mem_cons_self))
      fun c' hc' => h c' (List.mem_cons_of_mem c hc')

end Narrow

/-- **A row of which predicates hold has its key columns admitted.** -/
theorem admits_ofPredicates {keyColumns : List String} {row : String → Value} {free : Expr → Prop}
    {predicates : List Expr} (h : ∀ e ∈ predicates, e.AtomHolds keyColumns row free)
    {column : String} (hcolumn : column ∈ keyColumns) :
    (ofPredicates predicates column).Admits (row column).toEngine := by
  apply admits_foldl_narrow (admits_unknown _)
  intro c hc p hp
  obtain ⟨e, he, hof⟩ := List.mem_filterMap.mp hc
  exact Expr.meaning_of_atomHolds (h e he) hcolumn hof hp

end ColumnRange

end ShardScan
