/-!
# Outcomes

An outcome is a value or an error.  Where outcomes are put together, the whole
has a value if each of them has one, and fails where one of them fails.

## Main results

* `Except.bind_eq_ok_iff`, `Except.bind_eq_error_iff` — a step behind another.
* `mapM_cons_eq_ok`, `mapM_eq_ok_append` — passes over a list, as far as they have come.
* `mapM_eq_error_iff` — a pass fails at the first of the items that fails.
-/

namespace ShardScan

namespace Except

variable {ε ε' α β : Type}

theorem bind_eq_ok_iff {x : Except ε α} {f : α → Except ε β} {b : β} :
    (x >>= f) = .ok b ↔ ∃ a, x = .ok a ∧ f a = .ok b := by
  cases x with
  | error e => exact ⟨nofun, nofun⟩
  | ok a =>
    constructor
    · intro h
      exact ⟨a, rfl, h⟩
    · rintro ⟨a', ha, h⟩
      cases ha
      exact h

theorem bind_eq_error_iff {x : Except ε α} {f : α → Except ε β} {e : ε} :
    (x >>= f) = .error e ↔ x = .error e ∨ ∃ a, x = .ok a ∧ f a = .error e := by
  cases x with
  | error e' =>
    constructor
    · intro h
      exact .inl (congrArg Except.error (Except.error.inj h))
    · rintro (h | ⟨a, ha, -⟩)
      · exact congrArg Except.error (Except.error.inj h)
      · cases ha
  | ok a =>
    constructor
    · intro h
      exact .inr ⟨a, rfl, h⟩
    · rintro (h | ⟨a', ha, h⟩)
      · cases h
      · cases ha
        exact h

theorem exists_of_map_eq_ok {x : Except ε α} {f : α → β} {b : β} (h : x.map f = .ok b) :
    ∃ a, x = .ok a ∧ f a = b := by
  cases x with
  | error e => cases h
  | ok a => exact ⟨a, rfl, Except.ok.inj h⟩

theorem of_mapError_eq_ok {x : Except ε α} {f : ε → ε'} {a : α} (h : x.mapError f = .ok a) :
    x = .ok a := by
  cases x with
  | error e => cases h
  | ok a' => exact congrArg Except.ok (Except.ok.inj h)

end Except

/-! ### Passes over a list -/

variable {ε α β : Type} {f : α → Except ε β} {l : List α}

theorem mapM_eq_ok {g : α → β} (h : ∀ a ∈ l, f a = .ok (g a)) : l.mapM f = .ok (l.map g) := by
  induction l with
  | nil => rfl
  | cons a rest ih =>
    rw [List.mapM_cons, h a List.mem_cons_self,
      ih fun b hb => h b (List.mem_cons_of_mem a hb)]
    rfl

theorem mapM_cons_eq_ok {a : α} {bs : List β} (h : (a :: l).mapM f = .ok bs) :
    ∃ b rest, bs = b :: rest ∧ f a = .ok b ∧ l.mapM f = .ok rest := by
  rw [List.mapM_cons] at h
  obtain ⟨b, hb, h⟩ := Except.bind_eq_ok_iff.mp h
  obtain ⟨rest, hrest, h⟩ := Except.bind_eq_ok_iff.mp h
  cases h
  exact ⟨b, rest, rfl, hb, hrest⟩

/-- What comes before one of the results comes from what stands before its origin. -/
theorem mapM_eq_ok_append {before after : List β} {b : β}
    (h : l.mapM f = .ok (before ++ b :: after)) :
    ∃ first a last, l = first ++ a :: last ∧ first.mapM f = .ok before ∧ f a = .ok b := by
  induction before generalizing l with
  | nil =>
    cases l with
    | nil => cases h
    | cons a l =>
      obtain ⟨b', rest, heq, ha, -⟩ := mapM_cons_eq_ok h
      cases heq
      exact ⟨[], a, l, rfl, rfl, ha⟩
  | cons b' before ih =>
    cases l with
    | nil => cases h
    | cons a' l =>
      obtain ⟨b'', rest, heq, ha', hl⟩ := mapM_cons_eq_ok h
      cases heq
      obtain ⟨first, a, last, rfl, hfirst, ha⟩ := ih hl
      refine ⟨a' :: first, a, last, rfl, ?_, ha⟩
      rw [List.mapM_cons, ha', hfirst]
      rfl

/-- A pass over a list fails at the first item at which it fails. -/
theorem mapM_eq_error_iff {e : ε} : l.mapM f = .error e ↔
    ∃ before a after, l = before ++ a :: after ∧ (∀ a' ∈ before, ∃ b, f a' = .ok b) ∧
      f a = .error e := by
  induction l with
  | nil =>
    constructor
    · intro h
      cases h
    · rintro ⟨before, a, after, hl, -⟩
      cases List.append_eq_nil_iff.mp hl.symm |>.2
  | cons a l ih =>
    rw [List.mapM_cons, Except.bind_eq_error_iff]
    constructor
    · rintro (hfirst | ⟨b, hfirst, hrest⟩)
      · exact ⟨[], a, l, rfl, fun _ hmem => absurd hmem List.not_mem_nil, hfirst⟩
      · rcases Except.bind_eq_error_iff.mp hrest with hrest | ⟨_, -, hpure⟩
        · obtain ⟨before, a', after, rfl, hbefore, hfailed⟩ := ih.mp hrest
          exact ⟨a :: before, a', after, rfl,
            List.forall_mem_cons.mpr ⟨⟨b, hfirst⟩, hbefore⟩, hfailed⟩
        · cases hpure
    · rintro ⟨before, a', after, hl, hbefore, hfailed⟩
      cases before with
      | nil =>
        cases hl
        exact .inl hfailed
      | cons first before =>
        cases hl
        obtain ⟨⟨b, hfirst⟩, hbefore⟩ := List.forall_mem_cons.mp hbefore
        refine .inr ⟨b, hfirst, Except.bind_eq_error_iff.mpr (.inl ?_)⟩
        exact ih.mpr ⟨before, a', after, rfl, hbefore, hfailed⟩

/-- A pass over a list fails where it fails at one of the items. -/
theorem exists_of_mapM_eq_error {e : ε} (h : l.mapM f = .error e) : ∃ a ∈ l, f a = .error e := by
  obtain ⟨before, a, after, rfl, -, hfailed⟩ := mapM_eq_error_iff.mp h
  exact ⟨a, List.mem_append_right _ List.mem_cons_self, hfailed⟩

end ShardScan
