import ShardScan.Proofs.Coercion.Bounds

/-!
# How a conversion fails

A conversion that has no value for a type fails for one of four reasons: NULL for a
type that does not admit it, a mismatch, a value out of range, and an overflow.  The
first three are failures that a caller gets to see.  The last one stops the program, and
what it depends on is known beforehand: whether the microseconds of a date fit 64 bits,
and whether the text of a decimal can be made.

## Main definitions

* `Scalar.Overflows` — the conversion leaves the integers of the machine.
* `Scalar.Fails` — a conversion below optional layers fails so.

## Main results

* `Scalar.toStore_eq_error` — the failures of a conversion.
* `Scalar.toStore_eq_overflow_iff` — when a conversion overflows.
-/

namespace ShardScan

/-- The conversion, or the text of its failure, leaves the integers of the machine: the microseconds
of a date are no 64-bit number, or a decimal has more than 38 digits behind the point. -/
inductive Scalar.Overflows : Scalar → StoreType → Prop
  | instant (days : Word .i32) (t : StoreType) (ht : t.base = .datetime ∨ t.base = .timestamp)
    (h : ¬ WordFormat.i64.Holds (days.val * Calendar.microsPerDay)) : Overflows (.date days) t
  | text (unscaled : Word .i128) (precision : Word .u8) (scale : Word .i8) (t : StoreType)
    (h : 38 < scale.val) : Overflows (.decimal unscaled precision scale) t

namespace Scalar

variable {s : Scalar} {t : StoreType} {e : CoercionError}

/-- A conversion to a type fails so: it overflows if it can, and is a mismatch or out of range if
not. -/
def Fails (s : Scalar) (t : StoreType) (e : CoercionError) : Prop :=
  (e = .mismatch s t ∨ e = .outOfRange s t) ∧ ¬ s.Overflows t ∨ e = .overflow ∧ s.Overflows t

/-- Where a value is a date for a type of instants, its microseconds fit. -/
def InstantFits (s : Scalar) (t : StoreType) : Prop :=
  ∀ days, s = .date days → t.base = .datetime ∨ t.base = .timestamp →
    WordFormat.i64.Holds (days.val * Calendar.microsPerDay)

theorem instantFits_of_base (hdatetime : t.base ≠ .datetime) (htimestamp : t.base ≠ .timestamp) :
    s.InstantFits t :=
  fun _ _ ht => (ht.elim hdatetime htimestamp).elim

theorem instantFits_of_ne (h : ∀ days, s ≠ .date days) : s.InstantFits t :=
  fun days hs => absurd hs (h days)

theorem overflows_of_hasText (h : s.hasText = false) (t : StoreType) : s.Overflows t := by
  cases s with
  | decimal unscaled precision scale =>
    exact .text unscaled precision scale t (by simpa [hasText] using h)
  | _ => cases h

theorem not_overflows (htext : s.hasText = true) (hfits : s.InstantFits t) : ¬ s.Overflows t := by
  rintro (⟨days, t, ht, h⟩ | ⟨unscaled, precision, scale, t, h⟩)
  · exact h (hfits days rfl ht)
  · have hscale : scale.val ≤ 38 := of_decide_eq_true htext
    omega

/-! ### One conversion after another -/

/-- A failure that names the value is reported if the value has a text. -/
theorem fails_of_refuse {α : Type} {e₀ : CoercionError}
    (h : s.refuse e₀ = (.error e : Except CoercionError α))
    (he₀ : e₀ = .mismatch s t ∨ e₀ = .outOfRange s t) (hfits : s.InstantFits t) : s.Fails t e := by
  unfold refuse at h
  split at h
  · next htext =>
    cases h
    exact .inl ⟨he₀, not_overflows htext hfits⟩
  · next htext =>
    cases h
    exact .inr ⟨rfl, overflows_of_hasText (Bool.eq_false_of_not_eq_true htext) t⟩

theorem fails_of_narrow {f : WordFormat} {n : Int} (h : s.narrow t f n = .error e)
    (hfits : s.InstantFits t) : s.Fails t e := by
  unfold narrow at h
  split at h
  · cases h
  · exact fails_of_refuse h (.inr rfl) hfits

theorem fails_of_toInteger (h : s.toInteger t = .error e) (hfits : s.InstantFits t) :
    s.Fails t e := by
  unfold toInteger at h
  repeat' split at h
  all_goals
    first
    | exact fails_of_refuse h (.inl rfl) hfits
    | cases h

theorem fails_of_toUnscaled {scale : Word .i8} (h : s.toUnscaled t scale = .error e)
    (hfits : s.InstantFits t) : s.Fails t e := by
  simp only [toUnscaled] at h
  repeat' split at h
  all_goals
    first
    | exact fails_of_narrow h hfits
    | exact fails_of_refuse h (.inl rfl) hfits
    | exact fails_of_refuse h (.inr rfl) hfits

/-- An instant that a value stands for is there only if its microseconds fit. -/
theorem instantFits_of_instant {micros : Word .i64} (h : s.instant t = .ok micros) :
    s.InstantFits t := by
  rintro days rfl -
  simp only [instant] at h
  split at h
  · next w hw =>
    have hval := Word.ofInt?_eq_some_iff.mp hw
    exact hval ▸ w.holds
  · cases h

theorem fails_of_instant (h : s.instant t = .error e) (ht : t.base = .datetime ∨ t.base = .timestamp) :
    s.Fails t e := by
  cases s with
  | timestamp micros => cases h
  | date days =>
    simp only [instant] at h
    split at h
    · cases h
    · next hnone =>
      cases h
      exact .inr ⟨rfl, .instant days t ht (Word.ofInt?_eq_none_iff.mp hnone)⟩
  | utf8 text =>
    simp only [instant] at h
    split at h
    · cases h
    · exact fails_of_refuse h (.inl rfl) (instantFits_of_ne fun _ hs => by cases hs)
  | _ => exact fails_of_refuse h (.inl rfl) (instantFits_of_ne fun _ hs => by cases hs)

/-- Below optional layers a conversion overflows if it can, and is a mismatch or out of range if
not. -/
theorem fails_of_toStorePlain (h : s.toStorePlain t = .error e) (ht : t.isOptional = false) :
    s.Fails t e := by
  cases t with
  | int kind =>
    have hfits : s.InstantFits (.int kind) :=
      instantFits_of_base (by simp [StoreType.base]) (by simp [StoreType.base])
    rcases Except.bind_eq_error_iff.mp h with h | ⟨n, -, h⟩
    · exact fails_of_toInteger h hfits
    · rcases Except.bind_eq_error_iff.mp h with h | ⟨w, -, h⟩
      · exact fails_of_narrow h hfits
      · cases h
  | decimal precision scale =>
    rcases Except.bind_eq_error_iff.mp h with h | ⟨w, -, h⟩
    · exact fails_of_toUnscaled h (instantFits_of_base (by simp [StoreType.base]) (by simp [StoreType.base]))
    · cases h
  | datetime =>
    rcases Except.bind_eq_error_iff.mp h with h | ⟨micros, hmicros, h⟩
    · exact fails_of_instant h (.inl rfl)
    · rcases Except.bind_eq_error_iff.mp h with h | ⟨w, -, h⟩
      · exact fails_of_narrow h (instantFits_of_instant hmicros)
      · cases h
  | timestamp =>
    rcases Except.bind_eq_error_iff.mp h with h | ⟨micros, -, h⟩
    · exact fails_of_instant h (.inr rfl)
    · cases h
  | optional inner => cases ht
  | _ =>
    simp only [toStorePlain] at h
    repeat' split at h
    -- What is no mismatch narrows an integer.
    all_goals
      first
      | exact fails_of_refuse h (.inl rfl) (instantFits_of_base (by simp [StoreType.base]) (by simp [StoreType.base]))
      | cases h
      | rcases Except.bind_eq_error_iff.mp h with h | ⟨w, -, h⟩
        · exact fails_of_narrow h (instantFits_of_base (by simp [StoreType.base]) (by simp [StoreType.base]))
        · cases h

theorem isNull_eq_true_iff : s.isNull = true ↔ s = .null := by
  cases s <;> simp [isNull]

/-- Optional layers do not matter to an overflow. -/
theorem overflows_base_iff : s.Overflows t.base ↔ s.Overflows t := by
  constructor
  · intro h
    generalize hbase : t.base = u at h
    cases h with
    | instant days _ hu hdays =>
      rw [← hbase, StoreType.base_base, hbase] at hu
      exact .instant days t (hbase ▸ hu) hdays
    | text unscaled precision scale _ hscale => exact .text unscaled precision scale t hscale
  · rintro (⟨days, t, ht, h⟩ | ⟨unscaled, precision, scale, t, h⟩)
    · exact .instant days _ (by rwa [StoreType.base_base]) h
    · exact .text unscaled precision scale _ h

/-- **What is not stored** is NULL where that is not admitted, or fails as below the optional
layers. -/
theorem toStore_eq_error (h : s.toStore t = .error e) :
    s.Fails t.base e ∨ e = .nullForRequired t ∧ s = .null ∧ t.isOptional = false := by
  induction t with
  | optional inner ih =>
    rw [toStore] at h
    split at h
    · cases h
    · next hnull =>
      rcases Except.bind_eq_error_iff.mp h with h | ⟨c, -, h⟩
      · rcases ih h with h | ⟨-, rfl, -⟩
        · exact .inl h
        · exact absurd rfl hnull
      · cases h
  | _ =>
    rw [toStore] at h
    · split at h
      · next hnull => exact .inr ⟨(Except.error.inj h).symm, isNull_eq_true_iff.mp hnull, rfl⟩
      · exact .inl (fails_of_toStorePlain h rfl)
    · intro inner h
      cases h

/-- **A conversion overflows** just where it can and has no value. -/
theorem toStore_eq_overflow_iff :
    s.toStore t = .error .overflow ↔ s.Overflows t ∧ ∀ v, s.toStore t ≠ .ok v := by
  constructor
  · intro h
    refine ⟨?_, fun v hv => by cases h.symm.trans hv⟩
    rcases toStore_eq_error h with (⟨h | h, -⟩ | ⟨-, hoverflows⟩) | ⟨h, -⟩
    · cases h
    · cases h
    · exact overflows_base_iff.mp hoverflows
    · cases h
  · rintro ⟨hoverflows, hvalue⟩
    cases hstore : s.toStore t with
    | ok v => exact absurd hstore (hvalue v)
    | error e =>
      rcases toStore_eq_error hstore with (⟨-, hnot⟩ | ⟨rfl, -⟩) | ⟨-, rfl, -⟩
      · exact absurd (overflows_base_iff.mpr hoverflows) hnot
      · rfl
      · cases hoverflows

end Scalar
end ShardScan
