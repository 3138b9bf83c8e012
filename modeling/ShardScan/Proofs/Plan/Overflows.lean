import ShardScan.Plan.Scan
import ShardScan.Proofs.Coercion.Failing

/-!
# Plans whose range overflows

The literals around the leading key columns are converted one after the other, up to
the first that its type has no value for.  If it has none because the conversion
overflows, the range does not come about, and the program that asks for it stops.
Literals behind one that ends the prefix are not looked at and do no harm.

## Main definitions

* `PrefixOverflows` — the conversion of some literals comes to one that overflows.
* `ScanPlan.Overflows` — that of the literals of a plan does.

## Main results

* `ScanPlan.plannedRange?_eq_none_iff`, `ScanPlan.plannedRange?_eq_some_iff` — when the planned
  range comes about.
-/

namespace ShardScan

/-- The conversion of literals comes to one that overflows and has no value for its type. -/
inductive PrefixOverflows : List Scalar → List StoreType → Prop
  | here {l : Scalar} {t : StoreType} (h : l.Overflows t) (hvalue : ∀ w, l.toStoreKey t ≠ .ok w)
    (ls : List Scalar) (ts : List StoreType) : PrefixOverflows (l :: ls) (t :: ts)
  | behind {l : Scalar} {t : StoreType} {w : Value} {ls : List Scalar} {ts : List StoreType}
    (hstore : l.toStoreKey t = .ok w) (h : PrefixOverflows ls ts) :
    PrefixOverflows (l :: ls) (t :: ts)

theorem Scalar.toStoreKey_eq_overflow_iff {l : Scalar} {t : StoreType} :
    l.toStoreKey t = .error .overflow ↔ l.Overflows t ∧ ∀ w, l.toStoreKey t ≠ .ok w := by
  rw [toStoreKey, toStore_eq_overflow_iff, ← overflows_base_iff, StoreType.base_orNull,
    overflows_base_iff]

namespace ScanPlan

theorem storeKeyOverflows_iff {literals : List Scalar} {types : List StoreType} :
    storeKeyOverflows literals types = true ↔ PrefixOverflows literals types := by
  induction literals generalizing types with
  | nil => exact ⟨nofun, nofun⟩
  | cons l ls ih =>
    cases types with
    | nil => exact ⟨nofun, nofun⟩
    | cons t ts =>
      rw [storeKeyOverflows]
      cases hstore : l.toStoreKey t with
      | ok w =>
        rw [ih]
        constructor
        · exact .behind hstore
        · rintro (⟨-, hvalue⟩ | ⟨-, h⟩)
          · exact absurd hstore (hvalue w)
          · exact h
      | error e =>
        rw [decide_eq_true_iff]
        constructor
        · rintro rfl
          obtain ⟨hoverflows, hvalue⟩ := Scalar.toStoreKey_eq_overflow_iff.mp hstore
          exact .here hoverflows hvalue ls ts
        · rintro (⟨hoverflows, hvalue⟩ | ⟨hvalue, -⟩)
          · have herror := Scalar.toStoreKey_eq_overflow_iff.mpr ⟨hoverflows, hvalue⟩
            exact Except.error.inj (hstore.symm.trans herror)
          · cases hstore.symm.trans hvalue

/-- The conversion of the literals at one end of the planned range comes to one that overflows. -/
def Overflows (p : ScanPlan) : Prop :=
  PrefixOverflows p.planned.lower p.keyTypes ∨ PrefixOverflows p.planned.upper p.keyTypes

variable {p : ScanPlan}

/-- **The planned range does not come about** just where a literal overflows. -/
theorem plannedRange?_eq_none_iff : p.plannedRange? = none ↔ p.Overflows := by
  rw [plannedRange?, Overflows, ← storeKeyOverflows_iff, ← storeKeyOverflows_iff, ← Bool.or_eq_true]
  split
  · next h => exact iff_of_true rfl h
  · next h => exact iff_of_false nofun h

/-- **The planned range comes about** where no literal overflows. -/
theorem plannedRange?_eq_some_iff {range : KeyRange} :
    p.plannedRange? = some range ↔ ¬ p.Overflows ∧ p.plannedRange = range := by
  rw [← plannedRange?_eq_none_iff, plannedRange?]
  split
  · exact iff_of_false nofun fun h => h.1 rfl
  · simp

end ScanPlan
end ShardScan
