import ShardScan.Plan.Range
import ShardScan.Proofs.Coercion.Bounds

/-!
# What predicates say of a row

A row gives every column a value.  A comparison of a key column with a literal
holds or fails by the exact order of the two, a conjunction holds if all its
parts do, and any other predicate is free to hold or fail.

## Main definitions

* `Comparison.meaning?` — what a comparison says of its column; none for those without a meaning
  to the planner.
* `Expr.Holds` — a predicate holds of a row, given which of the free predicates do.

## Main results

* `Expr.allHold_iff` — predicates hold if and only if their conjuncts do.
-/

namespace ShardScan

/-! ### Comparisons -/

namespace Scalar

/-- The exact order of two values is turned around with them. -/
theorem exactCmp_swap (a b : Scalar) : (a.exactCmp b).map Ordering.swap = b.exactCmp a := by
  have hint : ∀ m n : Int, (compare m n).swap = compare n m := fun m n =>
    (Std.OrientedCmp.eq_swap).symm
  have hrational : ∀ x y : ℚ, (compare x y).swap = compare y x := fun x y =>
    (Std.OrientedCmp.eq_swap).symm
  have hfloating : ∀ {f : FloatFormat} (x y : Floating f),
      (x.cmp y).map Ordering.swap = y.cmp x := by
    intro f x y
    rw [Floating.cmp, Floating.cmp, Bool.or_comm]
    split
    · rfl
    · exact congrArg some (hint _ _)
  cases a <;> cases b <;> try rfl
  case boolean.boolean a b => exact congrArg some (Nat.compare_swap _ _)
  case float32.float32 a b => exact hfloating a b
  case float64.float64 a b => exact hfloating a b
  case utf8.utf8 a b => exact congrArg some (Text.compareText_swap a b)
  case binary.binary a b => exact congrArg some (Text.compareBytes_swap a b)
  case date.date a b => exact congrArg some (hint a.val b.val)
  case timestamp.timestamp a b => exact congrArg some (hint a.val b.val)
  case duration.duration a b => exact congrArg some (hint a.val b.val)
  all_goals exact congrArg some (hrational _ _)

end Scalar

namespace Comparison

/-- The exact order of the operands, as they are written, for a value of the column. -/
def order (c : Comparison) (v : Scalar) : Option Ordering :=
  if c.reversed then c.literal.exactCmp v else v.exactCmp c.literal

/-- What a comparison says of a value of its column.  NULL compares with nothing, but for the
equality that takes two NULLs as equal. -/
def meaning? (c : Comparison) (v : Scalar) : Option Prop :=
  match c.op, c.reversed with
  | .eq, _ => some (c.order v = some .eq)
  | .nullSafeEq, _ => some (c.order v = some .eq ∨ c.literal = .null ∧ v = .null)
  | .lt, _ => some (c.order v = some .lt)
  | .ltEq, _ => some (c.order v = some .lt ∨ c.order v = some .eq)
  | .gt, _ => some (c.order v = some .gt)
  | .gtEq, _ => some (c.order v = some .gt ∨ c.order v = some .eq)
  | .startsWith, false => some (∃ s t, c.literal = .utf8 s ∧ v = .utf8 t ∧ s.toList <+: t.toList)
  | _, _ => none

/-- A predicate is a comparison of one column at most. -/
theorem of?_unique {column column' : String} {e : Expr} {c c' : Comparison}
    (h : of? column e = some c) (h' : of? column' e = some c') : column = column' ∧ c = c' := by
  unfold of? at h h'
  split at h
  all_goals simp_all

end Comparison

/-! ### Predicates -/

namespace Expr

/-- What a predicate that is no conjunction says of a row. -/
def AtomHolds (keyColumns : List String) (row : String → Value) (free : Expr → Prop) (e : Expr) :
    Prop :=
  match keyColumns.findSome? fun column =>
    (Comparison.of? column e).bind fun c => c.meaning? (row column).toEngine with
  | some holds => holds
  | none => free e

/-- A comparison of a key column that holds of a row has its meaning for the row's value. -/
theorem meaning_of_atomHolds {keyColumns : List String} {row : String → Value}
    {free : Expr → Prop} {e : Expr} (h : e.AtomHolds keyColumns row free) {column : String}
    (hcolumn : column ∈ keyColumns) {c : Comparison} (hof : Comparison.of? column e = some c)
    {p : Prop} (hp : p ∈ c.meaning? (row column).toEngine) : p := by
  have hfound : (keyColumns.findSome? fun column =>
      (Comparison.of? column e).bind fun c => c.meaning? (row column).toEngine) = some p := by
    obtain ⟨p', hp'⟩ : ∃ p', (keyColumns.findSome? fun column =>
        (Comparison.of? column e).bind fun c => c.meaning? (row column).toEngine) = some p' := by
      rw [← Option.isSome_iff_exists, List.findSome?_isSome_iff]
      exact ⟨column, hcolumn, by rw [hof, Option.bind_some, hp]; rfl⟩
    -- The column in which it was found can only be this one.
    obtain ⟨column', -, hbind⟩ := List.exists_of_findSome?_eq_some hp'
    obtain ⟨c', hof', hmeaning⟩ := Option.bind_eq_some_iff.mp hbind
    obtain ⟨rfl, rfl⟩ := Comparison.of?_unique hof hof'
    rw [hp', ← hmeaning]
    exact hp
  rw [AtomHolds, hfound] at h
  exact h

section Holds

variable (keyColumns : List String) (row : String → Value) (free : Expr → Prop)

mutual

/-- A predicate holds of a row.  The comparisons of key columns have their meaning, conjunctions
hold if all their parts do, and `free` says which of the others hold. -/
def Holds : Expr → Prop
  | predicate .and operands => AllHold operands
  | e => e.AtomHolds keyColumns row free

/-- All of some predicates hold of a row. -/
def AllHold : List Expr → Prop
  | [] => True
  | e :: rest => e.Holds ∧ AllHold rest

end

mutual

theorem holds_iff (e : Expr) :
    e.Holds keyColumns row free ↔ ∀ c ∈ e.conjuncts, c.AtomHolds keyColumns row free := by
  unfold Holds
  split
  · next operands =>
    rw [conjuncts]
    exact allHold_iff operands
  · next hother =>
    rw [conjuncts.eq_2 e hother, List.forall_mem_singleton]

/-- Predicates hold if and only if their conjuncts do. -/
theorem allHold_iff (l : List Expr) :
    AllHold keyColumns row free l ↔ ∀ c ∈ conjunctsOf l, c.AtomHolds keyColumns row free := by
  match l with
  | [] => simp [AllHold, conjunctsOf]
  | e :: rest =>
    rw [AllHold, conjunctsOf, List.forall_mem_append, holds_iff e, allHold_iff rest]

end

end Holds

end Expr
end ShardScan
