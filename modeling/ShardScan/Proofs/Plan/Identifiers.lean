import ShardScan.Proofs.Coercion.Identifiers
import ShardScan.Proofs.Plan.PlannedRange

/-!
# Ranges of identifiers

The engine reads an identifier as its text, and the store orders it as a number.
The two orders agree on the texts of identifiers, so a literal that is such a
text bounds the column in the store as it does in the engine, and a literal that
names no identifier is not stored and bounds nothing.  An equality holds of its
own text only.

Any other spelling that names an identifier, with capital letters or with the
hyphens left out or moved, is read as that identifier, but lies elsewhere in the
engine's order.  A bound in such a spelling drops rows of which it holds.

## Main definitions

* `Comparison.SatisfiedBy` — a comparison holds of a value in the engine's order.
* `Comparison.IsFaithful` — its literal lies where the engine and the store both see it.

## Main results

* `plannedRange_contains_identifier` — the planned range contains the keys of an identifier of which
  the comparisons hold, if they are faithful.
* `plannedRange_drops_identifier` — otherwise it need not.
-/

namespace ShardScan

/-! ### Comparisons in the engine's order -/

namespace Comparison

/-- The engine's order of the operands, as they are written, for a value of the column. -/
def naturalOrder (c : Comparison) (v : Scalar) : Option Ordering :=
  if c.reversed then c.literal.naturalCmp v else v.naturalCmp c.literal

/-- The comparison holds of a value in the engine's order. -/
def SatisfiedBy (c : Comparison) (v : Scalar) : Prop :=
  match c.op with
  | .eq => c.naturalOrder v = some .eq
  | .nullSafeEq => c.naturalOrder v = some .eq ∨ c.literal = .null ∧ v = .null
  | .lt => c.naturalOrder v = some .lt
  | .ltEq => c.naturalOrder v = some .lt ∨ c.naturalOrder v = some .eq
  | .gt => c.naturalOrder v = some .gt
  | .gtEq => c.naturalOrder v = some .gt ∨ c.naturalOrder v = some .eq
  | _ => False

/-- The literal is a text.  Unless it is compared for equality, that is the text of an identifier,
or names none. -/
def IsFaithful (c : Comparison) : Prop :=
  ∃ s, c.literal = .utf8 s ∧
    (c.op = .eq ∨ c.op = .nullSafeEq ∨ (∃ n, s = uuidText n) ∨ parseUuid? s = none)

variable {c : Comparison} {s t : String}

/-- Texts are in the engine's order as they are in the exact one. -/
theorem naturalOrder_eq_order (hc : c.literal = .utf8 s) :
    c.naturalOrder (.utf8 t) = c.order (.utf8 t) := by
  rw [naturalOrder, order, hc]
  rfl

theorem SatisfiedBy.meaning (h : c.SatisfiedBy (.utf8 t)) (hc : c.literal = .utf8 s) :
    ∀ p ∈ c.meaning? (.utf8 t), p := by
  intro p hp
  have horder := naturalOrder_eq_order (t := t) hc
  unfold SatisfiedBy at h
  rw [horder] at h
  obtain ⟨op, literal, reversed⟩ := c
  cases op
  case eq | nullSafeEq | lt | ltEq | gt | gtEq =>
    cases hp
    exact h
  all_goals exact h.elim

theorem SatisfiedBy.op_ne_startsWith {v : Scalar} (h : c.SatisfiedBy v) : c.op ≠ .startsWith := by
  intro hop
  rw [SatisfiedBy, hop] at h
  exact h

/-- An equality holds of its own text only. -/
theorem SatisfiedBy.eq_of_equality (h : c.SatisfiedBy (.utf8 t)) (hc : c.literal = .utf8 s)
    (hop : c.op = .eq ∨ c.op = .nullSafeEq) : s = t := by
  have horder : c.naturalOrder (.utf8 t) = some .eq := by
    unfold SatisfiedBy at h
    rcases hop with hop | hop
    · rw [hop] at h
      exact h
    · rw [hop] at h
      exact h.resolve_right fun hnull => nomatch hnull.2
  rw [naturalOrder, hc] at horder
  split at horder
  · exact Text.compareText_eq_eq_iff.mp (Option.some.inj horder)
  · exact (Text.compareText_eq_eq_iff.mp (Option.some.inj horder)).symm

end Comparison

/-! ### Literals of an identifier -/

namespace Value

variable {v : Value} {u : Word .u128} {type : StoreType}

/-- The text of an identifier bounds another as well when it is stored. -/
theorem keeps_uuidText (hv : v.content? = some (.uuid u)) (ht : type.base = .uuid)
    (n : Word .u128) : v.Keeps type (.utf8 (uuidText n)) := by
  intro w o hstore hcmp
  obtain ⟨c, hc, hplain⟩ := Scalar.content?_of_toStore (l := .utf8 (uuidText n)) nofun hstore
  simp only [StoreType.base_orNull, ht, Scalar.toStorePlain, parseUuid?_uuidText] at hplain
  cases hplain
  rw [toEngine_of_content? hv] at hcmp
  left
  rw [← hcmp]
  simp only [cmp, hv, hc]
  exact congrArg some (compareText_uuidText u n).symm

/-- A text that names no identifier is not stored. -/
theorem keeps_of_parse_eq_none {s : String} (hs : parseUuid? s = none) (ht : type.base = .uuid)
    (v : Value) : v.Keeps type (.utf8 s) := by
  intro w o hstore _
  obtain ⟨c, -, hplain⟩ := Scalar.content?_of_toStore (l := .utf8 s) nofun hstore
  simp only [StoreType.base_orNull, ht, Scalar.toStorePlain, hs] at hplain
  cases hplain

theorem keeps_of_isFaithful {c : Comparison} (hv : v.content? = some (.uuid u))
    (ht : type.base = .uuid) (hc : c.IsFaithful) (h : c.SatisfiedBy v.toEngine) :
    v.Keeps type c.literal := by
  rw [toEngine_of_content? hv] at h
  obtain ⟨s, hs, hfaithful⟩ := hc
  rw [hs]
  rcases hfaithful with hop | hop | ⟨n, rfl⟩ | hnone
  · rw [h.eq_of_equality hs (.inl hop)]
    exact keeps_uuidText hv ht u
  · rw [h.eq_of_equality hs (.inr hop)]
    exact keeps_uuidText hv ht u
  · exact keeps_uuidText hv ht n
  · exact keeps_of_parse_eq_none hnone ht v

end Value

namespace ColumnRange

variable {P : Scalar → Prop} {r : ColumnRange}

/-- What holds of NULL and of the literals of comparisons holds of both ends of what they leave,
beginnings aside, whose successors are new. -/
theorem ends_foldl_narrow {cs : List Comparison} (hr : P r.lower ∧ P r.upper)
    (hcs : ∀ c ∈ cs, P c.literal ∧ c.op ≠ .startsWith) :
    P (cs.foldl narrow r).lower ∧ P (cs.foldl narrow r).upper := by
  induction cs generalizing r with
  | nil => exact hr
  | cons c cs ih =>
    obtain ⟨⟨hliteral, hop⟩, hcs⟩ := List.forall_mem_cons.mp hcs
    refine ih ?_ hcs
    have hraise : P (tightenLower r.lower c.literal) := by
      rcases tightenLower_eq r.lower c.literal with h | h
      · rw [h]
        exact hr.1
      · rw [h]
        exact hliteral
    have hreduce : P (tightenUpper r.upper c.literal) := by
      rcases tightenUpper_eq r.upper c.literal with h | h
      · rw [h]
        exact hr.2
      · rw [h]
        exact hliteral
    unfold narrow
    split
    · exact hr
    · split
      · exact ⟨hliteral, hliteral⟩
      · exact ⟨hliteral, hliteral⟩
      · exact ⟨hraise, hr.2⟩
      · exact ⟨hraise, hr.2⟩
      · exact ⟨hraise, hr.2⟩
      · exact ⟨hraise, hr.2⟩
      · exact ⟨hr.1, hreduce⟩
      · exact ⟨hr.1, hreduce⟩
      · exact ⟨hr.1, hreduce⟩
      · exact ⟨hr.1, hreduce⟩
      · next hstarts _ => exact absurd hstarts hop
      · exact hr

end ColumnRange

/-! ### The whole range -/

/-- **The planned range of an identifier is sound** where the comparisons are faithful: if nothing
but comparisons of one column of identifiers is asked, with texts, and they hold of a row in the
engine's order, the key of the row lies in the planned range.  Texts that the column is compared
with for equality may be any; others have to be texts of identifiers or name none. -/
theorem plannedRange_contains_identifier (settings : ScanSettings) (b : Pushdown)
    (row : String → Value) (column : String) (u : Word .u128)
    (htypes : List.Forall₂ (fun name type => name = column → type.base = .uuid)
      b.target.keyColumns b.target.keyTypes)
    (hrow : (row column).content? = some (.uuid u))
    (hholds : ∀ e ∈ Expr.conjunctsOf b.predicates, ∃ c, Comparison.of? column e = some c ∧
      c.IsFaithful ∧ c.SatisfiedBy (row column).toEngine) :
    (b.plan settings).plannedRange.contains (b.target.keyColumns.map row) = true := by
  have hengine : (row column).toEngine = .utf8 (uuidText u) := Value.toEngine_of_content? hrow
  -- Every comparison is one of the column of identifiers.
  have hcomparison : ∀ name, ∀ c ∈ (Expr.conjunctsOf b.predicates).filterMap (Comparison.of? name),
      name = column ∧ c.IsFaithful ∧ c.SatisfiedBy (row column).toEngine := by
    intro name c hc
    obtain ⟨e, he, hof⟩ := List.mem_filterMap.mp hc
    obtain ⟨c', hof', hfaithful, hsatisfied⟩ := hholds e he
    obtain ⟨rfl, rfl⟩ := Comparison.of?_unique hof hof'
    exact ⟨rfl, hfaithful, hsatisfied⟩
  have hadmits : ∀ name ∈ b.target.keyColumns,
      (ColumnRange.ofPredicates (Expr.conjunctsOf b.predicates) name).Admits
        (row name).toEngine := by
    intro name _
    refine ColumnRange.admits_foldl_narrow (ColumnRange.admits_unknown _) ?_
    intro c hc
    obtain ⟨rfl, ⟨s, hs, -⟩, hsatisfied⟩ := hcomparison name c hc
    rw [hengine] at hsatisfied ⊢
    exact hsatisfied.meaning hs
  have hkeeps : ∀ name type, (name = column → type.base = .uuid) →
      (row name).Keeps type
        (ColumnRange.ofPredicates (Expr.conjunctsOf b.predicates) name).lower ∧
      (row name).Keeps type
        (ColumnRange.ofPredicates (Expr.conjunctsOf b.predicates) name).upper := by
    intro name type htype
    refine ColumnRange.ends_foldl_narrow (P := (row name).Keeps type)
      ⟨Value.keeps_null _ _, Value.keeps_null _ _⟩ ?_
    intro c hc
    obtain ⟨rfl, hfaithful, hsatisfied⟩ := hcomparison name c hc
    exact ⟨Value.keeps_of_isFaithful hrow (htype rfl) hfaithful hsatisfied,
      hsatisfied.op_ne_startsWith⟩
  have hlower := ScanPlan.compareKeys_storeKey_ne_of_keeps ColumnRange.lower
    (by decide : Ordering.lt ≠ .eq) (fun hr => hr.lower) (fun hr hp => (hr.pinned hp).1)
    (htypes.imp fun name type htype => (hkeeps name type htype).1) hadmits
    (dropEndWhile_begins Scalar.isNull _) (dropEndWhile_getLast? Scalar.isNull _)
  have hupper := ScanPlan.compareKeys_storeKey_ne_of_keeps ColumnRange.upper
    (by decide : Ordering.gt ≠ .eq) (fun hr => hr.upper) (fun hr hp => (hr.pinned hp).2)
    (htypes.imp fun name type htype => (hkeeps name type htype).2) hadmits
    (dropEndWhile_begins Scalar.isNull _) (dropEndWhile_getLast? Scalar.isNull _)
  rw [KeyRange.contains, Bool.and_eq_true]
  exact ⟨KeyBound.admitsAbove_ofTuple.mpr hlower, KeyBound.admitsBelow_ofTuple.mpr hupper⟩

/-- A target with the identifier of a parcel as its key. -/
def parcelTarget : ScanTarget where
  name := "parcels"
  path := "/local/parcels"
  schema := .ofFields [.plain "id" .utf8 true]
  keyColumns := ["id"]
  keyTypes := [.optional .uuid]
  partitions := []

/-- The parcels of which some predicates hold. -/
def parcelPushdown (predicates : List Expr) : Pushdown :=
  ((Pushdown.start parcelTarget .empty).pushPredicates predicates).2

/-- A parcel between two identifiers that are written as the engine writes them. -/
theorem plannedRange_contains_identifier_parcel :
    ((parcelPushdown [.predicate .and
        [.predicate .gt [.column ["id"], .literal (.utf8 "9f000000-0000-0000-0000-000000000000")],
          .predicate .gtEq
            [.literal (.utf8 "af000000-0000-0000-0000-000000000000"), .column ["id"]]]]).plan
      Settings.builtin.scan).plannedRange.contains
        [.optional (.uuid 0xa0000000000000000000000000000000)] = true := by
  refine plannedRange_contains_identifier Settings.builtin.scan _
    (fun _ => .optional (.uuid 0xa0000000000000000000000000000000)) "id" _
    (.cons (fun _ => rfl) .nil) rfl ?_
  have hlow : uuidText 0x9f000000000000000000000000000000 =
      "9f000000-0000-0000-0000-000000000000" := by decide +kernel
  have hhigh : uuidText 0xaf000000000000000000000000000000 =
      "af000000-0000-0000-0000-000000000000" := by decide +kernel
  intro e he
  rcases List.mem_pair.mp he with rfl | rfl
  · refine ⟨_, rfl, ⟨_, rfl, .inr (.inr (.inl ⟨_, hlow.symm⟩))⟩, ?_⟩
    show _ = _
    decide +kernel
  · refine ⟨_, rfl, ⟨_, rfl, .inr (.inr (.inl ⟨_, hhigh.symm⟩))⟩, .inl ?_⟩
    decide +kernel

/-- The planned range drops a parcel of which a comparison holds, for a literal in capital letters,
which lie before the others, and for one without hyphens, which lie before all digits. -/
theorem plannedRange_drops_identifier :
    (Comparison.SatisfiedBy ⟨.gtEq, .utf8 "AF000000-0000-0000-0000-000000000000", false⟩
        (Value.uuid 0xa0000000000000000000000000000000).toEngine ∧
      ((parcelPushdown [.predicate .gtEq [.column ["id"],
          .literal (.utf8 "AF000000-0000-0000-0000-000000000000")]]).plan
        Settings.builtin.scan).plannedRange.contains
          [.uuid 0xa0000000000000000000000000000000] = false) ∧
    (Comparison.SatisfiedBy ⟨.lt, .utf8 "00000000000000000000000000000000", false⟩
        (Value.uuid 0x00000000ffff00000000000000000000).toEngine ∧
      ((parcelPushdown [.predicate .lt [.column ["id"],
          .literal (.utf8 "00000000000000000000000000000000")]]).plan
        Settings.builtin.scan).plannedRange.contains
          [.uuid 0x00000000ffff00000000000000000000] = false) := by
  refine ⟨⟨.inl ?_, ?_⟩, ?_, ?_⟩
  · decide +kernel
  · decide +kernel
  · show _ = _
    decide +kernel
  · decide +kernel

end ShardScan
