import Mathlib.Data.List.DropRight
import ShardScan.Plan.Pushdown
import ShardScan.Proofs.KeyRange.Bounds
import ShardScan.Proofs.Plan.Columns
import ShardScan.Proofs.Plan.Overflows

/-!
# The planned range is sound

The planned range is made of the literals around the leading key columns, each
stored in the type of its column.  A row of which the predicates hold is equal
to the stored literals of the pinned columns, and on the right side of the
literal of the first column that is not pinned; behind that there are none.

A literal that its type has no value for ends the prefix and only widens the range, but
for one whose conversion overflows: then there is no range, and no scan either.

## Main definitions

* `RowKeyTyped` — a row has values of the declared types in the key columns.
* `Value.Keeps` — a literal bounds a value as well when it is stored.

## Main results

* `Pushdown.contains_plannedRange` — no end of the planned range excludes a row of which the
  predicates hold.
* `plannedRange_contains_key` — **the planned range is sound**, if it comes about.
-/

namespace ShardScan

/-- Every key column has a declared type, and the row a value of that type in it. -/
def RowKeyTyped (keyColumns : List String) (keyTypes : List StoreType) (row : String → Value) :
    Prop :=
  List.Forall₂ (fun column type => StoreType.Admits type (row column)) keyColumns keyTypes

/-- Where the literal can be stored in the type, it lies on the side of the value on which it was,
or has become equal to the value. -/
def Value.Keeps (v : Value) (t : StoreType) (l : Scalar) : Prop :=
  ∀ w o, l.toStoreKey t = .ok w → v.toEngine.exactCmp l = some o →
    v.cmp w = some o ∨ v.cmp w = some .eq

theorem Value.keeps_null (v : Value) (t : StoreType) : v.Keeps t .null := by
  intro w o _ hcmp
  rw [Scalar.exactCmp_null_right] at hcmp
  cases hcmp

/-! ### The literals of a bound -/

theorem dropEndWhile_begins {α : Type} (p : α → Bool) (l : List α) :
    Text.dropEndWhile p l <+: l := List.rdropWhile_prefix p l

/-- What is left of a list does not end in an item that was to be dropped. -/
theorem dropEndWhile_getLast? {α : Type} (p : α → Bool) (l : List α) :
    ∀ a ∈ (Text.dropEndWhile p l).getLast?, p a = false := by
  intro a ha
  obtain ⟨front, hfront⟩ := List.getLast?_eq_some_iff.mp ha
  have hne : l.rdropWhile p ≠ [] := by
    show Text.dropEndWhile p l ≠ []
    rw [hfront]
    simp
  have hlast := List.rdropWhile_last_not p l hne
  have ha' : (l.rdropWhile p).getLast hne = a := by
    have : l.rdropWhile p = front ++ [a] := hfront
    simp [this]
  rwa [ha', Bool.not_eq_true] at hlast

/-! ### One side of the range -/

namespace ScanPlan

@[simp] theorem storeKey_nil (types : List StoreType) : storeKey [] types = [] := by
  cases types <;> rfl

theorem storeKey_cons_ok {l : Scalar} {t : StoreType} {w : Value} (h : l.toStoreKey t = .ok w)
    (ls : List Scalar) (ts : List StoreType) :
    storeKey (l :: ls) (t :: ts) = w :: storeKey ls ts := by
  rw [storeKey, h]

theorem storeKey_cons_error {l : Scalar} {t : StoreType} {e : CoercionError}
    (h : l.toStoreKey t = .error e) (ls : List Scalar) (ts : List StoreType) :
    storeKey (l :: ls) (t :: ts) = [] := by
  rw [storeKey, h]

section Side

variable {keyTypes : List StoreType} {keyColumns : List String} {row : String → Value}
  {predicates : List Expr}

/-- A side of the planned range does not exclude a row of which the predicates hold.  The side is
given by a literal of each column that lies on one side of what is admitted, is equal to the column
where that is pinned, and bounds it as well when it is stored. -/
theorem compareKeys_storeKey_ne_of_keeps (side : ColumnRange → Scalar) {bad : Ordering}
    (hbad : bad ≠ .eq)
    (hside : ∀ {r : ColumnRange} {v : Scalar}, r.Admits v →
      side r = .null ∨ ∃ o, v.exactCmp (side r) = some o ∧ o ≠ bad)
    (hpinned : ∀ {r : ColumnRange} {v : Scalar}, r.Admits v → r.pinned = true → v.Matches (side r))
    (hkeeps : List.Forall₂ (fun column type =>
      (row column).Keeps type (side (ColumnRange.ofPredicates predicates column)))
      keyColumns keyTypes)
    (hadmits : ∀ column ∈ keyColumns,
      (ColumnRange.ofPredicates predicates column).Admits (row column).toEngine)
    {literals : List Scalar}
    (hbegins : literals <+: (ColumnRange.leading predicates keyColumns).map side)
    (hlast : ∀ l ∈ literals.getLast?, l.isNull = false) :
    compareKeys (keyColumns.map row) (storeKey literals keyTypes) ≠ bad := by
  induction hkeeps generalizing literals with
  | nil =>
    rw [List.map_nil, compareKeys_nil_left]
    exact hbad.symm
  | @cons column type columns types hkeep _ ih =>
    cases literals with
    | nil =>
      rw [storeKey_nil, compareKeys_nil_right]
      exact hbad.symm
    | cons l rest =>
      have hr := hadmits column List.mem_cons_self
      rw [ColumnRange.leading, List.map_cons, List.cons_prefix_cons] at hbegins
      obtain ⟨rfl, hrest⟩ := hbegins
      cases hstore : (side (ColumnRange.ofPredicates predicates column)).toStoreKey type with
      | error e =>
        rw [storeKey_cons_error hstore, compareKeys_nil_right]
        exact hbad.symm
      | ok w =>
        rw [storeKey_cons_ok hstore, List.map_cons, compareKeys_cons]
        by_cases hp : (ColumnRange.ofPredicates predicates column).pinned = true
        · -- The column is equal to the literal, and the next one is looked at.
          have heq : (row column).cmp w = some .eq := by
            rcases hpinned hr hp with hcmp | ⟨hnull, hvnull⟩
            · exact (hkeep w _ hstore hcmp).elim id id
            · rw [hnull] at hstore
              exact Value.cmp_of_null hstore hvnull
          rw [heq, Option.getD_some, Ordering.then]
          rw [if_pos hp] at hrest
          refine ih (fun c h => hadmits c (List.mem_cons_of_mem column h)) hrest ?_
          intro l' hl'
          exact hlast l' (List.mem_getLast?_cons hl')
        · -- The literal is the last of the bound, so it is not NULL.
          rw [if_neg hp, List.map_nil, List.prefix_nil] at hrest
          subst hrest
          rcases hside hr with hnull | ⟨o, hcmp, ho⟩
          · have := hlast _ (List.getLast?_singleton ..)
            rw [hnull] at this
            cases this
          · rw [storeKey_nil, compareKeys_nil_right]
            rcases hkeep w o hstore hcmp with h | h
            · rw [h]
              cases o <;> simp_all [Ordering.then]
            · rw [h]
              exact hbad.symm

/-- So it is where the engine reads the values of all key columns without loss of order. -/
theorem compareKeys_storeKey_ne (side : ColumnRange → Scalar) {bad : Ordering} (hbad : bad ≠ .eq)
    (hside : ∀ {r : ColumnRange} {v : Scalar}, r.Admits v →
      side r = .null ∨ ∃ o, v.exactCmp (side r) = some o ∧ o ≠ bad)
    (hpinned : ∀ {r : ColumnRange} {v : Scalar}, r.Admits v → r.pinned = true → v.Matches (side r))
    (htyped : RowKeyTyped keyColumns keyTypes row) (hexact : ∀ t ∈ keyTypes, t.IsExact)
    (hadmits : ∀ column ∈ keyColumns,
      (ColumnRange.ofPredicates predicates column).Admits (row column).toEngine)
    {literals : List Scalar}
    (hbegins : literals <+: (ColumnRange.leading predicates keyColumns).map side)
    (hlast : ∀ l ∈ literals.getLast?, l.isNull = false) :
    compareKeys (keyColumns.map row) (storeKey literals keyTypes) ≠ bad := by
  refine compareKeys_storeKey_ne_of_keeps side hbad hside hpinned ?_ hadmits hbegins hlast
  clear hadmits hbegins
  induction htyped with
  | nil => exact .nil
  | cons hv _ ih =>
    obtain ⟨ht, hexact⟩ := List.forall_mem_cons.mp hexact
    exact .cons (fun _ _ hstore hcmp => Value.cmp_of_exactCmp hv ht hstore hcmp) (ih hexact)

end Side

end ScanPlan

/-! ### The whole range -/

/-- No end of the planned range excludes the key of a row of which the predicates hold. -/
theorem Pushdown.contains_plannedRange (settings : ScanSettings) {b : Pushdown}
    {row : String → Value} {free : Expr → Prop} (hexact : ∀ t ∈ b.target.keyTypes, t.IsExact)
    (htyped : RowKeyTyped b.target.keyColumns b.target.keyTypes row)
    (hholds : Expr.AllHold b.target.keyColumns row free b.predicates) :
    (b.plan settings).plannedRange.contains (b.target.keyColumns.map row) = true := by
  have hatoms := (Expr.allHold_iff _ _ _ _).mp hholds
  have hadmits : ∀ column ∈ b.target.keyColumns,
      (ColumnRange.ofPredicates (Expr.conjunctsOf b.predicates) column).Admits
        (row column).toEngine :=
    fun column hcolumn => ColumnRange.admits_ofPredicates hatoms hcolumn
  have hlower := ScanPlan.compareKeys_storeKey_ne ColumnRange.lower (by decide : Ordering.lt ≠ .eq)
    (fun hr => hr.lower) (fun hr hp => (hr.pinned hp).1) htyped hexact hadmits
    (dropEndWhile_begins Scalar.isNull _) (dropEndWhile_getLast? Scalar.isNull _)
  have hupper := ScanPlan.compareKeys_storeKey_ne ColumnRange.upper (by decide : Ordering.gt ≠ .eq)
    (fun hr => hr.upper) (fun hr hp => (hr.pinned hp).2) htyped hexact hadmits
    (dropEndWhile_begins Scalar.isNull _) (dropEndWhile_getLast? Scalar.isNull _)
  rw [KeyRange.contains, Bool.and_eq_true]
  exact ⟨KeyBound.admitsAbove_ofTuple.mpr hlower, KeyBound.admitsBelow_ofTuple.mpr hupper⟩

/-- A target with an optional date and a decimal without digits behind the point as its key. -/
def ledgerTarget : ScanTarget where
  name := "ledger"
  path := "/local/ledger"
  schema := .ofFields [.plain "day" .date32 true, .plain "amount" (.decimal128 22 0) false]
  keyColumns := ["day", "amount"]
  keyTypes := [.optional .date, .decimal 22 0]
  partitions := []

/-- Entries of the third day with an amount from 1.5 on. -/
def ledgerPushdown : Pushdown :=
  ((Pushdown.start ledgerTarget .empty).pushPredicates
    [.predicate .and [.predicate .nullSafeEq [.column ["day"], .literal (.date 3)],
      .predicate .ltEq [.literal (.decimal 15 2 1), .column ["amount"]]],
    .predicate .isNotNull [.column ["amount"]]]).2

/-- An amount with 60 digits behind the point is out of range for the key, and the text of that
failure overflows. -/
example :
    (((Pushdown.start ledgerTarget .empty).pushPredicates
      [.predicate .eq [.column ["day"], .literal (.date 3)],
        .predicate .gtEq [.column ["amount"], .literal (.decimal 15 60 60)]]).2.plan
      Settings.builtin.scan).plannedRange? = none := by decide +kernel

end ShardScan
