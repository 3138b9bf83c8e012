import ShardScan.Proofs.Store.Alteration
import ShardScan.Proofs.Store.Histories

/-!
# Rows put in

A row that is put in takes the place of one row at most, and only of one from
whose key its own does not differ: at no position does one of the two values lie
before the other.  That asks nothing of the values.  Where the values of two keys
compare, keys that do not differ are equal; where they do not, as a NaN does not
compare with any number, a row may take the place of one with another key.

The width of a row is looked at when its turn comes.  An insertion that fails has
put in the rows before the first of a wrong width.

## Main definitions

* `Tuple.Differs` — the values at some position tell two keys apart.
* `Tuple.Same` — the values at all positions are equal.

## Main results

* `compareKeys_eq_iff` — keys count as equal if they do not differ.
* `Table.exists_insertRow` — what becomes of the rows around one that is put in.
* `Table.sublist_foldl_insertRow` — rows whose keys differ from those put in stay, in their order.
* `Table.insertRows_eq_error_iff` — the first row of a wrong width divides the rows.
* `insertion_keeps_others`, `failed_insertion` — the same of a store.
-/

namespace ShardScan

/-! ### Keys that differ -/

namespace Tuple

/-- A position tells the tuples apart: the value of one lies before that of the other. -/
def Differs (a b : Tuple) : Prop :=
  ∃ p ∈ a.zip b, p.1.cmp p.2 = some .lt ∨ p.1.cmp p.2 = some .gt

instance (a b : Tuple) : Decidable (a.Differs b) :=
  inferInstanceAs (Decidable (∃ p ∈ a.zip b, p.1.cmp p.2 = some .lt ∨ p.1.cmp p.2 = some .gt))

/-- At every position the values of the tuples compare, and are equal. -/
def Same (a b : Tuple) : Prop := ∀ p ∈ a.zip b, p.1.cmp p.2 = some .eq

instance (a b : Tuple) : Decidable (a.Same b) :=
  inferInstanceAs (Decidable (∀ p ∈ a.zip b, p.1.cmp p.2 = some .eq))

theorem differs_cons {v w : Value} {a b : Tuple} :
    Differs (v :: a) (w :: b) ↔ (v.cmp w = some .lt ∨ v.cmp w = some .gt) ∨ Differs a b := by
  rw [Differs, List.zip_cons_cons, List.exists_mem_cons_iff]
  rfl

/-- Where all values compare, tuples that are not the same differ. -/
theorem differs_of_not_same {a b : Tuple} (hcompares : ∀ p ∈ a.zip b, (p.1.cmp p.2).isSome)
    (hne : ¬ a.Same b) : a.Differs b := by
  by_contra hdiffers
  refine hne fun p hp => ?_
  obtain ⟨order, horder⟩ := Option.isSome_iff_exists.mp (hcompares p hp)
  cases order with
  | lt => exact absurd ⟨p, hp, .inl horder⟩ hdiffers
  | eq => exact horder
  | gt => exact absurd ⟨p, hp, .inr horder⟩ hdiffers

end Tuple

/-- **Keys count as equal if they do not differ.** -/
theorem compareKeys_eq_iff {a b : Tuple} : compareKeys a b = .eq ↔ ¬ a.Differs b := by
  induction a generalizing b with
  | nil => simp [Tuple.Differs]
  | cons v a ih =>
    cases b with
    | nil => simp [Tuple.Differs]
    | cons w b =>
      have hhead : (v.cmp w).getD .eq = .eq ↔ ¬ (v.cmp w = some .lt ∨ v.cmp w = some .gt) := by
        rcases v.cmp w with _ | _ | _ | _ <;> decide
      rw [compareKeys_cons, Ordering.then_eq_eq, hhead, ih, Tuple.differs_cons, ← not_or]

/-! ### One row -/

/-- A place among rows does not lie behind their end. -/
theorem Place.le_length_of_eq_absent {side : Tuple → Ordering} {rows : List Tuple} {i : Nat}
    (h : Place.of side rows = .absent i) : i ≤ rows.length := by
  unfold Place.of at h
  dsimp only at h
  cases hrow : rows[narrow side rows 0 rows.length]? with
  | none =>
    rw [hrow] at h
    cases h
    exact Nat.zero_le _
  | some row =>
    obtain ⟨hinside, -⟩ := List.getElem?_eq_some_iff.mp hrow
    rw [hrow, Option.map_some] at h
    cases hside : side row <;> rw [hside] at h <;> cases h
    · exact hinside
    · exact Nat.le_of_lt hinside

namespace Table

/-- **A row that is put in** takes the place of one row at most, from whose key its own does not
differ. -/
theorem exists_insertRow (t : Table) (row : Tuple) :
    ∃ before same behind, t.rows = before ++ same ++ behind ∧
      (t.insertRow row).rows = before ++ row :: behind ∧ same.length ≤ 1 ∧
      ∀ r ∈ same, ¬ (t.key r).Differs (t.key row) := by
  cases hplace : Place.of (fun probe => compareKeys (t.key probe) (t.key row)) t.rows with
  | found i =>
    obtain ⟨old, hold, heq⟩ := Place.of_eq_found hplace
    obtain ⟨hi, rfl⟩ := List.getElem?_eq_some_iff.mp hold
    refine ⟨t.rows.take i, [t.rows[i]], t.rows.drop (i + 1), ?_, insertRow_of_found hplace hi,
      Nat.le_refl 1, List.forall_mem_singleton.mpr (compareKeys_eq_iff.mp heq)⟩
    rw [List.append_assoc, List.singleton_append, ← List.drop_eq_getElem_cons hi,
      List.take_append_drop]
  | absent i =>
    refine ⟨t.rows.take i, [], t.rows.drop i, ?_,
      insertRow_of_absent hplace (Place.le_length_of_eq_absent hplace), Nat.zero_le 1,
      fun r hr => absurd hr List.not_mem_nil⟩
    rw [List.append_nil, List.take_append_drop]

/-- Rows put in leave the keys of rows as they were. -/
theorem key_insertRow (t : Table) (row r : Tuple) : (t.insertRow row).key r = t.key r := by
  rw [insertRow_eq]
  rfl

theorem sublist_insertRow (t : Table) (row : Tuple) :
    (t.rows.filter fun r => (t.key r).Differs (t.key row)).Sublist (t.insertRow row).rows := by
  obtain ⟨before, same, behind, hrows, hinserted, -, hsame⟩ := t.exists_insertRow row
  have hnone : (same.filter fun r => (t.key r).Differs (t.key row)) = [] :=
    List.filter_eq_nil_iff.mpr fun r hr => by simpa using hsame r hr
  rw [hrows, hinserted, List.filter_append, List.filter_append, hnone, List.append_nil]
  exact List.filter_sublist.append (List.filter_sublist.cons row)

theorem length_le_length_insertRow (t : Table) (row : Tuple) :
    t.rows.length ≤ (t.insertRow row).rows.length := by
  obtain ⟨before, same, behind, hrows, hinserted, hone, -⟩ := t.exists_insertRow row
  rw [hrows, hinserted]
  simp only [List.length_append, List.length_cons]
  omega

/-- No other row comes to a table. -/
theorem mem_of_mem_insertRow {t : Table} {row r : Tuple} (h : r ∈ (t.insertRow row).rows) :
    r = row ∨ r ∈ t.rows := by
  obtain ⟨before, same, behind, hrows, hinserted, -, -⟩ := t.exists_insertRow row
  rw [hinserted, List.mem_append, List.mem_cons] at h
  rw [hrows, List.mem_append, List.mem_append]
  rcases h with hbefore | hnew | hbehind
  · exact .inr (.inl (.inl hbefore))
  · exact .inl hnew
  · exact .inr (.inr hbehind)

/-! ### Rows one after the other -/

theorem mem_of_mem_foldl_insertRow {t : Table} {rows : List Tuple} {r : Tuple}
    (h : r ∈ (rows.foldl insertRow t).rows) : r ∈ rows ∨ r ∈ t.rows := by
  induction rows generalizing t with
  | nil => exact .inr h
  | cons row rows ih =>
    rcases ih h with hrest | hinserted
    · exact .inl (List.mem_cons_of_mem _ hrest)
    · rcases mem_of_mem_insertRow hinserted with rfl | hstood
      · exact .inl List.mem_cons_self
      · exact .inr hstood

theorem sublist_foldl_insertRow (t : Table) (rows : List Tuple) :
    (t.rows.filter fun r => ∀ x ∈ rows, (t.key r).Differs (t.key x)).Sublist
      (rows.foldl insertRow t).rows := by
  induction rows generalizing t with
  | nil => exact List.filter_sublist
  | cons row rows ih =>
    have hrest := ih (t.insertRow row)
    simp only [key_insertRow] at hrest
    -- Of the rows that differ from the first one put in, those stay that differ from the others.
    have hfilter : (t.rows.filter fun r => ∀ x ∈ row :: rows, (t.key r).Differs (t.key x)) =
        (t.rows.filter fun r => (t.key r).Differs (t.key row)).filter
          fun r => ∀ x ∈ rows, (t.key r).Differs (t.key x) := by
      rw [List.filter_filter]
      refine List.filter_congr fun r _ => ?_
      rw [← Bool.decide_and, decide_eq_decide, List.forall_mem_cons, and_comm]
    rw [hfilter]
    exact ((t.sublist_insertRow row).filter _).trans hrest

theorem length_le_length_foldl_insertRow (t : Table) (rows : List Tuple) :
    t.rows.length ≤ (rows.foldl insertRow t).rows.length := by
  induction rows generalizing t with
  | nil => exact Nat.le_refl _
  | cons row rows ih => exact (t.length_le_length_insertRow row).trans (ih _)

/-! ### Rows of a wrong width -/

variable {t t' : Table} {rows : List Tuple} {row : Tuple} {e : StoreError}

/-- **The first row of a wrong width divides the rows.**  Those before it are put in; with it the
insertion fails. -/
theorem insertRows_eq_error_iff : t.insertRows rows = (.error e, t') ↔
    ∃ row behind, rows = t.taken rows ++ row :: behind ∧ row.length ≠ t.layout.columns.length ∧
      e = t.wrongWidth row ∧ t' = (t.taken rows).foldl insertRow t := by
  constructor
  · intro h
    rcases t.insertRows_cases rows with ⟨-, heq⟩ | ⟨row, behind, hrows, hne, heq⟩
    · cases heq.symm.trans h
    · obtain ⟨hfault, hafter⟩ := Prod.mk.inj (heq.symm.trans h)
      exact ⟨row, behind, hrows, hne, (Except.error.inj hfault).symm, hafter.symm⟩
  · rintro ⟨row, behind, hrows, hne, rfl, rfl⟩
    rw [← insertRows_foldl_of_ne hne behind, ← insertRows_append fun _ => length_of_mem_taken,
      ← hrows]

theorem taken_insertRows_of_error (h : t.insertRows rows = (.error e, t')) :
    ∃ row behind, rows = t.taken rows ++ row :: behind ∧
      t.insertRows (t.taken rows) = (.ok (), t') ∧ t'.insertRows [row] = (.error e, t') := by
  obtain ⟨row, behind, hrows, hne, rfl, rfl⟩ := insertRows_eq_error_iff.mp h
  exact ⟨row, behind, hrows, insertRows_of_width fun _ => length_of_mem_taken,
    insertRows_foldl_of_ne hne []⟩

end Table

/-! ### A store -/

namespace Store

variable {s s' : Store} {path : String} {rows : List Tuple}

theorem insertRows_of_get? {t t' : Table} {outcome : Except StoreError Unit}
    (ht : s.tables.get? path = some t) (h : t.insertRows rows = (outcome, t')) :
    s.insertRows path rows = (outcome, { s with tables := s.tables.insert path t' }) := by
  simp only [insertRows, ht, h]

theorem insertRows_of_none (ht : s.tables.get? path = none) (rows : List Tuple) :
    s.insertRows path rows = (.error (notFound "insert rows" path), s) := by
  simp only [insertRows, ht]

theorem stopsAt_of_insertRows {e : StoreError} (h : s.insertRows path rows = (.error e, s')) :
    StopsAt (fun s => s.insertRows path) s s' rows e := by
  refine stopsAt_of_table (fun s => s.insertRows path) Table.insertRows ?_ insertRows_of_get?
    (fun _ => rfl) ?_ h
  · intro s rows hnone
    exact congrArg Prod.snd (insertRows_of_none hnone rows)
  · intro t rows e t' hrows
    obtain ⟨row, behind, heq, htaken, hrow⟩ := Table.taken_insertRows_of_error hrows
    exact ⟨t.taken rows, row, behind, heq, htaken, hrow⟩

end Store

/-- **An insertion keeps the other rows.**  Whether or not it succeeds, it changes nothing but the
rows of the table.  Of these, each stays whose key differs from the keys of all rows to be put in,
and they stay in their order; there are never less rows than before.  Where the values of the keys
compare, that is each row whose key is not among those put in. -/
theorem insertion_keeps_others {s : Store} {path : String} {t : Table}
    (ht : s.tables.get? path = some t) (rows : List Tuple) :
    ∃ t', (s.insertRows path rows).2 = { s with tables := s.tables.insert path t' } ∧
      t' = { t with rows := t'.rows } ∧
      (t.rows.filter fun r => ∀ x ∈ rows, (t.key r).Differs (t.key x)).Sublist t'.rows ∧
      t.rows.length ≤ t'.rows.length ∧
      ∀ r ∈ t.rows, (∀ x ∈ rows, (∀ p ∈ (t.key r).zip (t.key x), (p.1.cmp p.2).isSome) ∧
        ¬ (t.key r).Same (t.key x)) → r ∈ t'.rows := by
  -- Rows that are not taken in take no place, so it is enough to differ from those that are.
  have htaken : ∀ x ∈ t.taken rows, x ∈ rows := fun _ hx =>
    (List.takeWhile_sublist _).subset hx
  have hkept : (t.rows.filter fun r => ∀ x ∈ rows, (t.key r).Differs (t.key x)).Sublist
      ((t.taken rows).foldl Table.insertRow t).rows := by
    refine .trans (List.monotone_filter_right _ ?_) (t.sublist_foldl_insertRow (t.taken rows))
    intro r hr
    simp only [decide_eq_true_eq] at hr ⊢
    exact fun x hx => hr x (htaken x hx)
  refine ⟨(t.taken rows).foldl Table.insertRow t, ?_, Table.foldl_insertRow_eq t _, hkept,
    t.length_le_length_foldl_insertRow _, ?_⟩
  · rw [Store.insertRows_of_get? ht (Prod.eta _).symm, Table.insertRows_snd]
  · intro r hr hothers
    refine hkept.subset (List.mem_filter.mpr ⟨hr, decide_eq_true fun x hx => ?_⟩)
    obtain ⟨hcompares, hne⟩ := hothers x hx
    exact Tuple.differs_of_not_same hcompares hne

namespace Store

/-- A new version of one of the records, and one that is new. -/
def reissues : List Tuple :=
  [[.int .int32 1971, .text "Blue", .text "Reprise"], [.int .int32 1979, .text "Mingus", .null]]

/-- The two other records stay. -/
theorem insertion_keeps_others_records :
    ∃ t', (recordStore.insertRows "/local/records" reissues).2 =
        { recordStore with tables := recordStore.tables.insert "/local/records" t' } ∧
      List.Sublist [[.int .int32 1968, .null, .null], [.int .int32 1976, .text "Hejira", .null]]
        t'.rows ∧
      3 ≤ t'.rows.length := by
  have htable : recordStore.tables.get? "/local/records" = some recordTable := by decide +kernel
  obtain ⟨t', hstore, -, hkept, hlength, -⟩ := insertion_keeps_others htable reissues
  have hothers : (recordTable.rows.filter fun r =>
      ∀ x ∈ reissues, (recordTable.key r).Differs (recordTable.key x)) =
      [[.int .int32 1968, .null, .null], [.int .int32 1976, .text "Hejira", .null]] := by
    decide +kernel
  rw [hothers] at hkept
  exact ⟨t', hstore, hkept, hlength⟩

/-- Titles by the lengths of their records. -/
def lengthLayout : TableLayout where
  columns := [⟨"length", .double⟩, ⟨"title", .text⟩]
  primaryKey := ["length"]
  indexes := []
  properties := .empty
  partitions := []

/-- A store with one record, of length one. -/
def lengthStore : Store :=
  let s := ((Store.new "/local").call (.create "/local/lengths" lengthLayout)).2
  (s.call (.insert "/local/lengths" [[.double (.ofInt .binary64 1), .text "Blue"]])).2

def lengthTable : Table where
  layout := lengthLayout
  rows := [[.double (.ofInt .binary64 1), .text "Blue"]]
  splitPoints := []

/-- In a store that calls lead to, a row that is put in takes the place of one with another key: no
number compares with a NaN. -/
theorem insertion_loses_row :
    History (fun s c => (s.call c).2) (fun _ _ => True) "/local" lengthStore ∧
    lengthStore.tables.get? "/local/lengths" = some lengthTable ∧
    ∃ s' t', lengthStore.insertRows "/local/lengths"
        [[.double (.nan .binary64), .text "Hejira"]] = (.ok (), s') ∧
      s'.tables.get? "/local/lengths" = some t' ∧
      [.double (.ofInt .binary64 1), .text "Blue"] ∈ lengthTable.rows ∧
      ¬ (lengthTable.key [.double (.ofInt .binary64 1), .text "Blue"]).Same
        (lengthTable.key [.double (.nan .binary64), .text "Hejira"]) ∧
      [.double (.ofInt .binary64 1), .text "Blue"] ∉ t'.rows := by
  refine ⟨.step (.step .new trivial) trivial, by decide +kernel, _,
    { lengthTable with rows := [[.double (.nan .binary64), .text "Hejira"]] },
    Prod.ext (by decide +kernel) rfl, by decide +kernel, by decide +kernel, by decide +kernel,
    by decide +kernel⟩

end Store

/-- **What is left of a failed insertion.**  There is no such table, and nothing has changed; or the
rows of the table alone have, by the rows before the first of a wrong width, which can be put in
without those behind them.  That row can then not be put in, with the error that is reported, which
names both widths. -/
theorem failed_insertion {s s' : Store} {path : String} {rows : List Tuple} {e : StoreError}
    (h : s.insertRows path rows = (.error e, s')) :
    Store.StopsAt (fun s => s.insertRows path) s s' rows e ∧
    (s.tables.get? path = none ∧ e = Store.notFound "insert rows" path ∧ s' = s ∨
      ∃ t row behind, s.tables.get? path = some t ∧ rows = t.taken rows ++ row :: behind ∧
        row.length ≠ t.layout.columns.length ∧ e = t.wrongWidth row ∧
        s' = { s with
          tables := s.tables.insert path
            { t with rows := ((t.taken rows).foldl Table.insertRow t).rows } }) := by
  refine ⟨Store.stopsAt_of_insertRows h, ?_⟩
  cases ht : s.tables.get? path with
  | none =>
    rw [Store.insertRows_of_none ht] at h
    cases h
    exact .inl ⟨rfl, rfl, rfl⟩
  | some t =>
    have hstore := Store.insertRows_of_get? ht (Prod.eta (t.insertRows rows)).symm
    obtain ⟨hfails, hafter⟩ := Prod.mk.inj (hstore.symm.trans h)
    obtain ⟨row, behind, hrows, hne, hfault, -⟩ :=
      Table.insertRows_eq_error_iff.mp (Prod.ext hfails rfl)
    refine .inr ⟨t, row, behind, rfl, hrows, hne, hfault, ?_⟩
    rw [← hafter, Table.insertRows_snd, ← Table.foldl_insertRow_eq]

namespace Store

/-- A record, and one that has lost its year and its label. -/
def brokenBatch : List Tuple := [[.int .int32 1979, .text "Mingus", .null], [.text "Wild"]]

/-- The record before the broken one can be put in alone. -/
theorem failed_insertion_records :
    StopsAt (fun s => s.insertRows "/local/records") recordStore
      (recordStore.insertRows "/local/records" brokenBatch).2 brokenBatch
      (.of "insert rows" .badRequest "Expected 3 values, got 1") := by
  have h : recordStore.insertRows "/local/records" brokenBatch =
      (.error (.of "insert rows" .badRequest "Expected 3 values, got 1"),
        (recordStore.insertRows "/local/records" brokenBatch).2) :=
    Prod.ext (by decide +kernel) rfl
  exact (failed_insertion h).1

/-- A store that calls lead to, in which a failed insertion has added a row. -/
theorem insertRows_not_atomic :
    Reached "/local" recordStore ∧ recordStore.tables.get? "/local/records" = some recordTable ∧
    ∃ s' t', recordStore.insertRows "/local/records" brokenBatch =
        (.error (.of "insert rows" .badRequest "Expected 3 values, got 1"), s') ∧
      s'.tables.get? "/local/records" = some t' ∧ t'.rows ≠ recordTable.rows := by
  refine ⟨reached_recordStore, by decide +kernel, _,
    { recordTable with
      rows := recordTable.rows ++ [[.int .int32 1979, .text "Mingus", .null]] },
    Prod.ext (by decide +kernel) rfl, by decide +kernel, by decide +kernel⟩

end Store

end ShardScan
