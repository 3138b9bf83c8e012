import ShardScan.Proofs.Store.Kept
import ShardScan.Store.Session

/-!
# The tables of a store

A call that changes tables leaves each table behind it in one of a few ways: the
table stood before, at its path or at another, or it is new, or it is what rows,
changes or split points made of the one at its path.  A call that fails is no
exception; what it did before it failed stays done.

Whatever holds of new tables and is kept by these operations therefore holds of
every table that a store ever has.

## Main definitions

* `Store.TableCall`, `Store.call` — the calls that change tables.
* `Store.Origin` — where a table behind a call comes from.
* `Store.AllMade` — every table of the store is made of values of its key's types.
* `Store.Reached` — the stores that calls lead to as long as the rows put in have whole keys.

## Main results

* `Store.AllMade.call` — calls keep every table made.
* `Store.store_representation` — in every store that is reached the rows of every table are in
  order, and rows put in are laid over those that were there.
-/

namespace ShardScan.Store

/-! ### Calls -/

/-- A call that changes the tables of a store. -/
inductive TableCall
  | create (path : String) (layout : TableLayout)
  | insert (path : String) (rows : List Tuple)
  | alter (path : String) (operations : List AlterOperation)
  | split (path : String) (points : List Tuple)
  | rename (source target : String)
  | drop (path : String)

/-- The outcome of a call, and the store behind it. -/
def call (s : Store) : TableCall → StoreOutcome Unit
  | .create path layout => s.createTable path layout
  | .insert path rows => s.insertRows path rows
  | .alter path operations => s.alterTable path operations
  | .split path points => s.splitTable path points
  | .rename source target => s.renameTable source target
  | .drop path => s.dropTable path

/-- Where a table at a path behind a call comes from. -/
inductive Origin (s : Store) (path : String) : TableCall → Table → Prop
  /-- It stood before, at the path or where it was moved from. -/
  | stood {c : TableCall} {t : Table} {path' : String} (h : s.tables.get? path' = some t) :
    Origin s path c t
  | created {layout : TableLayout} (hfault : layoutFault? path layout = none) :
    Origin s path (.create path layout) (.empty layout)
  | inserted {t : Table} {rows : List Tuple} (h : s.tables.get? path = some t) :
    Origin s path (.insert path rows) (t.insertRows rows).2
  | altered {t : Table} {operations : List AlterOperation} (h : s.tables.get? path = some t) :
    Origin s path (.alter path operations) (t.alter operations).2
  | cut {t : Table} {points : List Tuple} (h : s.tables.get? path = some t) :
    Origin s path (.split path points) (t.split points)

variable {s : Store}

@[simp] theorem tables_makeDirectory (s : Store) (path : String) :
    (s.makeDirectory path).2.tables = s.tables := by
  unfold makeDirectory
  dsimp only
  repeat' split
  all_goals rfl

/-- A table that takes its place among the others is the one behind the call, or stood before. -/
theorem origin_of_insert {c : TableCall} {path path' : String} {t t' : Table}
    (ht : Origin s path c t) (h : (s.tables.insert path t).get? path' = some t') :
    Origin s path' c t' := by
  rw [Dict.get?_insert] at h
  split at h
  · next heq =>
    cases h
    rw [heq]
    exact ht
  · exact .stood h

theorem origin_of_createTable {path path' : String} {layout : TableLayout} {t : Table}
    (h : (s.createTable path layout).2.tables.get? path' = some t) :
    Origin s path' (.create path layout) t := by
  have hdirectory := tables_makeDirectory s (Path.parent path)
  unfold createTable at h
  split at h
  · exact .stood h
  · next hfault =>
    split at h
    · next heq =>
      rw [heq] at hdirectory
      rw [hdirectory] at h
      exact .stood h
    · next heq =>
      rw [heq] at hdirectory
      split at h
      · rw [hdirectory] at h
        exact .stood h
      · dsimp only at h hdirectory
        rw [hdirectory] at h
        exact origin_of_insert (.created hfault) h

/-- **Every table behind a call has an origin before it.** -/
theorem origin_of_call {c : TableCall} {path : String} {t : Table}
    (h : (s.call c).2.tables.get? path = some t) : Origin s path c t := by
  cases c with
  | create path' layout => exact origin_of_createTable h
  | insert path' rows =>
    rw [call, insertRows] at h
    split at h
    · exact .stood h
    · next hstood => exact origin_of_insert (.inserted hstood) h
  | alter path' operations =>
    rw [call, alterTable] at h
    split at h
    · exact .stood h
    · next hstood => exact origin_of_insert (.altered hstood) h
  | split path' points =>
    rw [call, splitTable] at h
    split at h
    · exact .stood h
    · next hstood => exact origin_of_insert (.cut hstood) h
  | rename source target =>
    rw [call, renameTable] at h
    split at h
    · exact .stood h
    · split at h
      · exact .stood h
      · next hstood =>
        rw [Dict.get?_insert] at h
        split at h
        · cases h
          exact .stood hstood
        · rw [Dict.get?_erase] at h
          split at h
          · cases h
          · exact .stood h
  | drop path' =>
    rw [call, dropTable] at h
    split at h
    · rw [Dict.get?_erase] at h
      split at h
      · cases h
      · exact .stood h
    · exact .stood h

/-! ### Tables that are made -/

/-- Every table of the store is made of values of its key's types. -/
def AllMade (s : Store) : Prop := ∀ path t, s.tables.get? path = some t → t.Made

/-- The values of a call are of the key's types. -/
def TableCall.Typed (s : Store) : TableCall → Prop
  | .create _ layout => ∀ type ∈ layout.keyTypes, type.IsRanked
  | .insert path rows => ∀ t, s.tables.get? path = some t →
    ∀ row ∈ rows, (t.key row).Fits t.layout.keyTypes
  | .split path points => ∀ t, s.tables.get? path = some t →
    ∀ p ∈ points, p ≠ [] ∧ p.Fits t.layout.keyTypes
  | _ => True

/-- Calls keep every table made. -/
theorem AllMade.call (h : s.AllMade) {c : TableCall} (hc : c.Typed s) : (s.call c).2.AllMade := by
  intro path t ht
  cases origin_of_call ht with
  | stood hstood => exact h _ _ hstood
  | created hfault => exact .empty hfault hc
  | inserted hstood => exact (h _ _ hstood).insertRows (hc _ hstood)
  | altered hstood => exact (h _ _ hstood).alter
  | cut hstood => exact (h _ _ hstood).split (hc _ hstood)

/-! ### Stores that are reached -/

/-- The rows that a call takes in have whole keys; nothing is asked of any other call. -/
def TableCall.Keyed (s : Store) : TableCall → Prop
  | .insert path rows => ∀ t, s.tables.get? path = some t →
    ∀ row ∈ t.taken rows, (t.key row).IsKey t.layout.keyTypes
  | _ => True

/-- The stores that calls lead to, successful or not. -/
inductive Reached (database : String) : Store → Prop
  | new : Reached database (.new database)
  | call {s : Store} {c : TableCall} (h : Reached database s) (hc : c.Keyed s) :
    Reached database (s.call c).2

/-- The rows of every table that is reached are in order. -/
theorem Reached.ordered {database : String} (h : Reached database s) {path : String} {t : Table}
    (ht : s.tables.get? path = some t) : t.Ordered := by
  induction h generalizing path t with
  | new => cases ht
  | call _ hc ih =>
    cases origin_of_call ht with
    | stood hstood => exact ih hstood
    | created hfault => exact Table.ordered_empty hfault
    | inserted hstood => exact (ih hstood).insertRows (hc _ hstood)
    | altered hstood => exact (ih hstood).alter _
    | cut hstood => exact (ih hstood).split _

/-- **Store representation.**  In every store that calls lead to, each row of a table has one value
under every column, the key columns are among the columns, and the rows ascend strictly by their
keys.  A successful insertion changes nothing but the table's rows, and the row of each key in the
way that laying the rows over the others, one after the other, does. -/
theorem store_representation {database : String} (h : Reached database s) :
    (∀ path t, s.tables.get? path = some t →
      (∀ row ∈ t.rows, row.length = t.layout.columns.length) ∧
      (∀ name ∈ t.layout.primaryKey, ∃ c ∈ t.layout.columns, c.name = name) ∧
      t.rows.Pairwise fun a b => compareKeys (t.key a) (t.key b) = .lt) ∧
    ∀ path t rows, s.tables.get? path = some t →
      (∀ row ∈ rows, (t.key row).IsKey t.layout.keyTypes) →
      (s.insertRows path rows).1 = .ok () →
      ∃ t', (s.insertRows path rows).2 = { s with tables := s.tables.insert path t' } ∧
        t'.layout = t.layout ∧ t'.splitPoints = t.splitPoints ∧
        ∀ key : Tuple, key.IsKey t.layout.keyTypes →
          t'.rowOf? key = rows.foldl t.overlay t.rowOf? key := by
  constructor
  · intro path t ht
    have hordered := h.ordered ht
    exact ⟨hordered.width, hordered.described, hordered.ascend⟩
  · intro path t rows ht hkeys hsuccess
    simp only [insertRows, ht] at hsuccess ⊢
    have hrows : (t.insertRows rows).2 = { t with rows := (t.insertRows rows).2.rows } := by
      rw [Table.insertRows_snd]
      exact Table.foldl_insertRow_eq t _
    refine ⟨_, rfl, ?_, ?_, ?_⟩
    · rw [hrows]
    · rw [hrows]
    · exact fun key hkey => (h.ordered ht).rowOf?_insertRows hsuccess hkeys hkey

/-- A table of records by their titles. -/
def recordLayout : TableLayout where
  columns := [⟨"year", .int .int32⟩, ⟨"title", .optional .text⟩]
  primaryKey := ["title"]
  indexes := []
  properties := .empty
  partitions := []

/-- A store with three records, one of them without a title, that was to get a fourth of the wrong
width, and then a further column. -/
def recordStore : Store :=
  let s := ((Store.new "/local").call (.create "/local/records" recordLayout)).2
  let s := (s.call (.insert "/local/records" [[.int .int32 1976, .text "Hejira"],
    [.int .int32 1971, .text "Blue"], [.int .int32 1968, .null], [.text "Mingus"]])).2
  (s.call (.alter "/local/records" [.addColumn ⟨"label", .optional .text⟩])).2

def recordTable : Table where
  layout := { recordLayout with columns := recordLayout.columns ++ [⟨"label", .optional .text⟩] }
  rows := [[.int .int32 1968, .null, .null], [.int .int32 1971, .text "Blue", .null],
    [.int .int32 1976, .text "Hejira", .null]]
  splitPoints := []

theorem isKey_title (title : String) : Tuple.IsKey [.text title] [.optional .text] := by
  refine .cons ?_ .nil
  intro c hc
  cases hc
  exact ⟨⟨nofun, nofun⟩, .text title⟩

theorem reached_recordStore : Reached "/local" recordStore := by
  refine .call (.call (.call .new trivial) ?_) trivial
  intro t ht row hrow
  have htable : ((Store.new "/local").call (.create "/local/records" recordLayout)).2.tables.get?
      "/local/records" = some (.empty recordLayout) := by decide +kernel
  cases htable.symm.trans ht
  have htaken : (Table.empty recordLayout).taken [[.int .int32 1976, .text "Hejira"],
      [.int .int32 1971, .text "Blue"], [.int .int32 1968, .null], [.text "Mingus"]] =
      [[.int .int32 1976, .text "Hejira"], [.int .int32 1971, .text "Blue"],
        [.int .int32 1968, .null]] := by decide +kernel
  rw [htaken] at hrow
  simp only [List.mem_cons, List.not_mem_nil, or_false] at hrow
  rcases hrow with rfl | rfl | rfl
  · exact isKey_title "Hejira"
  · exact isKey_title "Blue"
  · exact .cons (StoreType.admitsKey_null _) .nil

/-- The record without a title comes first, and a second record of a title replaces the first. -/
theorem store_representation_records :
    (recordTable.rows.Pairwise fun a b =>
      compareKeys (recordTable.key a) (recordTable.key b) = .lt) ∧
    ∃ t', (recordStore.insertRows "/local/records"
        [[.int .int32 2021, .text "Blue", .text "Reprise"]]).2 =
        { recordStore with tables := recordStore.tables.insert "/local/records" t' } ∧
      t'.rowOf? [.text "Blue"] = some [.int .int32 2021, .text "Blue", .text "Reprise"] ∧
      t'.rowOf? [.text "Hejira"] = some [.int .int32 1976, .text "Hejira", .null] := by
  have htable : recordStore.tables.get? "/local/records" = some recordTable := by decide +kernel
  obtain ⟨horder, hinsert⟩ := store_representation reached_recordStore
  obtain ⟨t', hstore, -, -, hrows⟩ := hinsert "/local/records" recordTable
    [[.int .int32 2021, .text "Blue", .text "Reprise"]] htable
    (List.forall_mem_singleton.mpr (isKey_title "Blue")) (by decide +kernel)
  refine ⟨(horder _ _ htable).2.2, t', hstore, ?_, ?_⟩
  · rw [hrows _ (isKey_title "Blue")]
    decide +kernel
  · rw [hrows _ (isKey_title "Hejira")]
    decide +kernel

end ShardScan.Store
