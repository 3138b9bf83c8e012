import ShardScan.Catalog.Tables
import ShardScan.Proofs.Dict
import ShardScan.Proofs.Outcome
import ShardScan.Proofs.Store.Tables

/-!
# Alterations that fail

The changes of a table are made one after the other, and nothing takes back what
was made when a later one cannot be.  An alteration that fails leaves the store
as it was, or as a part of its changes would leave it: those before the first
that cannot be made.  A catalog has all changes put as operations of the store
before it makes the first of them, so a change that the store does not know stops
the others as well; beyond that it is no safer than the store.

## Main definitions

* `Store.StopsAt` — a list of changes leaves what those before one that fails leave.

## Main results

* `Table.alter_append` — changes behind others work on what those leave.
* `Table.alter_eq_error_iff` — the first change that cannot be made divides the list.
* `Store.stopsAt_of_table` — a store stops where its table does.
* `failed_alteration` — what is left of alterations of a store and of a catalog that fail.
-/

namespace ShardScan

/-! ### One table -/

namespace Table

variable {t t' : Table} {done operations : List AlterOperation} {e : StoreError}

/-- Changes behind others work on what those leave. -/
theorem alter_append (h : t.alter done = (.ok (), t')) (rest : List AlterOperation) :
    t.alter (done ++ rest) = t'.alter rest := by
  induction done generalizing t with
  | nil =>
    cases h
    rfl
  | cons operation done ih =>
    rw [List.cons_append, alter]
    rw [alter] at h
    cases hone : t.alterOne operation with
    | error cause =>
      rw [hone] at h
      cases h
    | ok next =>
      rw [hone] at h
      exact ih h

theorem exists_of_alter_eq_error (h : t.alter operations = (.error e, t')) :
    ∃ done operation rest, operations = done ++ operation :: rest ∧
      t.alter done = (.ok (), t') ∧ t'.alterOne operation = .error e := by
  induction operations generalizing t with
  | nil => cases h
  | cons operation operations ih =>
    rw [alter] at h
    cases hone : t.alterOne operation with
    | error cause =>
      rw [hone] at h
      cases h
      exact ⟨[], operation, operations, rfl, rfl, hone⟩
    | ok next =>
      rw [hone] at h
      obtain ⟨done, failing, rest, rfl, hdone, hfails⟩ := ih h
      refine ⟨operation :: done, failing, rest, rfl, ?_, hfails⟩
      rw [alter, hone]
      exact hdone

/-- **Where changes cannot all be made**, those before one of them are made, and that one fails on
what they leave. -/
theorem alter_eq_error_iff : t.alter operations = (.error e, t') ↔
    ∃ done operation rest, operations = done ++ operation :: rest ∧
      t.alter done = (.ok (), t') ∧ t'.alterOne operation = .error e := by
  constructor
  · exact exists_of_alter_eq_error
  · rintro ⟨done, operation, rest, rfl, hdone, hfails⟩
    rw [alter_append hdone, alter, hfails]

end Table

/-! ### A store -/

namespace Store

variable {s s' : Store} {path : String} {operations : List AlterOperation}

/-- Of a list of changes, some are made that could be made alone, and the one behind them fails on
what they leave.  Or nothing is changed at all. -/
def StopsAt {Change Answer Error : Type} (run : Store → List Change → Except Error Answer × Store)
    (s s' : Store) (changes : List Change) (e : Error) : Prop :=
  s' = s ∨ ∃ done change rest answer, done ≠ [] ∧ changes = done ++ change :: rest ∧
    run s done = (.ok answer, s') ∧ run s' [change] = (.error e, s')

/-- Changes of the table at a path that stop at the first one that cannot be made stop there for
the store. -/
theorem stopsAt_of_table {Change : Type} (run : Store → List Change → StoreOutcome Unit)
    (step : Table → List Change → Except StoreError Unit × Table)
    (hnone : ∀ {s changes}, s.tables.get? path = none → (run s changes).2 = s)
    (hsome : ∀ {s t changes outcome t'}, s.tables.get? path = some t →
      step t changes = (outcome, t') →
      run s changes = (outcome, { s with tables := s.tables.insert path t' }))
    (hnil : ∀ t, step t [] = (.ok (), t))
    (hstep : ∀ {t changes e t'}, step t changes = (.error e, t') →
      ∃ done change rest, changes = done ++ change :: rest ∧ step t done = (.ok (), t') ∧
        step t' [change] = (.error e, t'))
    {changes : List Change} {e : StoreError} (h : run s changes = (.error e, s')) :
    StopsAt run s s' changes e := by
  cases ht : s.tables.get? path with
  | none => exact .inl ((congrArg Prod.snd h).symm.trans (hnone ht))
  | some t =>
    rw [hsome ht (Prod.eta _).symm] at h
    obtain ⟨hfails, rfl⟩ := Prod.mk.inj h
    obtain ⟨done, change, rest, rfl, hdone, hchange⟩ := hstep (Prod.ext hfails rfl)
    cases done with
    | nil =>
      -- Nothing was changed before the failure, and the table is put back as it was.
      have hsame : (step t (change :: rest)).2 = t :=
        (Prod.mk.inj ((hnil t).symm.trans hdone)).2.symm
      left
      rw [List.nil_append, hsame, Dict.insert_get? ht]
    | cons first done =>
      refine .inr ⟨first :: done, change, rest, (), nofun, rfl, hsome ht hdone, ?_⟩
      refine (hsome ((Dict.get?_insert ..).trans (if_pos rfl)) hchange).trans ?_
      rw [Dict.insert_insert]

/-- An alteration is one of the table at the path. -/
theorem alterTable_of_alter {t t' : Table} {outcome : Except StoreError Unit}
    (ht : s.tables.get? path = some t) (h : t.alter operations = (outcome, t')) :
    s.alterTable path operations = (outcome, { s with tables := s.tables.insert path t' }) := by
  simp only [alterTable, ht, h]

theorem alter_of_alterTable {outcome : Except StoreError Unit}
    (h : s.alterTable path operations = (outcome, s')) :
    (outcome = .error (notFound "alter table" path) ∧ s' = s) ∨
    ∃ t t', s.tables.get? path = some t ∧ t.alter operations = (outcome, t') ∧
      s' = { s with tables := s.tables.insert path t' } := by
  cases ht : s.tables.get? path with
  | none =>
    simp only [alterTable, ht] at h
    cases h
    exact .inl ⟨rfl, rfl⟩
  | some t =>
    rw [alterTable_of_alter ht (Prod.eta _).symm] at h
    cases h
    exact .inr ⟨t, _, rfl, rfl, rfl⟩

/-- A table that is altered stays at its path. -/
theorem get?_of_alterTable_ok (h : s.alterTable path operations = (.ok (), s')) :
    ∃ t, s'.tables.get? path = some t := by
  rcases alter_of_alterTable h with ⟨hfails, -⟩ | ⟨t, t', -, -, rfl⟩
  · cases hfails
  · exact ⟨t', (Dict.get?_insert ..).trans (if_pos rfl)⟩

theorem stopsAt_of_alterTable {e : StoreError}
    (h : s.alterTable path operations = (.error e, s')) :
    StopsAt (fun s => s.alterTable path) s s' operations e := by
  refine stopsAt_of_table (fun s => s.alterTable path) Table.alter ?_ alterTable_of_alter
    (fun _ => rfl) ?_ h
  · intro s operations hnone
    rw [alterTable, hnone]
  · intro t operations e t' halter
    obtain ⟨done, operation, rest, rfl, hdone, hone⟩ := Table.alter_eq_error_iff.mp halter
    exact ⟨done, operation, rest, rfl, hdone,
      Table.alter_eq_error_iff.mpr ⟨[], operation, [], rfl, rfl, hone⟩⟩

end Store

/-! ### A catalog -/

namespace Catalog

variable {c : Catalog} {s s' : Store} {table : TableName} {path : String}

theorem loadTable_of_get? {t : Table} (hindex : table.isIndex = false)
    (hpath : c.tablePath table = .ok path) (ht : s.tables.get? path = some t) :
    ∃ loaded, c.loadTable s table = .ok loaded := by
  unfold tablePath database link? at hpath
  cases hlink : c.link with
  | none =>
    rw [hlink] at hpath
    cases hpath
  | some link =>
    rw [hlink] at hpath
    cases hpath
    simp [loadTable, link?, hlink, hindex, CatalogTable.lookup, Store.describeTable, Store.view?, ht,
      bind, Except.bind, Except.map, Except.mapError]

/-- A catalog reports what the store does. -/
theorem alterTable_of_error {changes : List TableChange} {operations : List AlterOperation}
    {e : StoreError} (hindex : table.isIndex = false) (hpath : c.tablePath table = .ok path)
    (hoperations : changes.mapM TableChange.operation = .ok operations)
    (h : s.alterTable path operations = (.error e, s')) :
    c.alterTable s table changes = (.error (tableError table e), s') := by
  simp only [alterTable, hindex, hpath, hoperations, h, Bool.false_eq_true, if_false]

/-- The table that was altered can be loaded. -/
theorem alterTable_of_ok {changes : List TableChange} {operations : List AlterOperation}
    (hindex : table.isIndex = false) (hpath : c.tablePath table = .ok path)
    (hoperations : changes.mapM TableChange.operation = .ok operations)
    (h : s.alterTable path operations = (.ok (), s')) :
    ∃ loaded, c.alterTable s table changes = (.ok loaded, s') := by
  obtain ⟨t, ht⟩ := Store.get?_of_alterTable_ok h
  obtain ⟨loaded, hloaded⟩ := loadTable_of_get? hindex hpath ht
  refine ⟨loaded, ?_⟩
  simp only [alterTable, hindex, hpath, hoperations, h, hloaded, Bool.false_eq_true, if_false]

theorem stopsAt_of_alterTable {changes : List TableChange} {e : CatalogError}
    (h : c.alterTable s table changes = (.error e, s')) :
    Store.StopsAt (fun s => c.alterTable s table) s s' changes e := by
  cases hindex : table.isIndex with
  | true =>
    simp only [alterTable, hindex, if_true] at h
    cases h
    exact .inl rfl
  | false =>
  cases hpath : c.tablePath table with
  | error cause =>
    simp only [alterTable, hindex, hpath, Bool.false_eq_true, if_false] at h
    cases h
    exact .inl rfl
  | ok path =>
  cases hoperations : changes.mapM TableChange.operation with
  | error cause =>
    simp only [alterTable, hindex, hpath, hoperations, Bool.false_eq_true, if_false] at h
    cases h
    exact .inl rfl
  | ok operations =>
  obtain ⟨outcome, s'', hstore⟩ : ∃ outcome s'', s.alterTable path operations = (outcome, s'') :=
    ⟨_, _, rfl⟩
  cases outcome with
  | ok answer =>
    obtain ⟨loaded, hloaded⟩ := alterTable_of_ok hindex hpath hoperations hstore
    rw [hloaded] at h
    cases h
  | error cause =>
    rw [alterTable_of_error hindex hpath hoperations hstore] at h
    cases h
    rcases Store.stopsAt_of_alterTable hstore with hsame | hstops
    · exact .inl hsame
    obtain ⟨done, operation, rest, answer, hne, rfl, hdone, hfails⟩ := hstops
    -- The operations were put for the changes one by one.
    obtain ⟨first, change, last, rfl, hfirst, hchange⟩ := mapM_eq_ok_append hoperations
    obtain ⟨loaded, hloaded⟩ := alterTable_of_ok hindex hpath hfirst hdone
    have hlast : [change].mapM TableChange.operation = .ok [operation] := by
      rw [List.mapM_cons, hchange]
      rfl
    refine .inr ⟨first, change, last, loaded, ?_, rfl, hloaded,
      alterTable_of_error hindex hpath hlast hfails⟩
    rintro rfl
    cases hfirst
    exact hne rfl

end Catalog

/-! ### What is left -/

/-- Whether or not all changes can be made, the rows stay, each with its key. -/
theorem Store.alterTable_keys {s : Store} {path : String} {t : Table}
    (ht : s.tables.get? path = some t) (hdescribed : t.layout.KeyDescribed)
    (hwidth : ∀ row ∈ t.rows, row.length = t.layout.columns.length)
    (operations : List AlterOperation) :
    ∃ t', (s.alterTable path operations).2 = { s with tables := s.tables.insert path t' } ∧
      t'.layout.primaryKey = t.layout.primaryKey ∧ t'.splitPoints = t.splitPoints ∧
      t'.rows.map t'.key = t.rows.map t.key := by
  obtain ⟨move, hcarried, hrows, hpoints⟩ := Table.carried_alter hdescribed operations
  refine ⟨(t.alter operations).2, ?_, hcarried.key, hpoints, ?_⟩
  · rw [Store.alterTable_of_alter ht (Prod.eta _).symm]
  · rw [hrows, List.map_map]
    refine List.map_congr_left ?_
    intro row hrow
    exact hcarried.key_eq (hwidth row hrow)

/-- **What is left of a failed alteration.**  The store is as it was, or as the changes before one
of them leave it, which succeed by themselves; that one fails on what they leave, with the error
that is reported.  So it is for a catalog, too.  The rows of the table stay, each with its key. -/
theorem failed_alteration :
    (∀ (s s' : Store) path operations e, s.alterTable path operations = (.error e, s') →
      Store.StopsAt (fun s => s.alterTable path) s s' operations e) ∧
    (∀ (c : Catalog) (s s' : Store) table changes e,
      c.alterTable s table changes = (.error e, s') →
      Store.StopsAt (fun s => c.alterTable s table) s s' changes e) ∧
    ∀ (s : Store) path t, s.tables.get? path = some t → t.layout.KeyDescribed →
      (∀ row ∈ t.rows, row.length = t.layout.columns.length) →
      ∀ operations, ∃ t',
        (s.alterTable path operations).2 = { s with tables := s.tables.insert path t' } ∧
        t'.layout.primaryKey = t.layout.primaryKey ∧ t'.splitPoints = t.splitPoints ∧
        t'.rows.map t'.key = t.rows.map t.key := by
  refine ⟨?_, ?_, ?_⟩
  · intro s s' path operations e h
    exact Store.stopsAt_of_alterTable h
  · intro c s s' table changes e h
    exact Catalog.stopsAt_of_alterTable h
  · intro s path t ht hdescribed hwidth operations
    exact Store.alterTable_keys ht hdescribed hwidth operations

namespace Store

/-- Changes of the records: a property and the loss of a column, and one that cannot be made. -/
def recordChanges : List AlterOperation :=
  [.setProperty "owner" "archive", .dropColumn "year", .dropColumn "genre"]

/-- A store that calls lead to, in which a failed alteration has set a property and has taken a
column from the layout and from every row. -/
theorem alterTable_not_atomic :
    Reached "/local" recordStore ∧ recordStore.tables.get? "/local/records" = some recordTable ∧
    ∃ s' t', recordStore.alterTable "/local/records" recordChanges =
        (.error (Table.alterOne.refused "Unknown column genre"), s') ∧
      s'.tables.get? "/local/records" = some t' ∧
      t'.layout.columns ≠ recordTable.layout.columns ∧
      t'.layout.properties ≠ recordTable.layout.properties ∧ t'.rows ≠ recordTable.rows := by
  refine ⟨reached_recordStore, by decide +kernel, _,
    { recordTable with
      layout := { recordTable.layout with
        columns := [⟨"title", .optional .text⟩, ⟨"label", .optional .text⟩]
        properties := Dict.empty.insert "owner" "archive" }
      rows := [[.null, .null], [.text "Blue", .null], [.text "Hejira", .null]] },
    Prod.ext (by decide +kernel) rfl, by decide +kernel, by decide +kernel, by decide +kernel,
    by decide +kernel⟩

/-- The two changes that could be made are all that is left of the three, and the titles stay. -/
theorem failed_alteration_records :
    StopsAt (fun s => s.alterTable "/local/records") recordStore
      (recordStore.alterTable "/local/records" recordChanges).2 recordChanges
      (Table.alterOne.refused "Unknown column genre") ∧
    ∃ t', (recordStore.alterTable "/local/records" recordChanges).2 =
        { recordStore with tables := recordStore.tables.insert "/local/records" t' } ∧
      t'.layout.primaryKey = ["title"] ∧ t'.splitPoints = [] ∧
      t'.rows.map t'.key = [[.null], [.text "Blue"], [.text "Hejira"]] := by
  obtain ⟨hstore, -, hkeys⟩ := failed_alteration
  have htable : recordStore.tables.get? "/local/records" = some recordTable := by decide +kernel
  have hdescribed : recordTable.layout.KeyDescribed := by
    intro name hname
    cases List.mem_singleton.mp hname
    exact ⟨⟨"title", .optional .text⟩, by decide, rfl⟩
  refine ⟨hstore _ _ _ _ _ (Prod.ext (by decide +kernel) rfl), ?_⟩
  exact hkeys _ _ _ htable hdescribed (by decide +kernel) recordChanges

end Store

end ShardScan
