import ShardScan.Proofs.Store.Alteration
import ShardScan.Proofs.Store.Indexes
import ShardScan.Proofs.Store.Insertions

/-!
# Values of columns that stay

The values of a row are found by their positions, while changes of a table name
columns; each column that goes moves those behind it to other positions, in the
description and in every row.  What a row has under a name is the same before and
behind a list of changes that does not drop the name, and NULL under the names
that the changes put in and leave.

One change realigns a table in this sense, and lists of changes that do can be
put together: a column that the first list adds counts as added by both if the
second does not drop it.

## Main definitions

* `AlterOperation.additions` — the columns that a list of changes adds and does not drop later.
* `TableLayout.Realigned` — rows are moved to a layout under which they read as before.

## Main results

* `TableLayout.Realigned.trans` — changes one after the other realign together.
* `Table.realigned_alter` — every list of changes that can be made realigns a table.
* `Store.width_of_history` — rows are as wide as the columns in every history.
* `alteration_keeps_values` — what an alteration of a store does to the values of rows.
-/

namespace ShardScan

/-! ### Columns that changes add -/

namespace AlterOperation

/-- The columns that a list of changes adds, without those that it drops behind that. -/
def additions : List AlterOperation → List Column
  | [] => []
  | .addColumn c :: rest =>
    if .dropColumn c.name ∈ rest then additions rest else c :: additions rest
  | _ :: rest => additions rest

variable {operations behind : List AlterOperation} {c : Column}

/-- Of the columns of the first changes, those are left that the others do not drop. -/
theorem additions_append (operations behind : List AlterOperation) :
    additions (operations ++ behind) =
      ((additions operations).filter fun c => .dropColumn c.name ∉ behind) ++ additions behind := by
  induction operations with
  | nil => rfl
  | cons operation operations ih =>
    cases operation with
    | addColumn c =>
      rw [List.cons_append, additions, additions, ih]
      by_cases hfirst : .dropColumn c.name ∈ operations
      · rw [if_pos hfirst, if_pos (List.mem_append_left _ hfirst)]
      · by_cases hbehind : .dropColumn c.name ∈ behind
        · simp [hfirst, hbehind]
        · simp [hfirst, hbehind]
    | dropColumn | setProperty | removeProperty =>
      rw [List.cons_append, additions, additions, ih]
      all_goals nofun

/-- A column is added if one of the changes adds it and none behind that drops it. -/
theorem mem_additions : c ∈ additions operations ↔
    ∃ before behind, operations = before ++ .addColumn c :: behind ∧
      .dropColumn c.name ∉ behind := by
  constructor
  · intro hc
    induction operations with
    | nil => cases hc
    | cons operation operations ih =>
      have hrest : c ∈ additions operations → ∃ before behind,
          operation :: operations = before ++ .addColumn c :: behind ∧
            .dropColumn c.name ∉ behind := by
        intro hc
        obtain ⟨before, behind, hform, hkept⟩ := ih hc
        exact ⟨operation :: before, behind, congrArg _ hform, hkept⟩
      cases operation with
      | addColumn d =>
        rw [additions] at hc
        split at hc
        · exact hrest hc
        · next hkept =>
          rcases List.mem_cons.mp hc with rfl | hc
          · exact ⟨[], operations, rfl, hkept⟩
          · exact hrest hc
      | dropColumn | setProperty | removeProperty => exact hrest hc
  · rintro ⟨before, behind, rfl, hkept⟩
    rw [additions_append, additions, if_neg hkept]
    exact List.mem_append_right _ List.mem_cons_self

end AlterOperation

open AlterOperation (additions)

/-! ### Columns that come and go -/

/-- A row has NULL in a column that is new. -/
theorem Tuple.under?_new {row : Tuple} {columns : List Column} {c : Column}
    (hnew : ∀ d ∈ columns, d.name ≠ c.name) (hwidth : row.length = columns.length) :
    under? (row ++ [.null]) (columns ++ [c]) c.name = some .null := by
  induction columns generalizing row with
  | nil =>
    cases List.length_eq_zero_iff.mp hwidth
    simp [under?_cons]
  | cons d columns ih =>
    cases row with
    | nil => cases hwidth
    | cons v row =>
      obtain ⟨hfirst, hrest⟩ := List.forall_mem_cons.mp hnew
      rw [List.cons_append, List.cons_append, under?_cons, if_neg hfirst]
      exact ih hrest (Nat.succ.inj hwidth)

/-- Where names are distinct, the column at a position is the only one of its name. -/
theorem eraseIdx_eq_filter {columns : List Column} {position : Nat} {c : Column}
    (hnames : (columns.map (·.name)).Nodup) (hposition : columns[position]? = some c) :
    columns.eraseIdx position = columns.filter fun d => d.name ≠ c.name := by
  induction columns generalizing position with
  | nil => cases hposition
  | cons d columns ih =>
    rw [List.map_cons, List.nodup_cons] at hnames
    obtain ⟨hfirst, hrest⟩ := hnames
    cases position with
    | zero =>
      cases hposition
      have hothers : ∀ e ∈ columns, e.name ≠ c.name := by
        intro e he heq
        exact hfirst (heq ▸ List.mem_map_of_mem he)
      rw [List.eraseIdx_cons_zero, List.filter_cons_of_neg (by simp)]
      exact (List.filter_eq_self.mpr (by simpa using hothers)).symm
    | succ position =>
      rw [List.getElem?_cons_succ] at hposition
      have hne : d.name ≠ c.name := by
        intro heq
        exact hfirst (heq ▸ List.mem_map_of_mem (List.mem_of_getElem? hposition))
      rw [List.eraseIdx_cons_succ, ih hrest hposition, List.filter_cons_of_pos (by simpa using hne)]

/-! ### Layouts -/

namespace TableLayout

/-- Rows of one layout read, as rows of another, what they did under the names that a list of
changes does not drop, and NULL under those that it adds and leaves; and these are the columns. -/
structure Realigned (t : TableLayout) (operations : List AlterOperation) (t' : TableLayout)
    (move : Tuple → Tuple) : Prop where
  columns : t'.columns =
    (t.columns.filter fun c => .dropColumn c.name ∉ operations) ++ additions operations
  names : (t'.columns.map (·.name)).Nodup
  key : t'.primaryKey = t.primaryKey
  keyKept : ∀ name ∈ t.primaryKey, .dropColumn name ∉ operations
  width : ∀ row : Tuple, row.length = t.columns.length → (move row).length = t'.columns.length
  kept : ∀ c ∈ t.columns, .dropColumn c.name ∉ operations →
    ∀ row : Tuple, row.length = t.columns.length →
      (move row).under? t'.columns c.name = row.under? t.columns c.name
  fresh : ∀ c ∈ additions operations, ∀ row : Tuple, row.length = t.columns.length →
    (move row).under? t'.columns c.name = some .null

variable {t t' t'' : TableLayout} {operations behind : List AlterOperation}
  {move move' : Tuple → Tuple}

/-- Rows can stay as they are where the changes are none of columns. -/
theorem Realigned.of_eq (hnames : (t.columns.map (·.name)).Nodup)
    (hcolumns : t'.columns = t.columns) (hkey : t'.primaryKey = t.primaryKey)
    (hadded : additions operations = []) (hdropped : ∀ name, .dropColumn name ∉ operations) :
    t.Realigned operations t' id where
  columns := by simp [hcolumns, hadded, hdropped]
  names := hcolumns ▸ hnames
  key := hkey
  keyKept name _ := hdropped name
  width row hwidth := by rw [hcolumns, id, hwidth]
  kept c _ _ row _ := by rw [hcolumns, id]
  fresh c hc := by
    rw [hadded] at hc
    cases hc

theorem realigned_addColumn (hnames : (t.columns.map (·.name)).Nodup) {c : Column}
    (hnew : ∀ d ∈ t.columns, d.name ≠ c.name) :
    t.Realigned [.addColumn c] { t with columns := t.columns ++ [c] } (· ++ [.null]) where
  columns := by simp [additions]
  names := by
    rw [List.map_append, List.nodup_append]
    refine ⟨hnames, by simp, ?_⟩
    simpa using hnew
  key := rfl
  keyKept := by simp
  width row hwidth := by simp [hwidth]
  kept d hd _ row hwidth := Tuple.under?_append ⟨d, hd, rfl⟩ hwidth
  fresh d hd row hwidth := by
    cases List.mem_singleton.mp hd
    exact Tuple.under?_new hnew hwidth

theorem realigned_dropColumn (hnames : (t.columns.map (·.name)).Nodup) {position : Nat} {c : Column}
    (hposition : t.columns[position]? = some c) (hkey : c.name ∉ t.primaryKey) :
    t.Realigned [.dropColumn c.name] { t with columns := t.columns.eraseIdx position }
      (·.eraseIdx position) where
  columns := by simp [eraseIdx_eq_filter hnames hposition, additions]
  names := hnames.sublist ((List.eraseIdx_sublist ..).map _)
  key := rfl
  keyKept name hname := by
    rw [List.mem_singleton, AlterOperation.dropColumn.injEq]
    rintro rfl
    exact hkey hname
  width := (carried_dropColumn hposition hkey).width
  kept d hd hdropped row _ := by
    refine Tuple.under?_eraseIdx hposition ?_
    intro heq
    exact hdropped (heq ▸ List.mem_singleton_self _)
  fresh d hd := by cases hd

/-- **Changes one after the other** realign together. -/
theorem Realigned.trans (h : t.Realigned operations t' move) (h' : t'.Realigned behind t'' move') :
    t.Realigned (operations ++ behind) t'' (move' ∘ move) where
  columns := by
    rw [h'.columns, h.columns, List.filter_append, List.filter_filter,
      AlterOperation.additions_append, List.append_assoc]
    congr 1
    refine List.filter_congr fun c _ => ?_
    simp [Bool.and_comm]
  names := h'.names
  key := h'.key.trans h.key
  keyKept name hname := by
    rw [List.mem_append, not_or]
    exact ⟨h.keyKept name hname, h'.keyKept name (h.key ▸ hname)⟩
  width row hwidth := h'.width _ (h.width row hwidth)
  kept c hc hdropped row hwidth := by
    rw [List.mem_append, not_or] at hdropped
    have hthere : c ∈ t'.columns := by
      rw [h.columns]
      exact List.mem_append_left _ (List.mem_filter.mpr ⟨hc, decide_eq_true hdropped.1⟩)
    rw [Function.comp_apply, h'.kept c hthere hdropped.2 _ (h.width row hwidth)]
    exact h.kept c hc hdropped.1 row hwidth
  fresh c hc row hwidth := by
    rw [AlterOperation.additions_append] at hc
    rcases List.mem_append.mp hc with hfirst | hlast
    · obtain ⟨hadded, hdropped⟩ := List.mem_filter.mp hfirst
      have hthere : c ∈ t'.columns := by
        rw [h.columns]
        exact List.mem_append_right _ hadded
      rw [Function.comp_apply, h'.kept c hthere (of_decide_eq_true hdropped) _ (h.width row hwidth)]
      exact h.fresh c hadded row hwidth
    · exact h'.fresh c hlast _ (h.width row hwidth)

/-- Rows keep their keys. -/
theorem Realigned.key_eq {t t' : Table} (h : t.layout.Realigned operations t'.layout move)
    (ht : t.layout.KeyDescribed) {row : Tuple} (hwidth : row.length = t.layout.columns.length) :
    t'.key (move row) = t.key row := by
  rw [Table.key_eq_filterMap, Table.key_eq_filterMap, h.key]
  refine List.filterMap_congr ?_
  intro name hname
  obtain ⟨c, hc, rfl⟩ := ht name hname
  exact h.kept c hc (h.keyKept _ hname) row hwidth

end TableLayout

/-! ### Tables -/

namespace Table

variable {t t' : Table} {operation : AlterOperation} {operations : List AlterOperation}

/-- One change realigns a table. -/
theorem Altered.realigned (h : t.Altered operation t')
    (hnames : (t.layout.columns.map (·.name)).Nodup) :
    ∃ move, t.layout.Realigned [operation] t'.layout move ∧ t'.rows = t.rows.map move := by
  cases h with
  | added column hnew =>
    refine ⟨_, TableLayout.realigned_addColumn hnames ?_, rfl⟩
    simpa [TableLayout.column?] using hnew
  | dropped hposition hkey =>
    exact ⟨_, TableLayout.realigned_dropColumn hnames hposition hkey, rfl⟩
  | set | removed =>
    exact ⟨id, .of_eq hnames rfl rfl rfl (by simp), (List.map_id _).symm⟩

/-- **Changes that can all be made** realign a table. -/
theorem realigned_alter (hnames : (t.layout.columns.map (·.name)).Nodup)
    (h : t.alter operations = (.ok (), t')) :
    ∃ move, t.layout.Realigned operations t'.layout move ∧ t'.rows = t.rows.map move := by
  induction operations generalizing t with
  | nil =>
    cases h
    exact ⟨id, .of_eq hnames rfl rfl rfl (by simp), (List.map_id _).symm⟩
  | cons operation operations ih =>
    rw [alter] at h
    cases hone : t.alterOne operation with
    | error e =>
      rw [hone] at h
      cases h
    | ok next =>
      rw [hone] at h
      obtain ⟨move, hfirst, hrows⟩ := (altered_of_alterOne hone).realigned hnames
      obtain ⟨move', hrest, hrows'⟩ := ih hfirst.names h
      refine ⟨move' ∘ move, hfirst.trans hrest, ?_⟩
      rw [hrows', hrows, List.map_map]

/-- Rows that are put in are as wide as those that are there. -/
theorem width_insertRows (h : ∀ row ∈ t.rows, row.length = t.layout.columns.length)
    {rows : List Tuple} {row : Tuple} (hrow : row ∈ (t.insertRows rows).2.rows) :
    row.length = t.layout.columns.length := by
  rw [insertRows_snd] at hrow
  rcases mem_of_mem_foldl_insertRow hrow with htaken | hstood
  · exact length_of_mem_taken htaken
  · exact h row hstood

end Table

/-! ### Histories -/

namespace Store

variable {s : Store} {database path : String} {t : Table}

/-- **Rows are as wide as the columns** in every history. -/
theorem width_of_history {allowed : Store → SchemeCall → Prop}
    (h : History after allowed database s) (ht : s.tables.get? path = some t) :
    ∀ row ∈ t.rows, row.length = t.layout.columns.length := by
  refine (table_of_history (P := fun t => t.layout.KeyDescribed ∧
    ∀ row ∈ t.rows, row.length = t.layout.columns.length) ?_ ?_ ?_ ?_ h path t ht).2
  · intro path layout hfault
    exact ⟨(TableLayout.layoutFault?_eq_none_iff.mp hfault).2.1, nofun⟩
  · rintro s path t rows - - ⟨hdescribed, hwidth⟩
    have hlayout : (t.insertRows rows).2.layout = t.layout := by
      rw [Table.insertRows_snd, Table.foldl_insertRow_eq]
    rw [hlayout]
    exact ⟨hdescribed, fun row hrow => Table.width_insertRows hwidth hrow⟩
  · -- Also where the last of the changes cannot be made.
    rintro s path t operations - - ⟨hdescribed, hwidth⟩
    obtain ⟨move, hcarried, hrows, -⟩ := Table.carried_alter hdescribed operations
    refine ⟨hcarried.described hdescribed, ?_⟩
    rw [hrows, List.forall_mem_map]
    intro row hrow
    exact hcarried.width row (hwidth row hrow)
  · intro t points hkept
    exact hkept

end Store

open Store (History after)

/-- **An alteration keeps the values of the columns that stay.**  In a store with the tables of any
history of calls, let all of a list of changes be made to a table whose columns have distinct names.
Then the other tables are as they were, and of the columns of the table those are described that the
changes do not drop, in their order, and behind them the columns that they add and do not drop
later; their names are distinct again.  Each row has its key still, one value for each column, the
same value as before under every column that is not dropped, and NULL under every column that is
added and not dropped later. -/
theorem alteration_keeps_values {database path : String} {stored s s' : Store} {t : Table}
    {operations : List AlterOperation} (h : History after (fun _ _ => True) database stored)
    (htables : s.tables = stored.tables) (ht : s.tables.get? path = some t)
    (hnames : (t.layout.columns.map (·.name)).Nodup)
    (hmade : s.alterTable path operations = (.ok (), s')) :
    ∃ t', s' = { s with tables := s.tables.insert path t' } ∧
      (∀ other, other ≠ path → s'.tables.get? other = s.tables.get? other) ∧
      s'.describeTable path = .ok t'.description ∧
      t'.description.columns =
        (t.description.columns.filter fun c => .dropColumn c.name ∉ operations) ++
          additions operations ∧
      (t'.description.columns.map (·.name)).Nodup ∧
      List.Forall₂ (fun row row' : Tuple => t'.key row' = t.key row ∧
          row'.length = t'.description.columns.length ∧
          (∀ c ∈ t.description.columns, .dropColumn c.name ∉ operations →
            row'.under? t'.description.columns c.name =
              row.under? t.description.columns c.name) ∧
          ∀ before c behind, operations = before ++ .addColumn c :: behind →
            .dropColumn c.name ∉ behind →
            row'.under? t'.description.columns c.name = some .null) t.rows t'.rows := by
  rcases Store.alter_of_alterTable hmade with ⟨hfails, -⟩ | ⟨stood, t', hstood, halter, rfl⟩
  · cases hfails
  cases ht.symm.trans hstood
  obtain ⟨move, hrealigned, hrows⟩ := Table.realigned_alter hnames halter
  rw [htables] at ht
  have hdescribed := Store.keyDescribed_of_history h ht
  have hwidth := Store.width_of_history h ht
  refine ⟨t', rfl, ?_, ?_, hrealigned.columns, hrealigned.names, ?_⟩
  · intro other hother
    rw [Dict.get?_insert, if_neg hother]
  · have hthere : (s.tables.insert path t').get? path = some t' := by
      rw [Dict.get?_insert, if_pos rfl]
    simp only [Store.describeTable, Store.view?, hthere]
  · rw [hrows, List.forall₂_map_right_iff, List.forall₂_same]
    intro row hrow
    refine ⟨hrealigned.key_eq hdescribed (hwidth row hrow), hrealigned.width row (hwidth row hrow),
      ?_, ?_⟩
    · intro c hc hkept
      exact hrealigned.kept c hc hkept row (hwidth row hrow)
    · intro before c behind hform hkept
      refine hrealigned.fresh c ?_ row (hwidth row hrow)
      exact AlterOperation.mem_additions.mpr ⟨before, behind, hform, hkept⟩

namespace Store

/-- Two records. -/
def reprisedRows : List Tuple :=
  [[.int .int32 1971, .text "Blue", .text "Reprise"], [.int .int32 1976, .text "Hejira", .null]]

def reprisedStore : Store := titledStore.after (.table (.insert "/local/records" reprisedRows))

/-- The records lose their titles and get new ones, and a column comes and goes in between. -/
def retitling : List AlterOperation :=
  [.dropColumn "title", .addColumn ⟨"stars", .optional (.int .int32)⟩,
    .addColumn ⟨"title", .optional .text⟩, .dropColumn "stars"]

end Store

/-- The labels move up and stay the same, and nothing is left of the titles. -/
theorem alteration_keeps_values_titles :
    ∃ t' : Table, (Store.reprisedStore.alterTable "/local/records" Store.retitling).2.describeTable
        "/local/records" = .ok t'.description ∧
      t'.description.columns =
        [⟨"year", .int .int32⟩, ⟨"label", .optional .text⟩, ⟨"title", .optional .text⟩] ∧
      List.Forall₂ (fun row row' : Tuple =>
        row'.under? t'.description.columns "label" =
          row.under? Store.titledLayout.columns "label" ∧
        row'.under? t'.description.columns "title" = some .null) Store.reprisedRows t'.rows := by
  have hhistory : History after (fun _ _ => True) "/local" Store.reprisedStore :=
    (History.new.step trivial).step trivial
  have htable : Store.reprisedStore.tables.get? "/local/records" =
      some { Table.empty Store.titledLayout with rows := Store.reprisedRows } := by decide +kernel
  have hmade : Store.reprisedStore.alterTable "/local/records" Store.retitling =
      (.ok (), (Store.reprisedStore.alterTable "/local/records" Store.retitling).2) :=
    Prod.ext (by decide +kernel) rfl
  obtain ⟨t', -, -, hdescribe, hcolumns, -, hrows⟩ :=
    alteration_keeps_values hhistory rfl htable (by decide) hmade
  refine ⟨t', hdescribe, hcolumns.trans (by decide), hrows.imp ?_⟩
  rintro row row' ⟨-, -, hkept, hfresh⟩
  constructor
  · exact hkept ⟨"label", .optional .text⟩ (by decide) (by decide)
  · exact hfresh [.dropColumn "title", .addColumn ⟨"stars", .optional (.int .int32)⟩]
      ⟨"title", .optional .text⟩ [.dropColumn "stars"] rfl (by decide)

end ShardScan
