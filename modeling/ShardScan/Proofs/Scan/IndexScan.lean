import ShardScan.Proofs.Scan.Opening
import ShardScan.Proofs.Store.IndexRows
import ShardScan.Store.Delivery

/-!
# Scans of indexes

A read of an index under its path, with all its columns, delivers the entries of
the table's rows in the range that was asked for.  The store makes the index
anew from the rows of the table, takes the entries that the bounds admit and
hands them over in blocks; what comes out of the blocks, put together again, is
one entry for each of these rows, in strictly ascending order.

This takes a path that leads back to the index.  An index without a name or with a
slash in it, or whose table's path ends in one, is never found, and of two indexes
of one name only the first is.

## Main definitions

* `Store.collectBlocks` — a sink that keeps every block.
* `Store.Delivers` — what a read of a path delivers.

## Main results

* `Store.Flows.runStream_eq` — a stream that flows hands over all its blocks.
* `index_scan` — what reads of indexes deliver, in every history.
* `lost_indexes` — indexes that are not found.
-/

namespace ShardScan

namespace Store

/-! ### Running a read -/

/-- A sink that keeps every block. -/
def collectBlocks : Sink (List Block) := fun _ b (blocks, s) => (true, blocks ++ [b], s)

variable {s : Store} {stream : Nat} {columns : List String} {rest : List (List Tuple)}

theorem Flows.deliver_eq (h : s.Flows stream columns rest) {count : Nat} (hcount : rest.length < count)
    (n : Nat) (gathered : List Block) :
    ∃ s', deliver collectBlocks stream count n (gathered, s) =
      (some .success, gathered ++ rest.map (Block.mk columns), s') := by
  obtain ⟨count, rfl⟩ := Nat.exists_eq_succ_of_ne_zero (Nat.ne_zero_of_lt hcount)
  induction rest generalizing s n gathered count with
  | nil =>
    refine ⟨s.endStream stream, ?_⟩
    rw [deliver, h.advance_nil, List.map_nil, List.append_nil]
  | cons rows rest ih =>
    obtain ⟨s', hadvance, hflows, -⟩ := h.advance_cons
    have hrest : rest.length < count := Nat.lt_of_succ_lt_succ hcount
    obtain ⟨count, rfl⟩ := Nat.exists_eq_succ_of_ne_zero (Nat.ne_zero_of_lt hrest)
    obtain ⟨s'', hdeliver⟩ := ih hflows (n + 1) (gathered ++ [⟨columns, rows⟩]) count hrest
    refine ⟨s'', ?_⟩
    rw [deliver, hadvance]
    show deliver collectBlocks stream (count + 1) (n + 1) (gathered ++ [⟨columns, rows⟩], s') = _
    rw [hdeliver, List.append_assoc]
    rfl

/-- **A stream that flows once it is started hands over all its blocks and ends well.** -/
theorem Flows.runStream_eq (h : (s.startStream stream).2.Flows stream columns rest) :
    ∃ s', s.runStream stream collectBlocks [] = (some .success, rest.map (Block.mk columns), s') := by
  rw [runStream, h.blocksLeft_eq]
  exact h.deliver_eq (Nat.lt_succ_self _) 0 []

/-- A read of a path is opened, runs to its end and ends well, and these are the rows of its blocks,
all of them under the columns that were asked for. -/
def Delivers (s : Store) (session : Nat) (path : String) (request : ReadRequest) (rows : List Tuple) :
    Prop :=
  ∃ stream s₁ blocks s₂, s.readTable session path request = (.ok stream, s₁) ∧
    s₁.runStream stream collectBlocks [] = (some .success, blocks, s₂) ∧
    (∀ b ∈ blocks, b.columns = request.columns) ∧ blocks.flatMap (·.rows) = rows

/-- A read of some known columns delivers the rows that the request selects. -/
theorem delivers_selectRows {session : Nat} {path : String} {request : ReadRequest}
    {layout : TableLayout} {rows : List Tuple} {positions : List Nat} (hfaults : s.faults = .none)
    (hblock : 0 < s.blockSize) (hlease : s.leaseFault? session = none)
    (hview : s.view? path = some (layout, rows)) (hne : request.columns ≠ [])
    (hpositions : projection layout request.columns = .ok positions) :
    s.Delivers session path request (selectRows layout rows request positions) := by
  obtain ⟨stream, s₁, hread, hflows, -⟩ :=
    Reader.readTable_flows hfaults hlease hview rfl hne hpositions
  obtain ⟨s₂, hrun⟩ := hflows.runStream_eq
  refine ⟨stream, s₁, _, s₂, hread, hrun, ?_, ?_⟩
  · intro b hb
    obtain ⟨piece, -, rfl⟩ := List.mem_map.mp hb
    rfl
  · rw [List.flatMap_map]
    exact List.flatMap_id'.trans (cut_chunks hblock _).flatten

end Store

open Store (History SchemeCall after)

/-- **Scans of indexes.**  In every history of calls on directories and tables in which the rows put
in have whole keys, an index whose columns the table still has, with values of the columns' types
that are no floating-point numbers, is described under its path with its columns and the rest of the
primary key, and reads of all these columns deliver one entry for each row of the table whose entry
lies in the range of the request, and the entries in strictly ascending order.  The path of the
index leads back to it, no table is there, and it is the first index of its name. -/
theorem index_scan {database path : String} {s : Store} {t : Table} {index : Index}
    (h : History after (fun s c => c.Keyed s) database s) (ht : s.tables.get? path = some t)
    (hindex : t.layout.index? index.name = some index) (hpath : Path.Indexable path index.name)
    (hfree : s.tables.get? (Path.indexTable path index.name) = none)
    (hcolumns : ∀ name ∈ index.columns, ∃ c ∈ t.layout.columns, c.name = name)
    (htyped : t.IndexTyped index) :
    (∃ rest, t.indexKey index = index.columns ++ rest ∧ rest.Sublist t.layout.primaryKey ∧
      rest.Nodup ∧ ∀ name, name ∈ rest ↔ name ∈ t.layout.primaryKey ∧ name ∉ index.columns) ∧
    ∃ layout, s.describeTable (Path.indexTable path index.name) = .ok layout ∧
      layout.primaryKey = t.indexKey index ∧ layout.columns.map (·.name) = t.indexKey index ∧
      ∀ (s' : Store) (session : Nat) (request : ReadRequest), s'.tables = s.tables →
        s'.faults = .none → 0 < s'.blockSize → s'.leaseFault? session = none →
        request.columns = layout.columns.map (·.name) → request.rowLimit = none →
        ∃ rows, s'.Delivers session (Path.indexTable path index.name) request rows ∧
          rows.Perm ((t.rows.map (t.indexEntry index)).filter (request.range.contains ·)) ∧
          rows.Pairwise fun a b => compareKeys a b = .lt := by
  have hordered := Store.ordered_of_history h ht
  have hnames := Table.names_indexView hordered.described hcolumns
  have hview : s.view? (Path.indexTable path index.name) = some (t.indexView index) := by
    rw [Store.view?_indexTable hpath ht hfree, hindex]
    rfl
  refine ⟨t.indexKey_eq index, (t.indexView index).1, ?_, rfl, hnames, ?_⟩
  · rw [Store.describeTable, hview]
  · intro s' session request htables hfaults hblock hlease hall hlimit
    rw [hnames] at hall
    have hview' : s'.view? (Path.indexTable path index.name) = some (t.indexView index) := by
      rw [← hview, Store.view?, Store.view?, htables]
    -- There is a column to ask for, since tables have a key.
    have hne : request.columns ≠ [] := by
      obtain ⟨name, names, hkey⟩ :=
        List.exists_cons_of_ne_nil (Store.primaryKey_ne_nil_of_history h ht)
      have hmem : name ∈ t.indexKey index :=
        Table.mem_indexKey.mpr (.inr (hkey ▸ List.mem_cons_self))
      rw [hall]
      exact List.ne_nil_of_mem hmem
    have hknown : ∀ name ∈ request.columns, ∃ c ∈ (t.indexView index).1.columns, c.name = name := by
      intro name hname
      rw [hall, ← hnames] at hname
      obtain ⟨c, hc, hcname⟩ := List.mem_map.mp hname
      exact ⟨c, hc, hcname⟩
    obtain ⟨positions, hpositions, hpick⟩ := projection_eq_ok hknown
    rw [hall] at hpick
    have hselected := Table.selectRows_indexView hordered.described hcolumns hlimit hpick
    refine ⟨(t.indexView index).2.filter (request.range.contains ·), ?_,
      (t.perm_indexView index).filter _, ?_⟩
    · rw [← hselected]
      exact Store.delivers_selectRows hfaults hblock hlease hview' hne hpositions
    · exact (Table.pairwise_indexView hordered hcolumns htyped).filter _

/-! ### Indexes of some records -/

namespace Store

/-- The records in the order of their years. -/
def titledRows : List Tuple :=
  [[.int .int32 1968, .null, .text "Reprise"], [.int .int32 1971, .text "Mingus", .null],
    [.int .int32 1976, .text "Blue", .text "Asylum"], [.int .int32 1979, .text "Mingus", .null]]

/-- The table of the records with some indexes. -/
def filledTable (indexes : List Index) : Table :=
  { Table.empty { titledLayout with indexes := indexes } with rows := titledRows }

/-- A store with the table at a path. -/
def createdStore (path : String) (indexes : List Index) : Store :=
  after (.new "/local") (.table (.create path { titledLayout with indexes := indexes }))

def filledStore (path : String) (indexes : List Index) : Store :=
  (createdStore path indexes).after (.table (.insert path titledRows))

theorem history_filledStore {path : String} {indexes : List Index}
    (hcreated : (createdStore path indexes).tables.get? path =
      some (.empty { titledLayout with indexes := indexes })) :
    History after (fun s c => c.Keyed s) "/local" (filledStore path indexes) := by
  refine (History.new.step trivial).step ?_
  intro t ht row hrow
  cases hcreated.symm.trans ht
  have hyear : ∀ n, Tuple.IsKey [.int .int32 n] [.int .int32] := fun n =>
    .cons (fun c hc => by cases hc; exact ⟨⟨nofun, nofun⟩, .int .int32 n⟩) .nil
  have htaken : (Table.empty { titledLayout with indexes := indexes }).taken titledRows =
      titledRows := by
    rfl
  rw [htaken, titledRows] at hrow
  simp only [List.mem_cons, List.not_mem_nil, or_false] at hrow
  rcases hrow with rfl | rfl | rfl | rfl <;> exact hyear _

theorem indexTyped_filledTable (indexes : List Index) :
    (filledTable indexes).IndexTyped ⟨"by_title", ["title"]⟩ := by
  have htitle : ∀ title, (StoreType.optional .text).AdmitsKey (.text title) := by
    intro title c hc
    cases hc
    exact ⟨⟨nofun, nofun⟩, .text title⟩
  intro row hrow name hname c hc v hv
  cases List.mem_singleton.mp hname
  cases hc
  simp only [filledTable, titledRows, List.mem_cons, List.not_mem_nil, or_false] at hrow
  rcases hrow with rfl | rfl | rfl | rfl <;> cases hv
  · exact StoreType.admitsKey_null _
  · exact htitle "Mingus"
  · exact htitle "Blue"
  · exact htitle "Mingus"

/-- A request for all entries of the titles from one on. -/
def titleRequest : ReadRequest :=
  (ReadRequest.start.addColumns ["title", "year"]).setLower [.text "C"] true

end Store

/-- The records from the letter C on, by their titles. -/
theorem index_scan_titles :
    let s := ((Store.filledStore "/local/records" [⟨"by_title", ["title"]⟩]).createSession 60).2
    ∃ rows, s.Delivers 1 "/local/records/by_title/indexImplTable" Store.titleRequest rows ∧
      rows.Perm [[.text "Mingus", .int .int32 1971], [.text "Mingus", .int .int32 1979]] ∧
      rows.Pairwise fun a b => compareKeys a b = .lt := by
  intro s
  have hpath : Path.Indexable "/local/records" "by_title" := ⟨.inr (by decide), by decide, by decide⟩
  have hname : Path.indexTable "/local/records" "by_title" =
      "/local/records/by_title/indexImplTable" := by decide +kernel
  have htable : (Store.filledStore "/local/records" [⟨"by_title", ["title"]⟩]).tables.get?
      "/local/records" = some (Store.filledTable [⟨"by_title", ["title"]⟩]) := by decide +kernel
  obtain ⟨-, layout, -, -, hnames, hreads⟩ := index_scan
    (Store.history_filledStore (by decide +kernel)) htable rfl hpath (by decide +kernel)
    (by decide) (Store.indexTyped_filledTable _)
  obtain ⟨rows, hdelivers, hperm, hascend⟩ := hreads s 1 Store.titleRequest rfl rfl (by decide)
    (by decide +kernel) (hnames ▸ by decide +kernel) rfl
  have hentries : (((Store.filledTable [⟨"by_title", ["title"]⟩]).rows.map
      ((Store.filledTable [⟨"by_title", ["title"]⟩]).indexEntry ⟨"by_title", ["title"]⟩)).filter
        (Store.titleRequest.range.contains ·)) =
      [[.text "Mingus", .int .int32 1971], [.text "Mingus", .int .int32 1979]] := by decide +kernel
  rw [hentries] at hperm
  exact ⟨rows, hname ▸ hdelivers, hperm, hascend⟩

/-- Nothing is read at a path where nothing is found. -/
theorem Store.not_delivers_of_view? {s : Store} {path : String} (hview : s.view? path = none)
    (session : Nat) (request : ReadRequest) (rows : List Tuple) :
    ¬ s.Delivers session path request rows := by
  rintro ⟨stream, s₁, blocks, s₂, hread, -⟩
  have hfails : ∃ e, ({ s with requests := s.requests ++ [(path, request)] }).prepareRead session path
      request = .error e := by
    unfold Store.prepareRead
    split
    · exact ⟨_, rfl⟩
    · split
      · exact ⟨_, rfl⟩
      · rw [show Store.view? { s with requests := s.requests ++ [(path, request)] } path = none from
          hview]
        exact ⟨_, rfl⟩
  obtain ⟨e, hfails⟩ := hfails
  rw [Store.readTable] at hread
  dsimp only at hread
  rw [hfails] at hread
  cases hread

/-- An index whose name has a slash, or which has no name, or whose table's path ends in a slash, is
not found, so that no read of it delivers the rows of the table.  Of two indexes of one name the
second has the key of the first. -/
theorem lost_indexes :
    (∃ s t, History after (fun s c => c.Keyed s) "/local" s ∧
      s.tables.get? "/local/records" = some t ∧ t.rows ≠ [] ∧
      ⟨"by/title", ["title"]⟩ ∈ t.layout.indexes ∧
      s.tables.get? (Path.indexTable "/local/records" "by/title") = none ∧
      ∀ session request rows,
        ¬ s.Delivers session (Path.indexTable "/local/records" "by/title") request rows) ∧
    (∃ s t, History after (fun s c => c.Keyed s) "/local" s ∧
      s.tables.get? "/local/records" = some t ∧ t.rows ≠ [] ∧
      ⟨"", ["title"]⟩ ∈ t.layout.indexes ∧
      s.tables.get? (Path.indexTable "/local/records" "") = none ∧
      ∀ session request rows,
        ¬ s.Delivers session (Path.indexTable "/local/records" "") request rows) ∧
    (∃ s t, History after (fun s c => c.Keyed s) "/local" s ∧
      s.tables.get? "/local/records/" = some t ∧ t.rows ≠ [] ∧
      ⟨"by_title", ["title"]⟩ ∈ t.layout.indexes ∧
      s.tables.get? (Path.indexTable "/local/records/" "by_title") = none ∧
      ∀ session request rows,
        ¬ s.Delivers session (Path.indexTable "/local/records/" "by_title") request rows) ∧
    ∃ s t layout, History after (fun s c => c.Keyed s) "/local" s ∧
      s.tables.get? "/local/records" = some t ∧ t.rows ≠ [] ∧
      ⟨"sorted", ["label"]⟩ ∈ t.layout.indexes ∧
      s.tables.get? (Path.indexTable "/local/records" "sorted") = none ∧
      s.describeTable (Path.indexTable "/local/records" "sorted") = .ok layout ∧
      layout.primaryKey = ["title", "year"] ∧
      t.indexKey ⟨"sorted", ["label"]⟩ = ["label", "year"] := by
  refine ⟨?_, ?_, ?_, ?_⟩
  · refine ⟨Store.filledStore "/local/records" [⟨"by/title", ["title"]⟩],
      Store.filledTable [⟨"by/title", ["title"]⟩], Store.history_filledStore (by decide +kernel),
      by decide +kernel, by decide, by decide, by decide +kernel, Store.not_delivers_of_view? ?_⟩
    decide +kernel
  · refine ⟨Store.filledStore "/local/records" [⟨"", ["title"]⟩],
      Store.filledTable [⟨"", ["title"]⟩], Store.history_filledStore (by decide +kernel),
      by decide +kernel, by decide, by decide, by decide +kernel, Store.not_delivers_of_view? ?_⟩
    decide +kernel
  · refine ⟨Store.filledStore "/local/records/" [⟨"by_title", ["title"]⟩],
      Store.filledTable [⟨"by_title", ["title"]⟩], Store.history_filledStore (by decide +kernel),
      by decide +kernel, by decide, by decide, by decide +kernel, Store.not_delivers_of_view? ?_⟩
    decide +kernel
  · let indexes : List Index := [⟨"sorted", ["title"]⟩, ⟨"sorted", ["label"]⟩]
    refine ⟨Store.filledStore "/local/records" indexes, Store.filledTable indexes,
      ((Store.filledTable indexes).indexView ⟨"sorted", ["title"]⟩).1,
      Store.history_filledStore (by decide +kernel), ?_, ?_, ?_, ?_, ?_, ?_, ?_⟩
    all_goals decide +kernel

end ShardScan
