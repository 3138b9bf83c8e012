import ShardScan.Proofs.Scan.Exhaust
import ShardScan.Proofs.Store.Chunks
import ShardScan.Proofs.Store.Columns

/-!
# What a new reader is going to get

A new reader opens a read over the part of the planned range that lies in its
shard.  The store takes the rows whose keys the request admits, as many as it
wants, and cuts them into blocks under the columns that were asked for; the
reader puts the rows of all blocks together again.

## Main definitions

* `Table.engineRow` — a row of a table under some columns, as engine values.
* `Table.readRows` — the rows of a table in a range, at most a number of them.

## Main results

* `Reader.new_answers` — a new reader will deliver the rows of its range.
-/

namespace ShardScan

/-! ### Rows under columns -/

namespace Table

/-- A row under some columns, as engine values. -/
def engineRow (t : Table) (names : List String) (row : Tuple) : List Scalar :=
  names.filterMap fun name => (row.under? t.layout.columns name).map Value.toEngine

/-- The rows with keys in a range, at most as many as the limit says. -/
def readRows (t : Table) (range : KeyRange) (limit : Option (Word .u64)) : List Tuple :=
  let admitted := t.rows.filter fun row => range.contains (t.key row)
  match limit with
  | some limit => admitted.take limit.val.toNat
  | none => admitted

end Table

/-- The columns of a request that a table has are found, and rows are cut to them. -/
theorem projection_eq_ok {layout : TableLayout} {names : List String}
    (hknown : ∀ name ∈ names, ∃ c ∈ layout.columns, c.name = name) :
    ∃ positions, Store.projection layout names = .ok positions ∧
      ∀ row : Tuple, row.pick positions = names.filterMap (row.under? layout.columns) := by
  induction names with
  | nil => exact ⟨[], rfl, fun _ => rfl⟩
  | cons name names ih =>
    obtain ⟨positions, hpositions, hpick⟩ :=
      ih fun name' hname' => hknown name' (List.mem_cons_of_mem name hname')
    have hsome : (layout.columns.findIdx? fun c => c.name == name).isSome := by
      obtain ⟨c, hc, hname⟩ := hknown name List.mem_cons_self
      rw [List.findIdx?_isSome, List.any_eq_true]
      exact ⟨c, hc, beq_iff_eq.mpr hname⟩
    obtain ⟨position, hposition⟩ := Option.isSome_iff_exists.mp hsome
    refine ⟨position :: positions, ?_, ?_⟩
    · rw [Store.projection, hposition, hpositions]
      rfl
    · intro row
      have hvalue : row.under? layout.columns name = some (row[position]?.getD .null) := by
        rw [Tuple.under?, hposition]
        rfl
      rw [List.filterMap_cons_some hvalue, ← hpick row]
      rfl

section Projected

variable {names : List String} {value : String → Option Value}

/-- Under some names, of which one may occur twice, the values of the names are found again. -/
theorem lookup_zip_filterMap (hvalue : ∀ name ∈ names, (value name).isSome) {name : String}
    (hname : name ∈ names) : (names.zip (names.filterMap value)).lookup name = value name := by
  induction names with
  | nil => cases hname
  | cons first names ih =>
    obtain ⟨v, hv⟩ := Option.isSome_iff_exists.mp (hvalue first List.mem_cons_self)
    rw [List.filterMap_cons_some hv, List.zip_cons_cons, List.lookup_cons]
    by_cases hfirst : name = first
    · subst hfirst
      rw [beq_self_eq_true, hv]
    · have hne : (name == first) = false := by simpa using hfirst
      rw [hne]
      exact ih (fun n hn => hvalue n (List.mem_cons_of_mem first hn))
        ((List.mem_cons.mp hname).resolve_left hfirst)

theorem project_filterMap (hvalue : ∀ name ∈ names, (value name).isSome) (rows : List Tuple) :
    Block.project ⟨names, rows⟩ names (names.filterMap value) =
      names.filterMap fun name => (value name).map Value.toEngine := by
  rw [Block.project]
  refine List.filterMap_congr ?_
  intro name hname
  rw [lookup_zip_filterMap hvalue hname]

end Projected

/-- What a request over a table delivers. -/
theorem selectRows_eq {t : Table} {request : ReadRequest} {positions : List Nat}
    {names : List String}
    (hpick : ∀ row : Tuple, row.pick positions = names.filterMap (row.under? t.layout.columns)) :
    Store.selectRows t.description t.rows request positions =
      (t.readRows request.range request.rowLimit).map
        fun row => names.filterMap (row.under? t.layout.columns) := by
  have hcut : (fun row : Tuple => names.filterMap (row.under? t.layout.columns)) =
      fun row => row.pick positions := funext fun row => (hpick row).symm
  rw [hcut]
  rfl

/-! ### What a shard asks for -/

namespace Shard

/-- A shard of a table that a store has, with nothing in the way of reading it. -/
structure Readable (shard : Shard) (s : Store) (t : Table) (names : List String) : Prop where
  table : s.tables.get? shard.plan.tablePath = some t
  faults : s.faults = .none
  block : 0 < s.blockSize
  columns : shard.plan.outColumns = names
  some_column : names ≠ []
  known : ∀ name ∈ names, ∃ c ∈ t.layout.columns, c.name = name
  life : 0 < shard.plan.sessionSeconds.val.toNat
  clock : shard.plan.sessionSeconds.val.toNat < Store.clockSeconds
  depth : 0 < shard.plan.queueDepth.val.toNat
  range : shard.effectiveRange? = some shard.effectiveRange
  lower : ∃ values inclusive, shard.effectiveRange.lower = .ofTuple values inclusive
  upper : ∃ values inclusive, shard.effectiveRange.upper = .ofTuple values inclusive

end Shard

/-- A bound passes through a request as it is. -/
theorem toKeyBound_side (values : Tuple) (inclusive : Bool) :
    RequestBound.toKeyBound (Reader.request.side (.ofTuple values inclusive)) =
      .ofTuple values inclusive := by
  cases values <;> rfl

namespace Reader

variable {shard : Shard} {s : Store} {t : Table} {names : List String} {timeoutSeconds : Word .u64}

/-- A new reader asks for the keys of its range. -/
theorem range_request (h : shard.Readable s t names) :
    (Reader.new shard timeoutSeconds).request.range = shard.effectiveRange := by
  obtain ⟨lower, hlower, heq⟩ := h.lower
  obtain ⟨upper, hupper, heq'⟩ := h.upper
  have hrange : shard.effectiveRange = ⟨.ofTuple lower hlower, .ofTuple upper hupper⟩ := by
    rw [← heq, ← heq']
  rw [ReadRequest.range, request]
  dsimp only
  rw [show (Reader.new shard timeoutSeconds).feed.range = shard.effectiveRange from rfl, hrange,
    toKeyBound_side, toKeyBound_side]

/-- A session of some seconds that the clock can count is opened, and is alive. -/
theorem createSession_eq (hfaults : s.faults = .none) {seconds : Nat} (hlife : 0 < seconds)
    (hclock : seconds < Store.clockSeconds) :
    ∃ session s', s.createSession seconds = (.ok session, s') ∧ s'.leaseFault? session = none ∧
      s.SameTables s' := by
  have hsession : s.faults.failSession = none := by rw [hfaults]; rfl
  have hzero : (seconds == 0) = false := by simpa using Nat.ne_of_gt hlife
  let leases := s.leases ++ [⟨false, s.epoch, false⟩]
  refine ⟨leases.length, { s with leases := leases }, ?_, ?_, ⟨rfl, rfl, rfl⟩⟩
  · rw [Store.createSession, hsession]
    dsimp only
    rw [if_neg (Nat.not_le.mpr hclock), hzero]
  · have hlease : Store.lease? { s with leases := leases } leases.length =
        some ⟨false, s.epoch, false⟩ := by
      simp [Store.lease?, leases]
    rw [Store.leaseFault?, hlease]
    simp

/-- A read of a table or index is opened, and its stream flows once it is started. -/
theorem readTable_flows {path : String} {request : ReadRequest} {session : Nat} {layout : TableLayout}
    {rows : List Tuple} {columns : List String} {positions : List Nat} (hfaults : s.faults = .none)
    (hlease : s.leaseFault? session = none) (hview : s.view? path = some (layout, rows))
    (hcolumns : request.columns = columns) (hne : columns ≠ [])
    (hpositions : Store.projection layout columns = .ok positions) :
    ∃ stream s', s.readTable session path request = (.ok stream, s') ∧
      (s'.startStream stream).2.Flows stream columns
        (Store.chunks s.blockSize (Store.selectRows layout rows request positions)) ∧
      s.SameTables (s'.startStream stream).2 := by
  let s₁ : Store := { s with requests := s.requests ++ [(path, request)] }
  have hview₁ : s₁.view? path = some (layout, rows) := hview
  have hsession : s₁.leaseFault? session = none := hlease
  have hread : s₁.faults.failRead = none := by
    rw [show s₁.faults = .none from hfaults]
    rfl
  have hsome : request.columns.isEmpty = false := by
    rw [hcolumns]
    exact List.isEmpty_eq_false_iff.mpr hne
  let blocks := Store.chunks s.blockSize (Store.selectRows layout rows request positions)
  have hprepare : s₁.prepareRead session path request = .ok blocks := by
    rw [Store.prepareRead, hsession]
    dsimp only
    rw [hread]
    dsimp only
    rw [hview₁]
    dsimp only
    rw [hsome, if_neg Bool.false_ne_true, hcolumns, hpositions]
  -- The stream gets the next free number, and starts before its first block.
  let opened : ReadStream := ⟨session, columns, blocks, s.faults, false, .unstarted⟩
  let s₂ : Store := { s₁ with streams := s.streams ++ [opened] }
  have hfound : s₂.stream? s.streams.length = some opened := by
    simp [Store.stream?, s₂]
  have hstart : (s₂.startStream s.streams.length).2 =
      s₂.modifyStream s.streams.length fun r => { r with phase := .running 0 r.blocks } := by
    rw [Store.startStream, hfound]
    dsimp only
    rw [if_pos rfl]
  refine ⟨s.streams.length, s₂, ?_, ?_, ?_⟩
  · rw [Store.readTable]
    dsimp only
    rw [hprepare, hcolumns]
  · rw [hstart]
    exact ⟨_, 0, Store.stream?_modifyStream hfound _, rfl, rfl, hfaults, rfl, hlease⟩
  · rw [hstart]
    exact ⟨rfl, rfl, rfl⟩

/-- The blocks that a read of the table delivers, under the columns that were asked for. -/
def readBlocks (t : Table) (names : List String) (size : Nat) (rows : List Tuple) : List Block :=
  (Store.chunks size (rows.map fun row => names.filterMap (row.under? t.layout.columns))).map
    fun rows => ⟨names, rows⟩

theorem conforms_readBlocks (hknown : ∀ name ∈ names, ∃ c ∈ t.layout.columns, c.name = name)
    {size : Nat} (hsize : 0 < size) (rows : List Tuple) :
    ∀ b ∈ readBlocks t names size rows, b.Conforms names := by
  intro b hb
  obtain ⟨piece, hpiece, rfl⟩ := List.mem_map.mp hb
  refine ⟨.refl _, ?_⟩
  intro row hrow
  have hmem := List.mem_flatten_of_mem hpiece hrow
  rw [(Store.cut_chunks hsize _).flatten] at hmem
  obtain ⟨full, -, rfl⟩ := List.mem_map.mp hmem
  rw [List.filterMap_length_eq_length]
  intro name hname
  exact Tuple.isSome_under?.mpr (hknown name hname)

/-- The rows of the blocks are those of the table under the columns. -/
theorem projected_readBlocks (hknown : ∀ name ∈ names, ∃ c ∈ t.layout.columns, c.name = name)
    {size : Nat} (hsize : 0 < size) (rows : List Tuple) :
    (readBlocks t names size rows).flatMap (·.projected names) = rows.map (t.engineRow names) := by
  have hproject : (readBlocks t names size rows).flatMap (·.projected names) =
      (Store.chunks size (rows.map fun row => names.filterMap (row.under? t.layout.columns))).flatten.map
        (Block.project ⟨names, []⟩ names) := by
    rw [readBlocks, List.flatMap_map, List.map_flatten]
    rfl
  rw [hproject, (Store.cut_chunks hsize _).flatten, List.map_map]
  refine List.map_congr_left ?_
  intro row _
  exact project_filterMap (fun name hname => Tuple.isSome_under?.mpr (hknown name hname)) []

/-- A reader for which a session and a read are opened lets its producer run. -/
theorem prepare_eq_ok {r : Reader} {s₁ s₂ : Store} {session stream : Nat} {range : KeyRange}
    (hstate : r.state = .created) (hrange : r.shard.effectiveRange? = some range)
    (hsession : s.createSession r.shard.plan.sessionSeconds.val.toNat = (.ok session, s₁))
    (hread : s₁.readTable session r.feed.table r.request = (.ok stream, s₂)) :
    r.prepare s (.ok ()) =
      some (.ok (), (r.opened ⟨session, stream⟩).settle (s₂.startStream stream).2) := by
  rw [prepare, if_pos hstate, hrange, Option.map_some, setUp, hsession]
  dsimp only
  rw [hread]
  rfl

/-- A reader whose range does not come about never gets to its first row. -/
theorem next_eq_none {r : Reader} (hstate : r.state = .created) (hcursor : r.cursor = none)
    (hrange : r.shard.effectiveRange? = none) (s : Store) (spawn : Except String Unit) :
    r.next s spawn = none := by
  have hprepare : r.prepare s spawn = none := by rw [prepare, if_pos hstate, hrange, Option.map_none]
  rw [next, show r.advance? = none by rw [advance?, hcursor, Option.bind_none], hstate]
  dsimp only
  rw [hprepare]

/-- **A new reader will deliver the rows of its range**: a call for the first one opens the read and
is answered. -/
theorem new_answers (h : shard.Readable s t names) :
    Answers s names ((Reader.new shard timeoutSeconds).next s (.ok ()))
      ((t.readRows shard.effectiveRange (shard.plan.rowLimit.filter fun limit => 0 < limit.val)).map
        (t.engineRow names)) := by
  let r := Reader.new shard timeoutSeconds
  obtain ⟨session, s₁, hsession, hlease, hsame₁⟩ := createSession_eq h.faults h.life h.clock
  have hknown : ∀ name ∈ names, ∃ c ∈ t.description.columns, c.name = name := h.known
  obtain ⟨positions, hpositions, hpick⟩ := projection_eq_ok hknown
  have hrequest : r.request.columns = names := h.columns
  have hview : s₁.view? shard.plan.tablePath = some (t.description, t.rows) := by
    rw [Store.view?, hsame₁.tables, h.table]
  obtain ⟨stream, s₂, hread, hflows, hsame₂⟩ := readTable_flows (hsame₁.faults.trans h.faults)
    hlease hview hrequest h.some_column hpositions
  generalize hstart : (s₂.startStream stream).2 = s₃ at hflows hsame₂
  rw [selectRows_eq hpick, range_request h, hsame₁.blockSize] at hflows
  let rows := t.readRows shard.effectiveRange (shard.plan.rowLimit.filter fun limit => 0 < limit.val)
  have hgets : (r.opened ⟨session, stream⟩).Gets s₃ names (readBlocks t names s.blockSize rows) := by
    refine ⟨h.columns, ⟨rfl, rfl, rfl, rfl, h.depth⟩, ⟨⟨session, stream⟩, names, rfl, ?_⟩,
      conforms_readBlocks h.known h.block rows⟩
    rw [readBlocks, List.map_map]
    exact .streaming rfl hflows
  obtain ⟨feed, s₄, hsettle, hgets', hrest, hsame₃⟩ := hgets.settle
  -- The call prepares the reader first and then takes items as any other does.
  have hprepare := prepare_eq_ok (r := r) rfl h.range hsession hread
  rw [hstart, hsettle] at hprepare
  have hnext : r.next s (.ok ()) = fetch { r.opened ⟨session, stream⟩ with feed := feed } s₄
      (itemsLeft { r.opened ⟨session, stream⟩ with feed := feed } s₄) := by
    rw [next, show r.advance? = none from rfl, show r.state = .created from rfl]
    dsimp only
    rw [hprepare]
  rw [show Reader.new shard timeoutSeconds = r from rfl, hnext,
    ← projected_readBlocks h.known h.block]
  exact (fetch_answers hgets' hrest hgets'.length_lt_itemsLeft).of_sameTables
    ((hsame₁.trans hsame₂).trans hsame₃)

end Reader

end ShardScan
