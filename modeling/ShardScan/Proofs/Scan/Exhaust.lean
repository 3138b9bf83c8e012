import ShardScan.Proofs.Scan.Settling
import ShardScan.Scan.Rows

/-!
# Readers run to the end

A reader over a store in which nothing goes wrong never has to wait: between two
calls its producer is at rest, and then the queue has what comes next.  So every
call is answered, with the next row as long as there is one, and taking rows
until there are no more gives all of them.

## Main definitions

* `Reader.Serves` — the rows that a reader will still deliver.
* `Reader.Answers` — the answer of a call for the first of some rows.

## Main results

* `Reader.next_answers` — a call for the next row is answered.
* `Reader.takeRows_of_answers` — the rows taken until there are no more.
-/

namespace ShardScan

namespace Store

/-- What a reader leaves as it is. -/
structure SameTables (s s' : Store) : Prop where
  tables : s'.tables = s.tables
  faults : s'.faults = s.faults
  blockSize : s'.blockSize = s.blockSize

theorem SameTables.refl (s : Store) : s.SameTables s := ⟨rfl, rfl, rfl⟩

theorem SameTables.trans {s s' s'' : Store} (h : s.SameTables s') (h' : s'.SameTables s'') :
    s.SameTables s'' :=
  ⟨h'.tables.trans h.tables, h'.faults.trans h.faults, h'.blockSize.trans h.blockSize⟩

theorem SameButStreams.sameTables {s s' : Store} (h : s.SameButStreams s') : s.SameTables s' := by
  rw [h]
  exact ⟨rfl, rfl, rfl⟩

end Store

namespace Feed

variable {f : Feed} {s : Store} {stream : Nat} {columns : List String} {items : List QueueItem}

/-- Taking the oldest item takes the first of those to come. -/
theorem Coming.take (h : f.Coming s stream columns items) {item : QueueItem}
    {queued : List QueueItem} (hqueue : f.queue.items = item :: queued) (metrics : QueueMetrics) :
    ∃ rest, items = item :: rest ∧
      Coming { f with queue := { f.queue with items := queued, metrics := metrics } } s stream
        columns rest := by
  cases h with
  | streaming hproducer hflows =>
    refine ⟨_, by rw [hqueue, List.cons_append], ?_⟩
    exact .streaming hproducer hflows
  | waiting hproducer hflows =>
    refine ⟨_, by rw [hqueue, List.cons_append], ?_⟩
    exact .waiting hproducer hflows
  | closing hproducer =>
    refine ⟨_, by rw [hqueue, List.cons_append], ?_⟩
    exact .closing hproducer
  | exited hproducer => exact ⟨queued, hqueue, .exited hproducer⟩

/-- At rest the first of the items to come is there to be taken. -/
theorem take_of_coming (hwell : f.Well) (hrest : f.AtRest) {item : QueueItem}
    (h : f.Coming s stream columns (item :: items)) :
    ∃ queue, f.queue.take = some (some item, queue) ∧ Well { f with queue := queue } ∧
      Coming { f with queue := queue } s stream columns items := by
  have hne := hrest.items_ne_nil hwell h (List.cons_ne_nil _ _)
  obtain ⟨first, queued, hqueue⟩ := List.exists_cons_of_ne_nil hne
  obtain ⟨rest, hitems, hcoming⟩ := h.take hqueue (f.queue.metrics.onReceive first)
  cases hitems
  refine ⟨_, ?_, ?_, hcoming⟩
  · simp [Queue.take, Queue.tryTake, hqueue]
  · exact ⟨hwell.state, hwell.issue, hwell.cancelled, hwell.receiver, hwell.capacity⟩

/-- As many items are to come as the reader allows for. -/
theorem Coming.length_le (h : f.Coming s stream columns items) :
    items.length ≤ f.queue.items.length + 2 + s.blocksLeft stream := by
  cases h with
  | streaming _ hflows =>
    rw [hflows.blocksLeft_eq]
    simp [blocksOf]
    omega
  | waiting _ hflows =>
    rw [hflows.blocksLeft_eq]
    simp [blocksOf]
    omega
  | closing =>
    simp
    omega
  | exited => omega

end Feed

namespace Reader

/-- The blocks that a reader is still to get, all of them with its columns. -/
structure Gets (r : Reader) (s : Store) (names : List String) (blocks : List Block) : Prop where
  columns : r.outColumns = names
  well : r.feed.Well
  coming : ∃ scan columns, r.scan = some scan ∧
    r.feed.Coming s scan.stream columns (blocks.map .block ++ [.endOfScan])
  conforms : ∀ b ∈ blocks, b.Conforms names

/-- The rows that a reader will still deliver: those pending in its block and those of the blocks
that it is still to get. -/
structure Serves (r : Reader) (s : Store) (names : List String) (rows : List (List Scalar)) :
    Prop where
  bound : r.Bound names
  rest : r.feed.AtRest
  gets : ∃ blocks, r.Gets s names blocks ∧
    rows = r.pending names ++ blocks.flatMap (·.projected names)

/-- The answer of a call for the first of some rows: that there is one, which then is the current
row, while the others are still to come; or that there is none. -/
def Answers (s : Store) (names : List String)
    (outcome : Option (Except ScanError Bool × Reader × Store)) : List (List Scalar) → Prop
  | [] => ∃ r s', outcome = some (.ok false, r, s') ∧ s.SameTables s'
  | row :: rows => ∃ r s', outcome = some (.ok true, r, s') ∧ r.get = .ok row ∧
      r.Serves s' names rows ∧ s.SameTables s'

variable {r : Reader} {s : Store} {names : List String} {blocks : List Block}

theorem Answers.of_sameTables {s' : Store} (hsame : s.SameTables s')
    {outcome : Option (Except ScanError Bool × Reader × Store)} {rows : List (List Scalar)}
    (h : Answers s' names outcome rows) : Answers s names outcome rows := by
  cases rows with
  | nil =>
    obtain ⟨r, s'', houtcome, hstore⟩ := h
    exact ⟨r, s'', houtcome, hsame.trans hstore⟩
  | cons row rows =>
    obtain ⟨r, s'', houtcome, hget, hserves, hstore⟩ := h
    exact ⟨r, s'', houtcome, hget, hserves, hsame.trans hstore⟩

/-- Letting the producer run changes nothing for the reader. -/
theorem Gets.settle (h : r.Gets s names blocks) :
    ∃ feed s', r.settle s = ({ r with feed := feed }, s') ∧
      Gets { r with feed := feed } s' names blocks ∧ feed.AtRest ∧ s.SameTables s' := by
  obtain ⟨scan, columns, hscan, hcoming⟩ := h.coming
  obtain ⟨feed, s', hsettle, hrest, hwell, hcoming', hstore⟩ :=
    Feed.settle_coming h.well hcoming
  refine ⟨feed, s', ?_, ?_, hrest, hstore.sameTables⟩
  · simp only [Reader.settle, hscan, h.well.cancelled, Bool.false_eq_true, if_false, hsettle]
  · exact ⟨h.columns, hwell, ⟨scan, columns, hscan, hcoming'⟩, h.conforms⟩

/-- The next block is there to be taken. -/
theorem Gets.take_block {b : Block} (h : r.Gets s names (b :: blocks)) (hrest : r.feed.AtRest) :
    ∃ queue, r.feed.queue.take = some (some (.block b), queue) ∧
      Gets { r with feed := { r.feed with queue := queue } } s names blocks := by
  obtain ⟨scan, columns, hscan, hcoming⟩ := h.coming
  obtain ⟨queue, htake, hwell, hcoming'⟩ := Feed.take_of_coming h.well hrest hcoming
  refine ⟨queue, htake, h.columns, hwell, ⟨scan, columns, hscan, hcoming'⟩, ?_⟩
  exact fun c hc => h.conforms c (List.mem_cons_of_mem b hc)

/-- Behind the last block the marker is, and the producer has ended. -/
theorem Gets.take_marker (h : r.Gets s names []) (hrest : r.feed.AtRest) :
    ∃ queue, r.feed.queue.take = some (some .endOfScan, queue) ∧ r.feed.producer = .exited := by
  obtain ⟨scan, columns, hscan, hcoming⟩ := h.coming
  obtain ⟨queue, htake, -, hnothing⟩ := Feed.take_of_coming h.well hrest hcoming
  refine ⟨queue, htake, ?_⟩
  generalize hitems : ([] : List QueueItem) = items at hnothing
  cases hnothing with
  | streaming => simp [Feed.blocksOf] at hitems
  | waiting => simp at hitems
  | closing => simp at hitems
  | exited hproducer => exact hproducer

/-- What a reader is still to get does not depend on where it is in its rows. -/
theorem Gets.move (h : r.Gets s names blocks) (cursor : Option Cursor) (rowsRead : Nat) :
    Gets { r with cursor := cursor, rowsRead := rowsRead } s names blocks :=
  ⟨h.columns, h.well, h.coming, h.conforms⟩

/-- A producer that has ended stays as it is, and so does the store. -/
theorem settle_of_exited (hproducer : r.feed.producer = .exited)
    (hcancelled : r.feed.cancelled = false) : r.settle s = (r, s) := by
  cases hscan : r.scan with
  | none => simp only [Reader.settle, hscan]
  | some scan =>
    have hstep : r.feed.step? (if r.feed.producer = .streaming then s.advance scan.stream else
        (.waits, s)).1 = none := by
      simp only [Feed.step?, hproducer]
    simp only [Reader.settle, hscan, hcancelled, Bool.false_eq_true, if_false,
      Feed.settle_of_none hstep]
    rw [← hscan]

/-- A block of which the first row was moved to: that row is current, and the others are pending. -/
theorem Gets.first_row (h : r.Gets s names blocks) {b : Block} (hconforms : b.Conforms names)
    {positions : List Nat} (hpositions : b.positions names = .ok positions) {r' : Reader}
    (hrow : { r with cursor := some ⟨b, positions, none⟩ : Reader }.advance? = some r') :
    ∃ row feed s', r'.settle s = ({ r' with feed := feed }, s') ∧
      b.projected names = row :: r'.pending names ∧ { r' with feed := feed }.get = .ok row ∧
      Serves { r' with feed := feed } s' names
        (r'.pending names ++ blocks.flatMap (·.projected names)) ∧ s.SameTables s' := by
  have hbound : Bound { r with cursor := some ⟨b, positions, none⟩ } names := by
    intro c hc
    cases hc
    exact ⟨hconforms, hpositions⟩
  obtain ⟨cursor, row, rfl, hget, hpending, hbound'⟩ := advance?_eq_some hrow hbound
  obtain ⟨feed, s', hsettle, hgets, hrest, hsame⟩ := (h.move (some cursor) (r.rowsRead + 1)).settle
  refine ⟨row, feed, s', hsettle, ?_, hget, ⟨hbound', hrest, blocks, hgets, rfl⟩, hsame⟩
  rw [← hpending, pending]
  exact (congrArg (List.map _) List.drop_zero).symm

/-- **A call that takes items is answered**: with the first row of the blocks to come, or that there
is none. -/
theorem fetch_answers (h : r.Gets s names blocks) (hrest : r.feed.AtRest) {items : Nat}
    (hitems : blocks.length < items) :
    Answers s names (r.fetch s items) (blocks.flatMap (·.projected names)) := by
  induction blocks generalizing r s items with
  | nil =>
    obtain ⟨items, rfl⟩ := Nat.exists_eq_succ_of_ne_zero (Nat.ne_zero_of_lt hitems)
    obtain ⟨queue, htake, hproducer⟩ := h.take_marker hrest
    -- The producer has ended with the marker, so it has nothing to do afterwards.
    have haccept : ∃ r', accept { r with feed := { r.feed with queue := queue } } (some .endOfScan) =
        .answers (.ok false) r' ∧ r'.settle s = (r', s) := by
      refine ⟨{ r with cursor := none, feed := { r.feed with queue := queue, state := .finished } },
        ?_, settle_of_exited hproducer h.well.cancelled⟩
      simp [accept_endOfScan, Feed.finish, h.well.issue, h.well.state]
    obtain ⟨r', haccept, hsettle⟩ := haccept
    refine ⟨r', s, ?_, .refl s⟩
    rw [fetch, htake]
    dsimp only
    rw [haccept]
    dsimp only
    rw [hsettle]
  | cons b blocks ih =>
    obtain ⟨items, rfl⟩ := Nat.exists_eq_succ_of_ne_zero (Nat.ne_zero_of_lt hitems)
    obtain ⟨queue, htake, hgets⟩ := h.take_block hrest
    have hconforms := h.conforms b List.mem_cons_self
    have hpositions := Block.positions_eq_ok hconforms
    rw [fetch, htake]
    dsimp only
    rw [accept_block (by rw [hgets.columns]; exact hpositions), List.flatMap_cons]
    cases hrow : advance? { r with feed := { r.feed with queue := queue },
                                   cursor := some ⟨b, names.map b.columns.idxOf, none⟩ } with
    | some r' =>
      obtain ⟨row, feed, s', hsettle, hrows, hget, hserves, hsame⟩ :=
        hgets.first_row hconforms hpositions hrow
      rw [hrows]
      refine ⟨{ r' with feed := feed }, s', ?_, hget, hserves, hsame⟩
      dsimp only
      rw [hsettle]
    | none =>
      -- The block has no rows, and the next item is taken.
      have hempty := (advance?_eq_none_iff names).mp hrow
      have hnone : b.projected names = [] := by
        rw [← hempty, pending]
        exact (congrArg (List.map _) List.drop_zero).symm
      obtain ⟨feed, s', hsettle, hgets', hrest', hsame⟩ :=
        (hgets.move (some ⟨b, names.map b.columns.idxOf, none⟩) r.rowsRead).settle
      rw [hnone, List.nil_append]
      dsimp only
      rw [hsettle]
      exact (ih hgets' hrest' (Nat.lt_of_succ_lt_succ hitems)).of_sameTables hsame

/-- A reader allows for all items that can come. -/
theorem Gets.length_lt_itemsLeft (h : r.Gets s names blocks) : blocks.length < r.itemsLeft s := by
  obtain ⟨scan, columns, hscan, hcoming⟩ := h.coming
  have hle := hcoming.length_le
  rw [List.length_append, List.length_map, List.length_singleton] at hle
  rw [itemsLeft, hscan]
  dsimp only
  omega

/-- **Every call for the next row is answered** by the first of the rows that the reader will still
deliver. -/
theorem next_answers {rows : List (List Scalar)} (h : r.Serves s names rows) :
    Answers s names (r.next s (.ok ())) rows := by
  obtain ⟨blocks, hgets, rfl⟩ := h.gets
  rw [next]
  cases hrow : r.advance? with
  | some r' =>
    obtain ⟨cursor, row, rfl, hget, hpending, hbound⟩ := advance?_eq_some hrow h.bound
    rw [hpending]
    refine ⟨_, s, rfl, hget, ?_, .refl s⟩
    exact ⟨hbound, h.rest, blocks, hgets.move (some cursor) (r.rowsRead + 1), rfl⟩
  | none =>
    have hstate : r.state = .prepared := hgets.well.state
    rw [(advance?_eq_none_iff names).mp hrow, List.nil_append, hstate]
    exact fetch_answers hgets h.rest hgets.length_lt_itemsLeft

/-- **Taking rows until there are no more gives all of them.** -/
theorem takeRows_of_answers {rows : List (List Scalar)} (h : Answers s names (r.next s (.ok ())) rows)
    {count : Nat} (hcount : rows.length < count) :
    ∃ r' s', r.takeRows s count = (rows, .ended, r', s') ∧ s.SameTables s' := by
  obtain ⟨count, rfl⟩ := Nat.exists_eq_succ_of_ne_zero (Nat.ne_zero_of_lt hcount)
  induction rows generalizing r s count with
  | nil =>
    obtain ⟨r', s', hnext, hsame⟩ := h
    exact ⟨r', s', by rw [takeRows, hnext], hsame⟩
  | cons row rows ih =>
    obtain ⟨r', s', hnext, hget, hserves, hsame⟩ := h
    have hcount' := Nat.lt_of_succ_lt_succ hcount
    obtain ⟨count, rfl⟩ := Nat.exists_eq_succ_of_ne_zero (Nat.ne_zero_of_lt hcount')
    obtain ⟨r'', s'', htake, hsame'⟩ := ih (next_answers hserves) count hcount'
    refine ⟨r'', s'', ?_, hsame.trans hsame'⟩
    rw [takeRows, hnext]
    dsimp only
    rw [hget]
    dsimp only
    rw [htake]

end Reader
end ShardScan
