import ShardScan.Proofs.Scan.Projection
import ShardScan.Scan.Interleaving

/-!
# Rows and items on their way

What a stream has handed over and a reader has not yet delivered is in one of
four places: in the reader's current block, in its hands, in the queue, or with
the producer that waits for room.

## Main definitions

* `Reader.pending` — the rows of the current block that were not yet delivered.
* `ScanWorld.inFlight` — the items between the stream and the current block, the oldest first.

## Main results

* `Reader.advance?_eq_some` — moving to the next row delivers the first pending one.
* `Feed.offerBlock_of_open` and its neighbours — the producer's offers while the reader is open.
-/

namespace ShardScan

/-! ### The current block -/

namespace Reader

/-- The rows of the current block behind the current one, under some names. -/
def pending (r : Reader) (names : List String) : List (List Scalar) :=
  match r.cursor with
  | some c => (c.block.rows.drop c.nextRow).map (c.block.project names)
  | none => []

/-- The current block has the named columns, and they were found in it. -/
def Bound (r : Reader) (names : List String) : Prop :=
  ∀ c ∈ r.cursor, c.block.Conforms names ∧ c.block.positions names = .ok c.positions

/-- A reader that has no block at hand. -/
theorem bound_of_cursor_eq_none {r : Reader} {names : List String} (h : r.cursor = none) :
    r.Bound names := by
  intro c hc
  rw [h] at hc
  cases hc

theorem advance?_eq_none_iff {r : Reader} (names : List String) :
    r.advance? = none ↔ r.pending names = [] := by
  obtain ⟨shard, timeout, feed, scan, cursor, rowsRead⟩ := r
  cases cursor with
  | none => simp [advance?, pending]
  | some c => simp [advance?, pending]

/-- Moving to the next row takes the first pending one for the current row. -/
theorem advance?_eq_some {r r' : Reader} {names : List String} (h : r.advance? = some r')
    (hbound : r.Bound names) :
    ∃ cursor row, r' = { r with cursor := some cursor, rowsRead := r.rowsRead + 1 } ∧
      r'.get = .ok row ∧ r.pending names = row :: r'.pending names ∧ r'.Bound names := by
  obtain ⟨c, hc, hnext⟩ := Option.bind_eq_some_iff.mp h
  obtain ⟨hconforms, hpositions⟩ := hbound c hc
  have hlt : c.nextRow < c.block.rows.length := by
    by_contra hge
    rw [if_neg hge] at hnext
    cases hnext
  have hform : r' = { r with cursor := some { c with row := some c.nextRow },
                              rowsRead := r.rowsRead + 1 } := by
    rw [if_pos hlt] at hnext
    exact (Option.some.inj hnext).symm
  have hrow : c.block.rows[c.nextRow]? = some c.block.rows[c.nextRow] :=
    List.getElem?_eq_getElem hlt
  refine ⟨_, c.block.project names c.block.rows[c.nextRow], hform, ?_, ?_, ?_⟩
  · rw [hform]
    exact get_eq_ok rfl hconforms hpositions hrow
  · simp only [hform, pending, hc]
    rw [List.drop_eq_getElem_cons hlt, List.map_cons]
    rfl
  · rw [hform]
    intro c' hc'
    cases hc'
    exact ⟨hconforms, hpositions⟩

/-- A block with the columns of the reader becomes the current one. -/
theorem accept_block {r : Reader} {b : Block} {positions : List Nat}
    (h : b.positions r.outColumns = .ok positions) :
    r.accept (some (.block b)) =
      match { r with cursor := some ⟨b, positions, none⟩ : Reader }.advance? with
      | some r' => .answers (.ok true) r'
      | none => .goesOn { r with cursor := some ⟨b, positions, none⟩ } := by
  cases hrow : advance? { r with cursor := some ⟨b, positions, none⟩ } <;>
    simp only [accept, h, hrow]

/-- Behind the marker there is nothing, unless the scan has failed. -/
theorem accept_endOfScan (r : Reader) :
    r.accept (some .endOfScan) =
      match r.feed.issue with
      | some e => .answers (.error e) { r with cursor := none }
      | none => .answers (.ok false) { r with cursor := none, feed := r.feed.finish } := rfl

end Reader

/-! ### Items between the stream and the reader -/

namespace QueueItem

/-- The rows that an item carries, under some names. -/
def rows (names : List String) : QueueItem → List (List Scalar)
  | .block b => b.projected names
  | .endOfScan => []

end QueueItem

/-- What is taken is the first of the items. -/
theorem Queue.eq_of_take {q q' : Queue} {item : QueueItem} (h : q.take = some (some item, q')) :
    q.items = item :: q'.items ∧
      q' = { q with items := q'.items, metrics := q.metrics.onReceive item } := by
  unfold take tryTake at h
  repeat' split at h
  · cases h
  · cases h
  · next hitems =>
    cases h
    exact ⟨hitems, rfl⟩

/-- The item that the producer waits with. -/
def Producer.waitingItems : Producer → List QueueItem
  | .waiting item => [item]
  | _ => []

/-- The item that the reader has in hands. -/
def Consumer.heldItems : Consumer → List QueueItem
  | .holding (some item) => [item]
  | _ => []

/-- The items between the stream and the current block, the oldest first. -/
def ScanWorld.inFlight (w : ScanWorld) : List QueueItem :=
  w.consumer.heldItems ++ (w.feed.queue.items ++ w.feed.producer.waitingItems)

namespace Feed

variable {f f' : Feed}

theorem producer_latch (f : Feed) (e : ScanError) : (f.latch e).producer = f.producer := by
  unfold latch
  split <;> rfl

theorem cancelled_latch (f : Feed) (e : ScanError) : (f.latch e).cancelled = f.cancelled := by
  unfold latch
  split <;> rfl

theorem producer_finish (f : Feed) : f.finish.producer = f.producer := by
  unfold finish
  split <;> rfl

theorem cancelled_record (f : Feed) (status : Status) :
    (f.record status).cancelled = f.cancelled := by
  unfold record
  split
  · rfl
  · exact f.cancelled_latch _

/-- A step of the producer changes the queue and what is to be done next, or takes in how the stream
ended. -/
theorem step?_cases {event : StreamEvent} (h : f.step? event = some f') :
    (∃ queue producer, f' = { f with queue := queue, producer := producer }) ∨
      ∃ status, f' = { f.record status with producer := .marking } := by
  unfold step? at h
  repeat' split at h
  all_goals cases h
  · left
    unfold offerBlock
    split <;> exact ⟨_, _, rfl⟩
  · exact .inl ⟨_, _, rfl⟩
  · next item _ _ =>
    cases item <;> exact .inl ⟨_, _, rfl⟩
  · next item _ _ _ =>
    cases item <;> exact .inl ⟨_, _, rfl⟩
  · exact .inr ⟨_, rfl⟩
  · left
    unfold offerMarker
    split <;> exact ⟨_, _, rfl⟩

/-- The producer does not call itself off. -/
theorem cancelled_step {event : StreamEvent} (h : f.step? event = some f') :
    f'.cancelled = f.cancelled := by
  rcases step?_cases h with ⟨queue, producer, rfl⟩ | ⟨status, rfl⟩
  · rfl
  · exact f.cancelled_record status

theorem step?_exited (h : f.producer = .exited) (event : StreamEvent) : f.step? event = none := by
  unfold step?
  rw [h]

/-- A block that finds room is sent, and the producer waits with any other. -/
theorem offerBlock_of_open (h : f.queue.receiverOpen = true) (b : Block) :
    f.offerBlock b =
      if f.queue.isFull then
        { f with queue := { f.queue with metrics := f.queue.metrics.onFull },
                 producer := .waiting (.block b) }
      else { f with queue := f.queue.push (.block b), producer := .streaming } := by
  unfold offerBlock Queue.tryOffer
  cases hfull : f.queue.isFull <;> simp [h]

/-- A marker that finds room ends the producer. -/
theorem offerMarker_of_open (h : f.queue.receiverOpen = true) :
    f.offerMarker =
      if f.queue.isFull then
        { f with queue := { f.queue with metrics := f.queue.metrics.onFull },
                 producer := .waiting .endOfScan }
      else { f with queue := f.queue.push .endOfScan }.exit := by
  unfold offerMarker Queue.tryOffer
  cases hfull : f.queue.isFull <;> simp [h]

end Feed
end ShardScan
