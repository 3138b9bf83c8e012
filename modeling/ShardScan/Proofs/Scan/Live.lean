import Mathlib.Data.List.Infix
import ShardScan.Proofs.Scan.Pipeline

/-!
# Readers that are open

As long as a reader is not closed nothing gets lost: the rows that the stream
handed over are those delivered, followed by the pending ones of the current
block and by those of the items in flight.  The marker is in flight behind all
blocks once the producer has taken in how the stream ended, so a reader that
meets it has delivered everything.

## Main definitions

* `ScanWorld.rows`, `ScanWorld.handedRows` — the rows delivered and those handed over.
* `ScanWorld.Stage` — how far the scan has come.
* `ScanWorld.Live` — what holds before a reader is closed.

## Main results

* `Live.hand`, `Live.stop`, `Live.send`, `Live.proceed` — it holds behind steps of the producer.
* `Live.advance`, `Live.take`, `Live.load`, `Live.meetMarker` — and behind those of the reader.
-/

namespace ShardScan

/-! ### What is seen of a scan -/

/-- The status does not fail a scan. -/
def Status.isHarmless (s : Status) : Bool := s.isSuccess || s.isCancelled

/-- The failure says that the producer ended without a marker. -/
def ScanError.isLost : ScanError → Bool
  | .producerLost _ => true
  | _ => false

namespace ScanWorld

/-- What the reader gave for the current row behind every answer that there is one. -/
def rows (w : ScanWorld) : List (Except ScanError (List Scalar)) :=
  w.log.filterMap fun
    | .next (.ok true) row => some row
    | _ => none

/-- The rows of the blocks that the stream handed over, under some names. -/
def handedRows (w : ScanWorld) (names : List String) : List (List Scalar) :=
  w.handed.flatMap (·.projected names)

/-- A call was answered that there are no more rows, and the reader had not been closed before. -/
def EndsOpen (w : ScanWorld) : Prop :=
  ∃ before row after, w.log = before ++ .next (.ok false) row :: after ∧ .close ∉ before

/-! ### How far the scan has come -/

/-- What came of the end of the stream: the status was harmless and the reader is in the given
state, or the reader has failed. -/
inductive Verdict (f : Feed) (status : Option Status) (state : ReaderState) : Prop
  | harmless {s : Status} (hstate : f.state = state) (hissue : f.issue = none)
    (hstatus : status = some s) (hs : s.isHarmless = true)
  | failed {e : ScanError} (hstate : f.state = .failed) (hissue : f.issue = some e)
    (he : e.isLost = false)

/-- How far a scan has come that is not closed, with the items in flight.  `resting` says that the
reader is between two calls and has no block. -/
inductive Stage (f : Feed) (status : Option Status) (items : List QueueItem) (resting : Prop) : Prop
  | created (hproducer : f.producer = .idle) (hstate : f.state = .created) (hissue : f.issue = none)
    (hitems : items = []) (hresting : resting)
  | refused {e : ScanError} (hproducer : f.producer = .idle) (hstate : f.state = .failed)
    (hissue : f.issue = some e) (he : e.isLost = false) (hitems : items = []) (hresting : resting)
  /-- The stream hands over blocks. -/
  | flowing (blocks : List Block)
    (hproducer : f.producer = .streaming ∨ ∃ b, f.producer = .waiting (.block b))
    (hstate : f.state = .prepared) (hissue : f.issue = none) (hitems : items = blocks.map .block)
  /-- The stream has ended, which is not taken in yet. -/
  | ending (blocks : List Block) {s : Status} (hproducer : f.producer = .ending s)
    (hstate : f.state = .prepared) (hissue : f.issue = none) (hstatus : status = some s)
    (hitems : items = blocks.map .block)
  | marking (blocks : List Block) (hproducer : f.producer = .marking)
    (hverdict : Verdict f status .prepared) (hitems : items = blocks.map .block)
  /-- The marker is on its way. -/
  | marked (blocks : List Block)
    (hproducer : f.producer = .waiting .endOfScan ∨ f.producer = .exited)
    (hverdict : Verdict f status .prepared) (hitems : items = blocks.map .block ++ [.endOfScan])
  /-- The reader has met the marker. -/
  | met (hproducer : f.producer = .exited) (hverdict : Verdict f status .finished)
    (hitems : items = []) (hresting : resting)

/-- The reader is between two calls and has no block. -/
def Resting (w : ScanWorld) : Prop := w.consumer = .idle ∧ w.reader.cursor = none

/-- What holds of a scan as long as the reader is not closed. -/
structure Live (w : ScanWorld) (names : List String) : Prop where
  columns : w.reader.outColumns = names
  opened : Call.close ∉ w.log
  uncancelled : w.feed.cancelled = false
  receiver : w.feed.queue.receiverOpen = true
  sender : w.feed.queue.senderOpen = true ↔ w.feed.producer ≠ .exited
  bound : w.reader.Bound names
  carried : ∀ b, .block b ∈ w.inFlight → b ∈ w.handed
  count : w.reader.rowsRead = w.rows.length
  /-- Nothing gets lost on the way from the stream to the caller. -/
  flow : ∃ delivered, w.rows = delivered.map .ok ∧
    w.handedRows names =
      delivered ++ (w.reader.pending names ++ w.inFlight.flatMap (QueueItem.rows names))
  /-- The reader takes items when it has no pending row. -/
  fetches : w.consumer = .idle ∨
    (w.consumer = .fetching ∨ ∃ item, w.consumer = .holding (some item)) ∧
      w.reader.pending names = []
  kept : ∀ e row, .next (.error e) row ∈ w.log → e.isLost = false
  ended : ∀ row, .next (.ok false) row ∈ w.log → w.feed.state = .finished
  stage : Stage w.feed w.status w.inFlight w.Resting

/-! ### The log -/

@[simp] theorem rows_answered (w : ScanWorld) (answer : Except ScanError Bool) (r : Reader) :
    (w.answered answer r).rows =
      w.rows ++ match answer with
        | .ok true => [r.get]
        | _ => [] := by
  unfold rows answered
  rw [List.filterMap_append]
  congr 1
  rcases answer with e | (_ | _) <;> rfl

/-- Behind a closing nothing counts any more. -/
theorem endsOpen_of_append {w w' : ScanWorld} {call : Call} (hlog : w'.log = w.log ++ [call])
    (hclosed : Call.close ∈ w.log ∨ call = .close) (h : w'.EndsOpen) : w.EndsOpen := by
  obtain ⟨before, row, after, hform, hopen⟩ := h
  rw [hlog] at hform
  rcases List.eq_nil_or_concat after with rfl | ⟨after', call', rfl⟩
  · rw [List.append_singleton_inj] at hform
    obtain ⟨rfl, rfl⟩ := hform
    rcases hclosed with hclosed | hclosed
    · exact absurd hclosed hopen
    · cases hclosed
  · refine ⟨before, row, after', ?_, hopen⟩
    rw [List.concat_eq_append, ← List.cons_append, ← List.append_assoc,
      List.append_singleton_inj] at hform
    exact hform.1

/-! ### Steps of the producer -/

/-- What the producer does to a reader that is not closed: it puts items in flight, and with them
the rows of the blocks that were handed over. -/
theorem Live.produce {w : ScanWorld} {names : List String} (h : w.Live names) {f : Feed}
    (blocks : List Block) {status : Option Status} (items : List QueueItem)
    (hrows : items.flatMap (QueueItem.rows names) = blocks.flatMap (·.projected names))
    (hcarried : ∀ b, .block b ∈ items → b ∈ blocks)
    (hcancelled : f.cancelled = w.feed.cancelled)
    (hreceiver : f.queue.receiverOpen = w.feed.queue.receiverOpen)
    (hsender : f.queue.senderOpen = true ↔ f.producer ≠ .exited)
    (houtbound : f.queue.items ++ f.producer.waitingItems =
      w.feed.queue.items ++ w.feed.producer.waitingItems ++ items)
    (hended : w.feed.state = .finished → f.state = .finished)
    (hstage : Stage f status (w.inFlight ++ items) w.Resting) :
    Live { w.withFeed f with handed := w.handed ++ blocks, status := status } names := by
  have hflight : inFlight { w.withFeed f with handed := w.handed ++ blocks, status := status } =
      w.inFlight ++ items := by
    show w.consumer.heldItems ++ (f.queue.items ++ f.producer.waitingItems) = _
    rw [houtbound, inFlight, List.append_assoc, List.append_assoc, List.append_assoc]
  obtain ⟨delivered, hdelivered, hflow⟩ := h.flow
  refine
    { columns := h.columns, opened := h.opened, uncancelled := hcancelled.trans h.uncancelled
      receiver := hreceiver.trans h.receiver, sender := hsender, bound := h.bound, carried := ?_
      count := h.count, flow := ⟨delivered, hdelivered, ?_⟩, fetches := h.fetches, kept := h.kept
      ended := fun row hrow => hended (h.ended row hrow), stage := ?_ }
  · intro b hb
    rw [hflight, List.mem_append] at hb
    rcases hb with hb | hb
    · exact List.mem_append_left _ (h.carried b hb)
    · exact List.mem_append_right _ (hcarried b hb)
  · rw [hflight, List.flatMap_append, hrows]
    show (w.handed ++ blocks).flatMap _ = _
    rw [List.flatMap_append]
    have : w.handed.flatMap (·.projected names) = _ := hflow
    rw [this]
    simp only [List.append_assoc]
    rfl
  · rw [hflight]
    exact hstage

section Stages

variable {f : Feed} {status : Option Status} {items : List QueueItem} {resting : Prop}

theorem Stage.of_streaming (h : Stage f status items resting)
    (hproducer : f.producer = .streaming ∨ ∃ b, f.producer = .waiting (.block b)) :
    f.state = .prepared ∧ f.issue = none ∧ ∃ blocks : List Block, items = blocks.map .block := by
  cases h with
  | flowing blocks _ hstate hissue hitems => exact ⟨hstate, hissue, blocks, hitems⟩
  | marked blocks hmarked => rcases hmarked with h | h <;> simp [h] at hproducer
  | created h => simp [h] at hproducer
  | refused h => simp [h] at hproducer
  | ending blocks h => simp [h] at hproducer
  | marking blocks h => simp [h] at hproducer
  | met h => simp [h] at hproducer

theorem Stage.of_ending (h : Stage f status items resting) {s : Status}
    (hproducer : f.producer = .ending s) :
    f.state = .prepared ∧ f.issue = none ∧ status = some s ∧
      ∃ blocks : List Block, items = blocks.map .block := by
  cases h with
  | ending blocks h hstate hissue hstatus hitems =>
    cases hproducer.symm.trans h
    exact ⟨hstate, hissue, hstatus, blocks, hitems⟩
  | flowing blocks hflowing => rcases hflowing with h | ⟨b, h⟩ <;> simp [h] at hproducer
  | marked blocks hmarked => rcases hmarked with h | h <;> simp [h] at hproducer
  | created h => simp [h] at hproducer
  | refused h => simp [h] at hproducer
  | marking blocks h => simp [h] at hproducer
  | met h => simp [h] at hproducer

theorem Stage.of_marking (h : Stage f status items resting) (hproducer : f.producer = .marking) :
    Verdict f status .prepared ∧ ∃ blocks : List Block, items = blocks.map .block := by
  cases h with
  | marking blocks h hverdict hitems => exact ⟨hverdict, blocks, hitems⟩
  | flowing blocks hflowing => rcases hflowing with h | ⟨b, h⟩ <;> simp [h] at hproducer
  | marked blocks hmarked => rcases hmarked with h | h <;> simp [h] at hproducer
  | created h => simp [h] at hproducer
  | refused h => simp [h] at hproducer
  | ending blocks h => simp [h] at hproducer
  | met h => simp [h] at hproducer

theorem Stage.of_waiting_marker (h : Stage f status items resting)
    (hproducer : f.producer = .waiting .endOfScan) :
    Verdict f status .prepared ∧
      ∃ blocks : List Block, items = blocks.map .block ++ [.endOfScan] := by
  cases h with
  | marked blocks h hverdict hitems => exact ⟨hverdict, blocks, hitems⟩
  | flowing blocks hflowing => rcases hflowing with h | ⟨b, h⟩ <;> simp [h] at hproducer
  | created h => simp [h] at hproducer
  | refused h => simp [h] at hproducer
  | ending blocks h => simp [h] at hproducer
  | marking blocks h => simp [h] at hproducer
  | met h => simp [h] at hproducer

/-- Taking in how the stream ended leaves a verdict. -/
theorem verdict_record {s : Status} (hcancelled : f.cancelled = false)
    (hstate : f.state = .prepared) (hissue : f.issue = none) (hstatus : status = some s) :
    Verdict { f.record s with producer := .marking } status .prepared := by
  unfold Feed.record
  rw [hcancelled, Bool.or_false]
  cases hs : s.isSuccess || s.isCancelled with
  | true => exact .harmless hstate hissue hstatus hs
  | false =>
    rw [if_neg (by simp), Feed.latch, hissue]
    exact .failed rfl rfl rfl

/-- The reader is as the verdict says, unless it has failed. -/
theorem Verdict.state_eq {state : ReaderState} (h : Verdict f status state) :
    f.state = state ∨ f.state = .failed := by
  cases h with
  | harmless hstate => exact .inl hstate
  | failed hstate => exact .inr hstate

theorem Verdict.congr {f' : Feed} {state : ReaderState} (h : Verdict f status state)
    (hstate : f'.state = f.state) (hissue : f'.issue = f.issue) : Verdict f' status state := by
  cases h with
  | harmless h₁ h₂ h₃ h₄ => exact .harmless (hstate.trans h₁) (hissue.trans h₂) h₃ h₄
  | failed h₁ h₂ h₃ => exact .failed (hstate.trans h₁) (hissue.trans h₂) h₃

end Stages

section Produce

variable {w : ScanWorld} {names : List String}

/-- A block is handed over. -/
theorem Live.hand (h : w.Live names) {b : Block} {f : Feed}
    (hproducer : w.feed.producer = .streaming) (hstep : w.feed.step? (.delivers b) = some f) :
    Live { w.withFeed f with handed := w.handed ++ [b] } names := by
  obtain ⟨hstate, hissue, blocks, hblocks⟩ := h.stage.of_streaming (.inl hproducer)
  have hitems : w.inFlight ++ [.block b] = (blocks ++ [b]).map .block := by
    rw [hblocks, List.map_append]
    rfl
  have hform : f = w.feed.offerBlock b := by
    rw [Feed.step?, hproducer] at hstep
    exact (Option.some.inj hstep).symm
  rw [Feed.offerBlock_of_open h.receiver] at hform
  have hsender : w.feed.queue.senderOpen = true := h.sender.mpr (by simp [hproducer])
  split at hform
  · subst hform
    refine h.produce [b] [.block b] (by simp [QueueItem.rows]) (by simp) rfl rfl ?_ ?_ id ?_
    · simp [hsender]
    · simp [hproducer, Producer.waitingItems]
    · exact .flowing (blocks ++ [b]) (.inr ⟨b, rfl⟩) hstate hissue hitems
  · subst hform
    refine h.produce [b] [.block b] (by simp [QueueItem.rows]) (by simp) rfl rfl ?_ ?_ id ?_
    · simp [Queue.push, hsender]
    · simp [hproducer, Producer.waitingItems, Queue.push]
    · exact .flowing (blocks ++ [b]) (.inl rfl) hstate hissue hitems

/-- A step of the producer that hands over no block. -/
theorem Live.produce_nothing (h : w.Live names) {f : Feed} {status : Option Status}
    (items : List QueueItem) (hitems : items = [] ∨ items = [.endOfScan])
    (hcancelled : f.cancelled = w.feed.cancelled)
    (hreceiver : f.queue.receiverOpen = w.feed.queue.receiverOpen)
    (hsender : f.queue.senderOpen = true ↔ f.producer ≠ .exited)
    (houtbound : f.queue.items ++ f.producer.waitingItems =
      w.feed.queue.items ++ w.feed.producer.waitingItems ++ items)
    (hended : w.feed.state = .finished → f.state = .finished)
    (hstage : Stage f status (w.inFlight ++ items) w.Resting) :
    Live { w.withFeed f with status := status } names := by
  have hlive := h.produce [] items (by rcases hitems with rfl | rfl <;> rfl)
    (by rcases hitems with rfl | rfl <;> simp) hcancelled hreceiver hsender houtbound hended hstage
  rwa [List.append_nil] at hlive

/-- The stream ends. -/
theorem Live.stop (h : w.Live names) {s : Status} {f : Feed}
    (hproducer : w.feed.producer = .streaming) (hstep : w.feed.step? (.ends s) = some f) :
    Live { w.withFeed f with status := some s } names := by
  obtain ⟨hstate, hissue, blocks, hblocks⟩ := h.stage.of_streaming (.inl hproducer)
  have hform : f = w.feed.endStream s := by
    rw [Feed.step?, hproducer] at hstep
    exact (Option.some.inj hstep).symm
  subst hform
  have hsender : w.feed.queue.senderOpen = true := h.sender.mpr (by simp [hproducer])
  refine h.produce_nothing [] (.inl rfl) rfl rfl ?_ ?_ id ?_
  · simp [Feed.endStream, hsender]
  · simp [Feed.endStream, hproducer, Producer.waitingItems]
  · rw [List.append_nil]
    exact .ending blocks rfl hstate hissue rfl hblocks

/-- What had to wait is sent. -/
theorem Live.send (h : w.Live names) {item : QueueItem}
    (hproducer : w.feed.producer = .waiting item) :
    (w.withFeed (w.feed.enqueue item)).Live names := by
  have hsender : w.feed.queue.senderOpen = true := h.sender.mpr (by simp [hproducer])
  cases item with
  | block b =>
    obtain ⟨hstate, hissue, blocks, hblocks⟩ := h.stage.of_streaming (.inr ⟨b, hproducer⟩)
    refine h.produce_nothing [] (.inl rfl) rfl rfl ?_ ?_ id ?_
    · simp [Feed.enqueue, Queue.push, hsender]
    · simp [Feed.enqueue, Queue.push, hproducer, Producer.waitingItems]
    · rw [List.append_nil]
      exact .flowing blocks (.inl rfl) hstate hissue hblocks
  | endOfScan =>
    obtain ⟨hverdict, blocks, hblocks⟩ := h.stage.of_waiting_marker hproducer
    refine h.produce_nothing [] (.inl rfl) rfl rfl ?_ ?_ id ?_
    · simp [Feed.enqueue, Feed.exit, Queue.closeSender]
    · simp [Feed.enqueue, Feed.exit, Queue.closeSender, Queue.push, hproducer,
        Producer.waitingItems]
    · rw [List.append_nil]
      exact .marked blocks (.inr rfl) (hverdict.congr rfl rfl) hblocks

/-- The producer takes in how the stream ended. -/
theorem Live.record (h : w.Live names) {s : Status} (hproducer : w.feed.producer = .ending s) :
    (w.withFeed { w.feed.record s with producer := .marking }).Live names := by
  obtain ⟨hstate, hissue, hstatus, blocks, hblocks⟩ := h.stage.of_ending hproducer
  have hqueue := w.feed.queue_record s
  have hsender : w.feed.queue.senderOpen = true := h.sender.mpr (by simp [hproducer])
  refine h.produce_nothing [] (.inl rfl) (w.feed.cancelled_record s) (by simp [hqueue]) ?_ ?_ ?_ ?_
  · simp [hqueue, hsender]
  · simp [hqueue, hproducer, Producer.waitingItems]
  · intro hfinished
    rw [hstate] at hfinished
    cases hfinished
  · rw [List.append_nil]
    exact .marking blocks rfl (verdict_record h.uncancelled hstate hissue hstatus) hblocks

/-- The producer offers the marker. -/
theorem Live.mark (h : w.Live names) (hproducer : w.feed.producer = .marking) :
    (w.withFeed w.feed.offerMarker).Live names := by
  obtain ⟨hverdict, blocks, hblocks⟩ := h.stage.of_marking hproducer
  have hsender : w.feed.queue.senderOpen = true := h.sender.mpr (by simp [hproducer])
  have hitems : w.inFlight ++ [.endOfScan] = blocks.map .block ++ [.endOfScan] := by rw [hblocks]
  rw [Feed.offerMarker_of_open h.receiver]
  split
  · refine h.produce_nothing [.endOfScan] (.inr rfl) rfl rfl ?_ ?_ id ?_
    · simp [hsender]
    · simp [hproducer, Producer.waitingItems]
    · exact .marked blocks (.inl rfl) (hverdict.congr rfl rfl) hitems
  · refine h.produce_nothing [.endOfScan] (.inr rfl) rfl rfl ?_ ?_ id ?_
    · simp [Feed.exit, Queue.closeSender]
    · simp [Feed.exit, Queue.closeSender, Queue.push, hproducer, Producer.waitingItems]
    · exact .marked blocks (.inr rfl) (hverdict.congr rfl rfl) hitems

/-- A step of the producer on its own. -/
theorem Live.proceed (h : w.Live names) {f : Feed} (hstep : w.feed.step? .waits = some f) :
    (w.withFeed f).Live names := by
  unfold Feed.step? at hstep
  split at hstep
  · cases hstep
  · cases hstep
  · cases hstep
  · next item hproducer =>
    rw [if_neg (by simp [h.uncancelled, h.receiver])] at hstep
    split at hstep
    · cases hstep
    · cases hstep
      exact h.send hproducer
  · next s hproducer =>
    cases hstep
    exact h.record hproducer
  · next hproducer =>
    cases hstep
    exact h.mark hproducer

end Produce

/-! ### Steps of an open reader -/

section Read

variable {w : ScanWorld} {names : List String}

theorem Stage.congr {f f' : Feed} {status : Option Status} {items : List QueueItem}
    {resting resting' : Prop} (h : Stage f status items resting)
    (hproducer : f'.producer = f.producer) (hstate : f'.state = f.state)
    (hissue : f'.issue = f.issue)
    (hresting : resting → f.state ≠ .prepared → resting') : Stage f' status items resting' := by
  cases h with
  | created h₁ h₂ h₃ h₄ h₅ =>
    exact .created (hproducer.trans h₁) (hstate.trans h₂) (hissue.trans h₃) h₄
      (hresting h₅ (by simp [h₂]))
  | refused h₁ h₂ h₃ h₄ h₅ h₆ =>
    exact .refused (hproducer.trans h₁) (hstate.trans h₂) (hissue.trans h₃) h₄ h₅
      (hresting h₆ (by simp [h₂]))
  | flowing blocks h₁ h₂ h₃ h₄ =>
    rw [← hproducer] at h₁
    exact .flowing blocks h₁ (hstate.trans h₂) (hissue.trans h₃) h₄
  | ending blocks h₁ h₂ h₃ h₄ h₅ =>
    exact .ending blocks (hproducer.trans h₁) (hstate.trans h₂) (hissue.trans h₃) h₄ h₅
  | marking blocks h₁ h₂ h₃ =>
    exact .marking blocks (hproducer.trans h₁) (h₂.congr hstate hissue) h₃
  | marked blocks h₁ h₂ h₃ =>
    rw [← hproducer] at h₁
    exact .marked blocks h₁ (h₂.congr hstate hissue) h₃
  | met h₁ h₂ h₃ h₄ =>
    refine .met (hproducer.trans h₁) (h₂.congr hstate hissue) h₃ (hresting h₄ ?_)
    rcases h₂.state_eq with h | h <;> simp [h]

/-- The answer that there are no more rows. -/
theorem answer_false : (Except.ok false : Except ScanError Bool) ≠ .ok true ∧
    ∀ e, (Except.ok false : Except ScanError Bool) = .error e → e.isLost = false := by
  refine ⟨fun h => ?_, fun e h => ?_⟩
  · cases h
  · cases h

/-- A call is answered, and gives some of the pending rows: one or none. -/
theorem Live.gives (h : w.Live names) (hidle : w.consumer = .idle) {answer : Except ScanError Bool}
    {r : Reader} {cursor : Option Cursor} (rows : List (List Scalar))
    (hreader : r = { w.reader with cursor := cursor, rowsRead := w.reader.rowsRead + rows.length })
    (hrows : (w.answered answer r).rows = w.rows ++ rows.map .ok) (hbound : r.Bound names)
    (hpending : w.reader.pending names = rows ++ r.pending names)
    (hkept : ∀ e, answer = .error e → e.isLost = false)
    (hended : answer = .ok false → w.feed.state = .finished)
    (hresting : w.reader.cursor = none → cursor = none) : (w.answered answer r).Live names := by
  have hflight : (w.answered answer r).inFlight = w.inFlight := by
    simp [inFlight, ScanWorld.answered, hidle, Consumer.heldItems, feed, hreader]
  have hmem : ∀ {call}, call ∈ (w.answered answer r).log →
      call ∈ w.log ∨ call = .next answer r.get := by
    intro call hcall
    exact (List.mem_append.mp hcall).imp_right List.mem_singleton.mp
  obtain ⟨delivered, hdelivered, hflow⟩ := h.flow
  have hfeed : r.feed = w.reader.feed := by rw [hreader]
  refine
    { columns := ?_, opened := ?_, uncancelled := ?_, receiver := ?_, sender := ?_
      bound := hbound, carried := ?_, count := ?_, flow := ⟨delivered ++ rows, ?_, ?_⟩
      fetches := .inl rfl, kept := ?_, ended := ?_, stage := ?_ }
  · show r.outColumns = names
    rw [hreader]
    exact h.columns
  · intro hclose
    rcases hmem hclose with hclose | hclose
    · exact h.opened hclose
    · cases hclose
  · show r.feed.cancelled = false
    rw [hfeed]
    exact h.uncancelled
  · show r.feed.queue.receiverOpen = true
    rw [hfeed]
    exact h.receiver
  · show r.feed.queue.senderOpen = true ↔ r.feed.producer ≠ .exited
    rw [hfeed]
    exact h.sender
  · rw [hflight]
    exact h.carried
  · rw [hrows, List.length_append, List.length_map, ← h.count]
    show r.rowsRead = _
    rw [hreader]
  · rw [hrows, hdelivered, List.map_append]
  · have hall : w.handedRows names = _ := hflow
    rw [hpending, List.append_assoc] at hall
    rw [hflight, List.append_assoc]
    exact hall
  · intro e row he
    rcases hmem he with he | he
    · exact h.kept e row he
    · cases he
      exact hkept e rfl
  · intro row hend
    show r.feed.state = .finished
    rw [hfeed]
    rcases hmem hend with hend | hend
    · exact h.ended row hend
    · cases hend
      exact hended rfl
  · rw [hflight]
    refine h.stage.congr (congrArg _ hfeed) (congrArg _ hfeed) (congrArg _ hfeed) ?_
    intro hbefore _
    refine ⟨rfl, ?_⟩
    show r.cursor = none
    rw [hreader]
    exact hresting hbefore.2

/-- A call is answered, but not with a row. -/
theorem Live.answered (h : w.Live names) (hidle : w.consumer = .idle)
    {answer : Except ScanError Bool} (hrow : answer ≠ .ok true)
    (hkept : ∀ e, answer = .error e → e.isLost = false)
    (hended : answer = .ok false → w.feed.state = .finished) :
    (w.answered answer w.reader).Live names := by
  have hrows : (w.answered answer w.reader).rows = w.rows ++ [] := by
    rw [rows_answered]
    split
    · exact absurd rfl hrow
    · rfl
  exact h.gives hidle [] rfl hrows h.bound rfl hkept hended id

/-- The reader moves to a pending row. -/
theorem Live.advance (h : w.Live names) (hidle : w.consumer = .idle) {r : Reader}
    (hrow : w.reader.advance? = some r) : (w.answered (.ok true) r).Live names := by
  obtain ⟨cursor, row, hreader, hget, hpending, hbound⟩ := Reader.advance?_eq_some hrow h.bound
  have hrows : (w.answered (.ok true) r).rows = w.rows ++ [row].map .ok := by
    rw [rows_answered, hget]
    rfl
  refine h.gives hidle [row] hreader hrows hbound hpending (by simp) (by simp) ?_
  -- There is a current block, so the scan is neither before its start nor over.
  intro hnone
  rw [Reader.advance?, hnone] at hrow
  cases hrow

/-- The reader begins to take items, without a pending row. -/
theorem Live.fetching (h : w.Live names) (hidle : w.consumer = .idle)
    (hpending : w.reader.pending names = [])
    (hactive : w.reader.cursor ≠ none ∨ w.feed.state = .prepared) :
    Live { w with consumer := .fetching } names := by
  have hflight : inFlight { w with consumer := .fetching } = w.inFlight := by
    simp [inFlight, hidle, Consumer.heldItems, feed]
  obtain ⟨delivered, hdelivered, hflow⟩ := h.flow
  refine
    { columns := h.columns, opened := h.opened, uncancelled := h.uncancelled
      receiver := h.receiver, sender := h.sender, bound := h.bound, carried := ?_
      count := h.count, flow := ⟨delivered, hdelivered, ?_⟩, fetches := .inr ⟨.inl rfl, hpending⟩
      kept := h.kept, ended := h.ended, stage := ?_ }
  · rw [hflight]
    exact h.carried
  · rw [hflight]
    exact hflow
  · rw [hflight]
    refine h.stage.congr rfl rfl rfl fun hresting hstate => ?_
    rcases hactive with hcursor | hprepared
    · exact absurd hresting.2 hcursor
    · exact absurd hprepared hstate

/-- A reader that is freshly created has nothing on its way. -/
theorem Stage.of_created {f : Feed} {status : Option Status} {items : List QueueItem}
    {resting : Prop} (h : Stage f status items resting) (hcreated : f.state = .created) :
    f.producer = .idle ∧ f.issue = none ∧ items = [] ∧ resting := by
  cases h with
  | created h₁ h₂ h₃ h₄ h₅ => exact ⟨h₁, h₃, h₄, h₅⟩
  | refused _ h => simp [h] at hcreated
  | flowing _ _ h => simp [h] at hcreated
  | ending _ _ h => simp [h] at hcreated
  | marking _ _ h => rcases h.state_eq with h | h <;> simp [h] at hcreated
  | marked _ _ h => rcases h.state_eq with h | h <;> simp [h] at hcreated
  | met _ h => rcases h.state_eq with h | h <;> simp [h] at hcreated

/-- The session and the read are opened. -/
theorem Live.opening (h : w.Live names) (hidle : w.consumer = .idle)
    (hstate : w.reader.state = .created) (scan : OpenScan) :
    Live { w with reader := w.reader.opened scan } names := by
  obtain ⟨hproducer, hissue, hitems, hresting⟩ := h.stage.of_created hstate
  have hsender : w.feed.queue.senderOpen = true := h.sender.mpr (by simp [hproducer])
  have hflight : inFlight { w with reader := w.reader.opened scan } = w.inFlight := by
    simp [inFlight, feed, Reader.opened] at hproducer ⊢
    simp [hproducer, Producer.waitingItems]
  obtain ⟨delivered, hdelivered, hflow⟩ := h.flow
  have hpending : w.reader.pending names = [] := by
    rw [Reader.pending, hresting.2]
  refine
    { columns := h.columns, opened := h.opened, uncancelled := h.uncancelled
      receiver := h.receiver, sender := ?_, bound := Reader.bound_of_cursor_eq_none rfl
      carried := ?_, count := h.count, flow := ⟨delivered, hdelivered, ?_⟩, fetches := .inl hidle
      kept := h.kept, ended := ?_, stage := ?_ }
  · refine ⟨fun _ hexited => ?_, fun _ => hsender⟩
    cases hexited
  · rw [hflight]
    exact h.carried
  · rw [hflight]
    rw [hpending] at hflow
    exact hflow
  · intro row hend
    have hfinished := h.ended row hend
    rw [show w.feed.state = .created from hstate] at hfinished
    cases hfinished
  · rw [hflight, hitems]
    exact .flowing [] (.inl rfl) rfl hissue rfl

/-- The session or the read cannot be opened. -/
theorem Live.setupFails (h : w.Live names)
    (hstate : w.reader.state = .created) (cause : StoreError) :
    Live { w with reader := (w.reader.failSetup cause).2 } names := by
  obtain ⟨hproducer, hissue, hitems, hresting⟩ := h.stage.of_created hstate
  have hlatch : w.reader.feed.latch (.setup w.reader.feed.table cause) =
      { w.reader.feed with issue := some (.setup w.reader.feed.table cause), state := .failed } := by
    rw [Feed.latch, show w.reader.feed.issue = none from hissue]
  simp only [Reader.failSetup, hlatch]
  refine h.produce_nothing [] (.inl rfl) rfl rfl h.sender (List.append_nil _).symm ?_ ?_
  · intro hfinished
    rw [show w.feed.state = .created from hstate] at hfinished
    cases hfinished
  · rw [List.append_nil, hitems]
    exact .refused hproducer rfl rfl rfl rfl hresting

/-- In a call that takes items there is no pending row. -/
theorem Live.pending_eq_nil (h : w.Live names) (hbusy : w.consumer ≠ .idle) :
    w.reader.pending names = [] := by
  rcases h.fetches with hidle | ⟨-, hpending⟩
  · exact absurd hidle hbusy
  · exact hpending

/-- A reader that takes an item finds one: the marker does not leave before all else. -/
theorem Live.exists_of_take (h : w.Live names) (hfetching : w.consumer = .fetching)
    {item : Option QueueItem} {queue : Queue} (htake : w.feed.queue.take = some (item, queue)) :
    ∃ i, item = some i := by
  unfold Queue.take at htake
  split at htake
  · cases htake
  · next hopen =>
    cases hitems : w.feed.queue.items with
    | nil =>
      -- The queue is empty and its sending half gone, so the marker would have to be in flight.
      have hexited : w.feed.producer = .exited := by
        by_contra hne
        rw [hitems, h.sender.mpr hne] at hopen
        simp at hopen
      have hnone : w.inFlight = [] := by
        simp [inFlight, hfetching, Consumer.heldItems, hitems, hexited, Producer.waitingItems]
      have hstage := h.stage
      cases hstage with
      | marked blocks _ _ hmarked => simp [hnone] at hmarked
      | met _ _ _ hresting => cases hfetching.symm.trans hresting.1
      | created h => simp [h] at hexited
      | refused h => simp [h] at hexited
      | flowing _ h => simp [hexited] at h
      | ending _ h => simp [h] at hexited
      | marking _ h => simp [h] at hexited
    | cons i rest =>
      rw [Queue.tryTake, hitems] at htake
      cases htake
      exact ⟨i, rfl⟩

/-- What is taken from the queue stays in flight, in the hands of the reader. -/
theorem inFlight_take (hfetching : w.consumer = .fetching) {i : QueueItem} {queue : Queue}
    (htake : w.feed.queue.take = some (some i, queue)) :
    inFlight { w.withFeed { w.feed with queue := queue } with consumer := .holding (some i) } =
      w.inFlight := by
  obtain ⟨hitems, -⟩ := Queue.eq_of_take htake
  rw [inFlight, inFlight, hfetching, hitems]
  rfl

/-- Taking an item only moves it. -/
theorem Live.take (h : w.Live names) (hfetching : w.consumer = .fetching)
    {item : Option QueueItem} {queue : Queue} (htake : w.feed.queue.take = some (item, queue)) :
    Live { w.withFeed { w.feed with queue := queue } with consumer := .holding item } names := by
  obtain ⟨i, rfl⟩ := h.exists_of_take hfetching htake
  have hpending := h.pending_eq_nil (by simp [hfetching])
  have hflight := inFlight_take hfetching htake
  obtain ⟨-, hqueue⟩ := Queue.eq_of_take htake
  obtain ⟨delivered, hdelivered, hflow⟩ := h.flow
  refine
    { columns := h.columns, opened := h.opened, uncancelled := h.uncancelled
      receiver := ?_, sender := ?_, bound := h.bound, carried := hflight ▸ h.carried
      count := h.count, flow := ⟨delivered, hdelivered, hflight ▸ hflow⟩
      fetches := .inr ⟨.inr ⟨i, rfl⟩, hpending⟩, kept := h.kept, ended := h.ended
      stage := ?_ }
  · rw [hqueue]
    exact h.receiver
  · rw [hqueue]
    exact h.sender
  · rw [hflight]
    refine h.stage.congr rfl rfl rfl fun hresting _ => ?_
    cases hfetching.symm.trans hresting.1

/-- Behind a block there are blocks only, if there are no other items. -/
theorem blocks_of_cons {item : QueueItem} {items : List QueueItem} {blocks : List Block}
    (h : item :: items = blocks.map .block) :
    ∃ blocks' : List Block, items = blocks'.map .block := by
  cases blocks with
  | nil => cases h
  | cons b blocks' =>
    rw [List.map_cons, List.cons.injEq] at h
    exact ⟨blocks', h.2⟩

/-- What the reader has in hands is the oldest item in flight. -/
theorem inFlight_of_holding {item : QueueItem} (hholding : w.consumer = .holding (some item)) :
    w.inFlight = item :: (w.feed.queue.items ++ w.feed.producer.waitingItems) := by
  rw [inFlight, hholding]
  rfl

/-- A block in hands becomes the current one. -/
theorem Live.load (h : w.Live names) {b : Block}
    (hholding : w.consumer = .holding (some (.block b))) (hconforms : b.Conforms names)
    {positions : List Nat} (hpositions : b.positions names = .ok positions) :
    Live
      { w with
        reader := { w.reader with cursor := some ⟨b, positions, none⟩ }, consumer := .idle }
      names := by
  have hflight := inFlight_of_holding hholding
  have hrest : inFlight
      { w with
        reader := { w.reader with cursor := some ⟨b, positions, none⟩ }, consumer := .idle } =
        w.feed.queue.items ++ w.feed.producer.waitingItems := rfl
  have hpending := h.pending_eq_nil (by simp [hholding])
  obtain ⟨delivered, hdelivered, hflow⟩ := h.flow
  refine
    { columns := h.columns, opened := h.opened, uncancelled := h.uncancelled
      receiver := h.receiver, sender := h.sender, bound := ?_, carried := ?_, count := h.count
      flow := ⟨delivered, hdelivered, ?_⟩, fetches := .inl rfl, kept := h.kept, ended := h.ended
      stage := ?_ }
  · intro c hc
    cases hc
    exact ⟨hconforms, hpositions⟩
  · intro b' hb'
    rw [hrest] at hb'
    exact h.carried b' (by rw [hflight]; exact List.mem_cons_of_mem _ hb')
  · rw [hrest]
    rw [hpending, hflight, List.nil_append, List.flatMap_cons] at hflow
    exact hflow
  · -- The marker is behind the block, so the scan is not over.
    have hstage := h.stage
    rw [hflight] at hstage
    rw [hrest]
    cases hstage with
    | flowing blocks h₁ h₂ h₃ h₄ =>
      obtain ⟨blocks', hrest⟩ := blocks_of_cons h₄
      exact .flowing blocks' h₁ h₂ h₃ hrest
    | ending blocks h₁ h₂ h₃ h₄ h₅ =>
      obtain ⟨blocks', hrest⟩ := blocks_of_cons h₅
      exact .ending blocks' h₁ h₂ h₃ h₄ hrest
    | marking blocks h₁ h₂ h₃ =>
      obtain ⟨blocks', hrest⟩ := blocks_of_cons h₃
      exact .marking blocks' h₁ h₂ hrest
    | marked blocks h₁ h₂ h₃ =>
      cases blocks with
      | nil => cases h₃
      | cons b' blocks' =>
        rw [List.map_cons, List.cons_append, List.cons.injEq] at h₃
        exact .marked blocks' h₁ h₂ h₃.2
    | created _ _ _ h => cases h
    | refused _ _ _ _ h => cases h
    | met _ _ h => cases h

/-- The marker in hands says that everything was delivered, or that the scan has failed. -/
theorem Live.meetMarker (h : w.Live names) (hholding : w.consumer = .holding (some .endOfScan)) :
    (w.feed.state = .prepared ∧ w.feed.issue = none ∧
      Live
        { w with
          reader := { w.reader with cursor := none, feed := w.feed.finish }, consumer := .idle }
        names) ∨
    ∃ e, w.feed.issue = some e ∧ e.isLost = false ∧
      Live { w with reader := { w.reader with cursor := none }, consumer := .idle } names := by
  have hflight := inFlight_of_holding hholding
  have hstage := h.stage
  rw [hflight] at hstage
  obtain ⟨hexited, hverdict, hempty⟩ : w.feed.producer = .exited ∧
      Verdict w.feed w.status .prepared ∧
      w.feed.queue.items ++ w.feed.producer.waitingItems = [] := by
    cases hstage with
    | marked blocks h₁ h₂ h₃ =>
      cases blocks with
      | cons b blocks => cases h₃
      | nil =>
        rw [List.map_nil, List.nil_append, List.cons.injEq] at h₃
        rcases h₁ with hwaiting | hexited
        · rw [hwaiting] at h₃
          simp [Producer.waitingItems] at h₃
        · exact ⟨hexited, h₂, h₃.2⟩
    | flowing blocks _ _ _ h => cases blocks <;> cases h
    | ending blocks _ _ _ _ h => cases blocks <;> cases h
    | marking blocks _ _ h => cases blocks <;> cases h
    | created _ _ _ h => cases h
    | refused _ _ _ _ h => cases h
    | met _ _ h => cases h
  have hpending := h.pending_eq_nil (by simp [hholding])
  obtain ⟨delivered, hdelivered, hflow⟩ := h.flow
  rw [hpending, hflight, hempty] at hflow
  -- Both outcomes leave the same world but for the feed.
  have hlive : ∀ f : Feed, f.queue = w.feed.queue → f.producer = w.feed.producer →
      f.cancelled = w.feed.cancelled → Verdict f w.status .finished →
      (w.feed.state = .finished → f.state = .finished) →
      Live { w with reader := { w.reader with cursor := none, feed := f }, consumer := .idle }
        names := by
    intro f hqueue hproducer hcancelled hverdict hended
    have hnone : inFlight
        { w with
          reader := { w.reader with cursor := none, feed := f }, consumer := .idle } = [] := by
      show f.queue.items ++ f.producer.waitingItems = []
      rw [hqueue, hproducer, hempty]
    refine
      { columns := h.columns, opened := h.opened, uncancelled := hcancelled.trans h.uncancelled
        receiver := ?_, sender := ?_, bound := Reader.bound_of_cursor_eq_none rfl
        carried := ?_, count := h.count, flow := ⟨delivered, hdelivered, ?_⟩
        fetches := .inl rfl, kept := h.kept
        ended := fun row hend => hended (h.ended row hend), stage := ?_ }
    · show f.queue.receiverOpen = true
      rw [hqueue, h.receiver]
    · show f.queue.senderOpen = true ↔ f.producer ≠ .exited
      rw [hqueue, hproducer]
      exact h.sender
    · rw [hnone]
      exact fun _ hmem => absurd hmem List.not_mem_nil
    · rw [hnone]
      exact hflow
    · rw [hnone]
      exact .met (hproducer.trans hexited) hverdict rfl ⟨rfl, rfl⟩
  cases hverdict with
  | harmless hstate hissue hstatus hs =>
    left
    have hfinish : w.feed.finish = { w.feed with state := .finished } := by
      rw [Feed.finish, hstate, if_neg (by simp)]
    refine ⟨hstate, hissue, ?_⟩
    rw [hfinish]
    exact hlive _ rfl rfl rfl (.harmless rfl hissue hstatus hs) fun _ => rfl
  | failed hstate hissue he =>
    right
    exact ⟨_, hissue, he, hlive w.feed rfl rfl rfl (.failed hstate hissue he) id⟩

end Read

end ScanWorld
end ShardScan
