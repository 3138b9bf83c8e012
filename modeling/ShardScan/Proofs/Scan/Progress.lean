import ShardScan.Proofs.Scan.BrokenStream

/-!
# Calls that are answered

A call for a row waits where the queue is empty, and the producer waits where it
is full.  They do not wait for each other, as long as the queue has room for an
item: an empty queue lets the producer go on, until it has offered the marker
behind the last block.  And neither goes on for ever.  Every step of the producer
brings it closer to its end or uses up a block of its stream, and every item that
a call takes either answers it or is one less to come.  So a call is answered in
every interleaving, whichever side makes the next step.

## Main definitions

* `ScanWorld.Streams` — the scan is set up, and its stream hands over some blocks and ends well.
* `ScanWorld.InevitablyAnswered` — whatever is done next, the current call is answered.
* `ScanWorld.ahead` — how much can still be done before it is.

## Main results

* `ScanWorld.Live.exists_step` — in a call there is always a next step.
* `ScanWorld.Live.ahead_lt` — a step answers the call or lowers what is ahead.
* `ScanWorld.inevitablyAnswered` — **calls are answered in every interleaving.**
-/

namespace ShardScan

/-! ### The room in a queue -/

theorem Queue.capacity_tryOffer (q : Queue) (item : QueueItem) :
    (q.tryOffer item).2.capacity = q.capacity := by
  rcases q.tryOffer_cases item with ⟨-, hoffer⟩ | ⟨-, hoffer⟩ | ⟨-, hoffer⟩ <;> rw [hoffer]
  rfl

theorem Feed.capacity_step? {f f' : Feed} {event : StreamEvent} (h : f.step? event = some f') :
    f'.queue.capacity = f.queue.capacity := by
  have hblock := fun b => f.queue.capacity_tryOffer (.block b)
  have hmarker := f.queue.capacity_tryOffer .endOfScan
  unfold step? at h
  repeat' split at h
  all_goals cases h
  · next b =>
    have hoffer := hblock b
    unfold offerBlock
    split <;> next heq => rw [heq] at hoffer; exact hoffer
  · rfl
  · next item _ _ => cases item <;> rfl
  · next item _ _ _ => cases item <;> rfl
  · exact congrArg Queue.capacity (f.queue_record _)
  · unfold offerMarker
    split <;> next heq => rw [heq] at hmarker; exact hmarker

/-- A call that is answered leaves the queue as it is. -/
theorem Reader.queue_of_answers {r r' : Reader} {item : Option QueueItem}
    {answer : Except ScanError Bool} (h : r.accept item = .answers answer r') :
    r'.feed.queue = r.feed.queue := by
  have hfail : ∀ e, (r.fail e).feed.queue = r.feed.queue := r.feed.queue_latch
  match item with
  | none =>
    cases h
    exact hfail _
  | some .endOfScan =>
    rw [accept_endOfScan] at h
    split at h <;> cases h
    · rfl
    · exact r.feed.queue_finish
  | some (.block b) =>
    cases hpositions : b.positions r.outColumns with
    | error drift =>
      rw [accept_drift hpositions] at h
      cases h
      exact hfail _
    | ok positions =>
      rw [accept_block hpositions] at h
      split at h <;> cases h
      next hrow =>
      obtain ⟨cursor, rfl⟩ := eq_of_advance? hrow
      rfl

namespace ScanWorld

variable {w w' : ScanWorld} {shard : Shard} {names : List String} {blocks : List Block}

theorem capacity_step (h : ScanStep w w') : w'.feed.queue.capacity = w.feed.queue.capacity := by
  cases h with
  | hand _ hstep => exact Feed.capacity_step? hstep
  | stop _ hstep => exact Feed.capacity_step? hstep
  | proceed hstep => exact Feed.capacity_step? hstep
  | @send item => cases item <;> rfl
  | prepareFails => exact congrArg Queue.capacity (w.feed.queue_latch _)
  | firstNextFails => exact congrArg Queue.capacity (w.feed.queue_latch _)
  | advance _ hrow =>
    obtain ⟨cursor, rfl⟩ := Reader.eq_of_advance? hrow
    rfl
  | take _ htake =>
    unfold Queue.take Queue.tryTake at htake
    repeat' split at htake
    all_goals cases htake
    all_goals rfl
  | answer _ haccept => exact congrArg Queue.capacity (Reader.queue_of_answers haccept)
  | goOn _ haccept => exact congrArg (·.queue.capacity) (Reader.feed_of_goesOn haccept)
  | close => exact congrArg Queue.capacity w.feed.queue_finish
  | _ => rfl

theorem capacity_run (h : ScanRun w w') : w'.feed.queue.capacity = w.feed.queue.capacity := by
  induction h with
  | refl => rfl
  | tail _ hstep ih => exact (capacity_step hstep).trans ih

/-! ### Streams that end well -/

/-- The scan is set up, and its stream hands over the blocks in their order and ends well behind
them.  One that was called off may end before. -/
structure Streams (w : ScanWorld) (blocks : List Block) : Prop where
  handed : w.handed <+: blocks
  status : ∀ s ∈ w.status, s.isHarmless = true ∧ (w.feed.cancelled = false → w.handed = blocks)
  setUp : ∀ table cause, w.feed.issue ≠ some (.setup table cause)

/-- A scan whose producer has begun was set up. -/
theorem Tells.setUp (h : w.Tells shard) (hbegun : w.feed.producer ≠ .idle) (table : String)
    (cause : StoreError) : w.feed.issue ≠ some (.setup table cause) := by
  intro hissue
  cases h.cause _ hissue with
  | setup _ hidle => exact hbegun hidle
  | drift hdrifted =>
    obtain ⟨b, -, drift, -, heq⟩ := hdrifted
    cases heq

/-- Whatever the two sides do next, the current call is answered: as long as it is not there is a
next step, and there is no end to it. -/
inductive InevitablyAnswered (blocks : List Block) : ScanWorld → Prop
  | answered {w : ScanWorld} (hidle : w.consumer = .idle) : InevitablyAnswered blocks w
  | later {w : ScanWorld} (hnext : ∃ w', ScanStep w w' ∧ w'.Streams blocks)
    (hevery : ∀ w', ScanStep w w' → w'.Streams blocks → InevitablyAnswered blocks w') :
    InevitablyAnswered blocks w

/-! ### There is a next step -/

/-- In a call that takes items the producer has begun. -/
theorem Live.begun (h : w.Live names) (hbusy : w.consumer ≠ .idle) : w.feed.producer ≠ .idle := by
  intro hidle
  have hstage := h.stage
  cases hstage with
  | created _ _ _ _ hresting => exact hbusy hresting.1
  | refused _ _ _ _ _ hresting => exact hbusy hresting.1
  | flowing _ h => rcases h with h | ⟨b, h⟩ <;> cases hidle.symm.trans h
  | ending _ h => cases hidle.symm.trans h
  | marking _ h => cases hidle.symm.trans h
  | marked _ h => rcases h with h | h <;> cases hidle.symm.trans h
  | met h => cases hidle.symm.trans h

/-- The status of a scan that is not called off is that of the whole stream. -/
theorem Live.status_of_streams (h : w.Live names) (hstream : w.Streams blocks) :
    ∀ s ∈ w.status, s.isHarmless = true ∧ w.handed = blocks :=
  fun s hs => ⟨(hstream.status s hs).1, (hstream.status s hs).2 h.uncancelled⟩

/-- A step that keeps to the stream. -/
theorem streams_of_step (htells : w.Tells shard) (hstep : ScanStep w w')
    (hbegun : w'.feed.producer ≠ .idle) (hhanded : w'.handed <+: blocks)
    (hstatus : ∀ s ∈ w'.status, s.isHarmless = true ∧ w'.handed = blocks) :
    w'.Streams blocks where
  handed := hhanded
  status s hs := ⟨(hstatus s hs).1, fun _ => (hstatus s hs).2⟩
  setUp := (tells_step htells hstep).setUp hbegun

/-- A producer with room in its queue can go on until it has ended. -/
theorem Live.exists_produce (h : w.Live names) (htells : w.Tells shard)
    (hstream : w.Streams blocks) (hbegun : w.feed.producer ≠ .idle)
    (hexited : w.feed.producer ≠ .exited) (hroom : w.feed.queue.isFull = false) :
    ∃ w', ScanStep w w' ∧ w'.Streams blocks := by
  have hstatus := h.status_of_streams hstream
  -- A step that hands over no block and leaves the status as it is.
  have hproceed : ∀ {f}, w.feed.step? .waits = some f → f.producer ≠ .idle →
      ∃ w', ScanStep w w' ∧ w'.Streams blocks := fun hstep hf =>
    ⟨_, .proceed hstep, streams_of_step htells (.proceed hstep) hf hstream.handed hstatus⟩
  cases hproducer : w.feed.producer with
  | idle => exact absurd hproducer hbegun
  | exited => exact absurd hproducer hexited
  | streaming =>
    have hnone : w.status = none :=
      htells.agrees.unended (by simp [Feed.isStreaming, hproducer])
    obtain ⟨rest, hblocks⟩ := hstream.handed
    cases rest with
    | nil =>
      rw [List.append_nil] at hblocks
      have hstep : w.feed.step? (.ends .success) = some (w.feed.endStream .success) := by
        rw [Feed.step?, hproducer]
      have hstop := ScanStep.stop hproducer hstep
      refine ⟨_, hstop, streams_of_step htells hstop ?_ hstream.handed ?_⟩
      · simp [withFeed, feed, Feed.endStream]
      · rintro s ⟨⟩
        exact ⟨rfl, hblocks⟩
    | cons b rest =>
      have hstep : w.feed.step? (.delivers b) = some (w.feed.offerBlock b) := by
        rw [Feed.step?, hproducer]
      have hhand := ScanStep.hand hproducer hstep
      refine ⟨_, hhand, streams_of_step htells hhand ?_ ⟨rest, ?_⟩ ?_⟩
      · show (w.feed.offerBlock b).producer ≠ .idle
        rw [Feed.offerBlock_of_open h.receiver, hroom]
        simp
      · show w.handed ++ [b] ++ rest = blocks
        rw [List.append_assoc]
        exact hblocks
      · intro s hs
        cases hnone.symm.trans hs
  | waiting item =>
    refine hproceed (f := w.feed.enqueue item) ?_ ?_
    · simp [Feed.step?, hproducer, h.uncancelled, h.receiver, hroom]
    · cases item <;> simp [Feed.enqueue, Feed.exit]
  | ending s =>
    refine hproceed (f := { w.feed.record s with producer := .marking }) ?_ (by simp)
    rw [Feed.step?, hproducer]
  | marking =>
    refine hproceed (f := w.feed.offerMarker) ?_ ?_
    · rw [Feed.step?, hproducer]
    · rw [Feed.offerMarker_of_open h.receiver, hroom]
      simp [Feed.exit]

/-- **In a call there is a next step**, if the queue takes an item at all. -/
theorem Live.exists_step (h : w.Live names) (htells : w.Tells shard) (hbusy : w.consumer ≠ .idle)
    (hcapacity : 0 < w.feed.queue.capacity) (hstream : w.Streams blocks) :
    ∃ w', ScanStep w w' ∧ w'.Streams blocks := by
  have hbegun := h.begun hbusy
  have hstatus := h.status_of_streams hstream
  rcases h.fetches with hidle | ⟨hfetching | ⟨item, hholding⟩, -⟩
  · exact absurd hidle hbusy
  · cases htake : w.feed.queue.take with
    | some taken =>
      have hstep := @ScanStep.take w taken.1 taken.2 hfetching htake
      exact ⟨_, hstep, streams_of_step htells hstep hbegun hstream.handed hstatus⟩
    | none =>
      -- The queue is empty and an item can still come, so the producer has room for it.
      unfold Queue.take at htake
      split at htake
      · next hempty =>
        obtain ⟨hitems, hopen⟩ := Bool.and_eq_true_iff.mp hempty
        refine h.exists_produce htells hstream hbegun (h.sender.mp hopen) ?_
        rw [Queue.isFull, List.isEmpty_iff.mp hitems, decide_eq_false_iff_not, List.length_nil]
        exact Nat.not_le_of_lt hcapacity
      · cases htake
  · cases haccept : w.reader.accept (some item) with
    | answers answer r =>
      have hstep := ScanStep.answer hholding haccept
      have hproducer := (Reader.sameScan_accept (.inl ⟨_, haccept⟩)).2
      refine ⟨_, hstep, streams_of_step htells hstep ?_ hstream.handed hstatus⟩
      exact fun hidle => hbegun (hproducer.symm.trans hidle)
    | goesOn r =>
      have hstep := ScanStep.goOn hholding haccept
      have hproducer := (Reader.sameScan_accept (.inr haccept)).2
      refine ⟨_, hstep, streams_of_step htells hstep ?_ hstream.handed hstatus⟩
      exact fun hidle => hbegun (hproducer.symm.trans hidle)

/-! ### There is no end of steps -/

/-- How much the producer can still do, apart from the blocks to come.  The marker is one item
more. -/
def producerAhead : Producer → Nat
  | .idle => 0
  | .exited => 0
  | .waiting .endOfScan => 1
  | .marking => 4
  | .ending _ => 5
  | .streaming => 6
  | .waiting (.block _) => 7

/-- A call that is about to take an item still has to. -/
def consumerAhead : Consumer → Nat
  | .fetching => 1
  | _ => 0

/-- What can still be done before the current call is answered: a block to come counts for its
handing over and for the item that it becomes, and an item for being taken and passed over. -/
def ahead (w : ScanWorld) (blocks : List Block) : Nat :=
  4 * (blocks.length - w.handed.length) + 2 * w.inFlight.length + producerAhead w.feed.producer +
    consumerAhead w.consumer

/-- A step of the producer is one less to do. -/
theorem ahead_produce {f : Feed} {added : List Block} {status : Option Status}
    (hhanded : w.handed ++ added <+: blocks)
    (hless : 2 * (f.queue.items ++ f.producer.waitingItems).length + producerAhead f.producer <
      4 * added.length +
        (2 * (w.feed.queue.items ++ w.feed.producer.waitingItems).length +
          producerAhead w.feed.producer)) :
    ahead { w.withFeed f with handed := w.handed ++ added, status := status } blocks <
      w.ahead blocks := by
  have hlength := hhanded.length_le
  rw [List.length_append] at hlength
  show 4 * (blocks.length - (w.handed ++ added).length) +
      2 * (w.consumer.heldItems ++ (f.queue.items ++ f.producer.waitingItems)).length +
        producerAhead f.producer + consumerAhead w.consumer < _
  rw [ahead, inFlight]
  simp only [List.length_append] at hless ⊢
  omega

/-- The same without another block. -/
theorem ahead_produce_nothing {f : Feed} {status : Option Status} (hhanded : w.handed <+: blocks)
    (hless : 2 * (f.queue.items ++ f.producer.waitingItems).length + producerAhead f.producer <
      2 * (w.feed.queue.items ++ w.feed.producer.waitingItems).length +
        producerAhead w.feed.producer) :
    ahead { w.withFeed f with status := status } blocks < w.ahead blocks := by
  have hahead : ahead { w.withFeed f with handed := w.handed ++ [], status := status } blocks <
      w.ahead blocks := by
    refine ahead_produce ?_ ?_
    · rwa [List.append_nil]
    · simpa using hless
  rwa [List.append_nil] at hahead

theorem ahead_send {item : QueueItem} (hproducer : w.feed.producer = .waiting item)
    (hhanded : w.handed <+: blocks) :
    ahead (w.withFeed (w.feed.enqueue item)) blocks < w.ahead blocks := by
  refine ahead_produce_nothing hhanded ?_
  cases item <;>
    simp [Feed.enqueue, Feed.exit, Queue.push, Queue.closeSender, hproducer,
      Producer.waitingItems, producerAhead]

/-- The producer takes the next step on its own. -/
theorem Live.ahead_proceed (h : w.Live names) {f : Feed} (hstep : w.feed.step? .waits = some f)
    (hhanded : w.handed <+: blocks) : ahead (w.withFeed f) blocks < w.ahead blocks := by
  unfold Feed.step? at hstep
  split at hstep
  · cases hstep
  · cases hstep
  · cases hstep
  · next item hproducer =>
    rw [if_neg (by simp [h.uncancelled, h.receiver])] at hstep
    split at hstep
    · cases hstep
    · cases hstep
      exact ahead_send hproducer hhanded
  · next s hproducer =>
    cases hstep
    refine ahead_produce_nothing hhanded ?_
    simp [w.feed.queue_record, hproducer, Producer.waitingItems, producerAhead]
  · next hproducer =>
    cases hstep
    refine ahead_produce_nothing hhanded ?_
    rw [Feed.offerMarker_of_open h.receiver]
    split <;>
      simp [Feed.exit, Queue.push, Queue.closeSender, hproducer, Producer.waitingItems,
        producerAhead] <;> omega

/-- An item is taken. -/
theorem Live.ahead_take (h : w.Live names) (hfetching : w.consumer = .fetching)
    {item : Option QueueItem} {queue : Queue} (htake : w.feed.queue.take = some (item, queue)) :
    ahead { w.withFeed { w.feed with queue := queue } with consumer := .holding item } blocks <
      w.ahead blocks := by
  obtain ⟨i, rfl⟩ := h.exists_of_take hfetching htake
  have hahead : w.ahead blocks =
      ahead { w.withFeed { w.feed with queue := queue } with consumer := .holding (some i) } blocks +
        1 := by
    rw [ahead, ahead, inFlight_take hfetching htake, hfetching]
    rfl
  rw [hahead]
  exact Nat.lt_succ_self _

/-- An item that was taken is passed over. -/
theorem ahead_goOn {item : Option QueueItem} {r : Reader} (hholding : w.consumer = .holding item)
    (haccept : w.reader.accept item = .goesOn r) :
    ahead { w with reader := r, consumer := .fetching } blocks < w.ahead blocks := by
  have hfeed := Reader.feed_of_goesOn haccept
  cases item with
  | none => cases haccept
  | some item =>
    have hahead : ahead { w with reader := r, consumer := .fetching } blocks =
        4 * (blocks.length - w.handed.length) +
          2 * (w.feed.queue.items ++ w.feed.producer.waitingItems).length +
          producerAhead w.feed.producer + 1 := by
      show _ + 2 * ([] ++ (r.feed.queue.items ++ r.feed.producer.waitingItems)).length +
        producerAhead r.feed.producer + 1 = _
      rw [hfeed]
      rfl
    rw [hahead, ahead, inFlight_of_holding hholding, List.length_cons]
    omega

/-- **A step in a call** answers it or is one less to do. -/
theorem Live.ahead_lt (h : w.Live names) (hbusy : w.consumer ≠ .idle) (hstep : ScanStep w w')
    (hhanded : w'.handed <+: blocks) : w'.consumer = .idle ∨ w'.ahead blocks < w.ahead blocks := by
  cases hstep with
  | @hand b f hproducer hstep =>
    rw [Feed.step?, hproducer] at hstep
    cases hstep
    refine .inr (ahead_produce hhanded ?_)
    rw [Feed.offerBlock_of_open h.receiver]
    split <;> simp [Queue.push, hproducer, Producer.waitingItems, producerAhead] <;> omega
  | stop hproducer hstep =>
    rw [Feed.step?, hproducer] at hstep
    cases hstep
    refine .inr (ahead_produce_nothing hhanded ?_)
    simp [Feed.endStream, hproducer, Producer.waitingItems, producerAhead]
  | proceed hstep => exact .inr (h.ahead_proceed hstep hhanded)
  | send hproducer => exact .inr (ahead_send hproducer hhanded)
  | breakOff hproducer hoff => simp [h.uncancelled, h.receiver] at hoff
  | prepare hidle => exact absurd hidle hbusy
  | prepareFails hidle => exact absurd hidle hbusy
  | firstNext hidle => exact absurd hidle hbusy
  | firstNextFails => exact .inl rfl
  | advance => exact .inl rfl
  | fetch hidle => exact absurd hidle hbusy
  | refuse => exact .inl rfl
  | noMore => exact .inl rfl
  | take hfetching htake => exact .inr (h.ahead_take hfetching htake)
  | answer => exact .inl rfl
  | goOn hholding haccept => exact .inr (ahead_goOn hholding haccept)
  | close hidle => exact absurd hidle hbusy
  | cancel hclosing => exact absurd hclosing h.not_closing.1
  | drain hdraining => exact absurd hdraining h.not_closing.2
  | closed hdraining => exact absurd hdraining h.not_closing.2

/-! ### Runs -/

/-- A reader is not closed in a call for a row. -/
theorem opened_of_busy (hopen : .close ∉ w.log) (hbusy : w.consumer ≠ .idle)
    (hstep : ScanStep w w') : .close ∉ w'.log := by
  have hanswered : ∀ {answer : Except ScanError Bool} {r : Reader},
      .close ∉ (w.answered answer r).log := by
    intro answer r hclose
    rcases List.mem_append.mp hclose with hclose | hclose
    · exact hopen hclose
    · cases List.mem_singleton.mp hclose
  cases hstep with
  | answer => exact hanswered
  | firstNextFails => exact hanswered
  | advance => exact hanswered
  | refuse => exact hanswered
  | noMore => exact hanswered
  | close hidle => exact absurd hidle hbusy
  | _ => exact hopen

/-- **Calls are answered in every interleaving**, if the queue takes an item at all and a reader
that is in a call has lost nothing. -/
theorem inevitablyAnswered {timeoutSeconds : Word .u64} (hdepth : 0 < shard.plan.queueDepth.val)
    (hlive : ∀ w, ScanRun (start shard timeoutSeconds) w → .close ∉ w.log → w.Streams blocks →
      w.consumer = .idle ∨ w.Live shard.plan.outColumns)
    (hrun : ScanRun (start shard timeoutSeconds) w) (hopen : .close ∉ w.log)
    (hstream : w.Streams blocks) : InevitablyAnswered blocks w := by
  induction hahead : w.ahead blocks using Nat.strongRecOn generalizing w with
  | ind n ih =>
    rcases hlive w hrun hopen hstream with hidle | h
    · exact .answered hidle
    · by_cases hbusy : w.consumer = .idle
      · exact .answered hbusy
      · have hcapacity : 0 < w.feed.queue.capacity := by
          rw [capacity_run hrun]
          show 0 < shard.plan.queueDepth.val.toNat
          omega
        refine .later (h.exists_step (tells_run hrun) hbusy hcapacity hstream) ?_
        intro w' hstep hstream'
        rcases h.ahead_lt hbusy hstep hstream'.handed with hidle | hlt
        · exact .answered hidle
        · exact ih _ (hahead ▸ hlt) (hrun.tail hstep) (opened_of_busy hopen hbusy hstep) hstream' rfl

end ScanWorld
end ShardScan
