import ShardScan.Proofs.Scan.Failures
import ShardScan.Proofs.Scan.Schedule

/-!
# Streams that fail

A stream that fails takes rows with it.  The reader looks at the latch before it
takes items, so the blocks that are queued when the failure is known are not
read any more, and how many these are is a matter of timing.  What the caller
sees before the failure is nevertheless whole: the rows of the blocks that were
loaded by then, which are the first ones that the stream handed over, and
nothing of the others.  A block once loaded is delivered to its last row, so a
reader that has loaded all blocks in time delivers all rows.

## Main definitions

* `ScanWorld.loaded` — the blocks that the reader has taken over from the stream.
* `ScanWorld.Conveys` — blocks are handed over at one end and loaded at the other.
* `ScanWorld.Moves` — one step does one of the two.

## Main results

* `ScanWorld.Live.moves_step` — what a step of an open reader does to the blocks in flight.
* `rows_before_failure` — the rows in front of a failure, over all interleavings.
-/

namespace ShardScan

/-- The block that an item carries. -/
def QueueItem.block? : QueueItem → Option Block
  | .block b => some b
  | .endOfScan => none

theorem QueueItem.flatMap_rows (items : List QueueItem) (names : List String) :
    items.flatMap (rows names) = (items.filterMap block?).flatMap (·.projected names) := by
  induction items with
  | nil => rfl
  | cons item items ih =>
    cases item with
    | block b =>
      have hblock : block? (.block b) = some b := rfl
      rw [List.flatMap_cons, ih, List.filterMap_cons_some hblock, List.flatMap_cons, rows]
    | endOfScan => rw [List.flatMap_cons, ih, List.filterMap_cons_none rfl, rows, List.nil_append]

namespace ScanWorld

/-- The blocks between the stream and the current block, the oldest first. -/
def blocksInFlight (w : ScanWorld) : List Block := w.inFlight.filterMap QueueItem.block?

/-- The blocks that have been the current one, the oldest first: all that were handed over but those
in flight. -/
def loaded (w : ScanWorld) : List Block :=
  w.handed.take (w.handed.length - w.blocksInFlight.length)

/-- From one moment to another some blocks are handed over, and some are loaded, the oldest in flight
first. -/
def Conveys (w w' : ScanWorld) : Prop :=
  ∃ loaded added, w'.handed = w.handed ++ added ∧
    w.blocksInFlight ++ added = loaded ++ w'.blocksInFlight

variable {w w' w'' : ScanWorld} {names : List String}

theorem Conveys.trans (h : w.Conveys w') (h' : w'.Conveys w'') : w.Conveys w'' := by
  obtain ⟨loaded, added, hhanded, hflight⟩ := h
  obtain ⟨loaded', added', hhanded', hflight'⟩ := h'
  refine ⟨loaded ++ loaded', added ++ added', ?_, ?_⟩
  · rw [hhanded', hhanded, List.append_assoc]
  · rw [← List.append_assoc, hflight, List.append_assoc, hflight', List.append_assoc]

/-- What was handed over has been loaded or is in flight. -/
theorem Conveys.handed_eq {shard : Shard} {timeoutSeconds : Word .u64}
    (h : (start shard timeoutSeconds).Conveys w) : w.handed = w.loaded ++ w.blocksInFlight := by
  obtain ⟨loaded, added, hhanded, hflight⟩ := h
  have hall : w.handed = loaded ++ w.blocksInFlight := hhanded.trans hflight
  have hloaded : w.loaded = loaded := by simp [ScanWorld.loaded, hall]
  rw [hloaded, hall]

/-- What has been loaded stays so. -/
theorem Conveys.loaded_begins (h : w.Conveys w') (hw : w.handed = w.loaded ++ w.blocksInFlight)
    (hw' : w'.handed = w'.loaded ++ w'.blocksInFlight) : w.loaded <+: w'.loaded := by
  obtain ⟨loaded, added, hhanded, hflight⟩ := h
  refine ⟨loaded, ?_⟩
  rw [hhanded, hw, List.append_assoc, hflight, ← List.append_assoc] at hw'
  exact List.append_cancel_right hw'

/-! ### Steps of an open reader -/

/-- What one step does to the blocks in flight: some are handed over, or the one in hands is
loaded. -/
inductive Moves (w w' : ScanWorld) : Prop
  | puts (added : List Block) (hhanded : w'.handed = w.handed ++ added)
    (hflight : w'.blocksInFlight = w.blocksInFlight ++ added)
  | loads {b : Block} (hholding : w.consumer = .holding (some (.block b)))
    (hleft : w'.consumer ≠ w.consumer) (hhanded : w'.handed = w.handed)
    (hflight : w.blocksInFlight = b :: w'.blocksInFlight)

theorem moves_of_eq (hhanded : w'.handed = w.handed)
    (hflight : w'.blocksInFlight = w.blocksInFlight) : w.Moves w' :=
  .puts [] (by rw [hhanded, List.append_nil]) (by rw [hflight, List.append_nil])

theorem Moves.conveys (h : w.Moves w') : w.Conveys w' := by
  cases h with
  | puts added hhanded hflight => exact ⟨[], added, hhanded, hflight.symm⟩
  | @loads b _ _ hhanded hflight =>
    refine ⟨[b], [], by rw [hhanded, List.append_nil], ?_⟩
    rw [hflight, List.append_nil]
    rfl

/-- What the producer does puts blocks in flight as they are handed over. -/
theorem moves_produce {f : Feed} {added : List Block} {status : Option Status}
    (houtbound : (f.queue.items ++ f.producer.waitingItems).filterMap QueueItem.block? =
      (w.feed.queue.items ++ w.feed.producer.waitingItems).filterMap QueueItem.block? ++ added) :
    w.Moves { w.withFeed f with handed := w.handed ++ added, status := status } := by
  refine .puts added rfl ?_
  show List.filterMap _ (w.consumer.heldItems ++ (f.queue.items ++ f.producer.waitingItems)) = _
  rw [List.filterMap_append, houtbound, ← List.append_assoc, ← List.filterMap_append]
  rfl

/-- The same without another block. -/
theorem moves_produce_nothing {f : Feed} {status : Option Status}
    (houtbound : (f.queue.items ++ f.producer.waitingItems).filterMap QueueItem.block? =
      (w.feed.queue.items ++ w.feed.producer.waitingItems).filterMap QueueItem.block?) :
    w.Moves { w.withFeed f with status := status } := by
  have hmoves : w.Moves { w.withFeed f with handed := w.handed ++ [], status := status } :=
    moves_produce (houtbound.trans (List.append_nil _).symm)
  rwa [List.append_nil] at hmoves

theorem moves_send {item : QueueItem} (hproducer : w.feed.producer = .waiting item) :
    w.Moves (w.withFeed (w.feed.enqueue item)) := by
  refine moves_produce_nothing ?_
  cases item <;>
    simp [Feed.enqueue, Feed.exit, Queue.push, Queue.closeSender, hproducer, Producer.waitingItems]

theorem Live.moves_hand (h : w.Live names) {b : Block} {f : Feed}
    (hproducer : w.feed.producer = .streaming) (hstep : w.feed.step? (.delivers b) = some f) :
    w.Moves { w.withFeed f with handed := w.handed ++ [b] } := by
  rw [Feed.step?, hproducer] at hstep
  cases hstep
  refine moves_produce ?_
  rw [Feed.offerBlock_of_open h.receiver]
  split <;> simp [Queue.push, hproducer, Producer.waitingItems, QueueItem.block?]

theorem Live.moves_proceed (h : w.Live names) {f : Feed} (hstep : w.feed.step? .waits = some f) :
    w.Moves (w.withFeed f) := by
  unfold Feed.step? at hstep
  split at hstep
  · cases hstep
  · cases hstep
  · cases hstep
  · next item hproducer =>
    rw [if_neg (by simp [h.uncancelled, h.receiver])] at hstep
    split at hstep
    · cases hstep
    · cases hstep
      exact moves_send hproducer
  · next s hproducer =>
    cases hstep
    refine moves_produce_nothing ?_
    simp [w.feed.queue_record, hproducer, Producer.waitingItems]
  · next hproducer =>
    cases hstep
    refine moves_produce_nothing ?_
    rw [Feed.offerMarker_of_open h.receiver]
    split <;>
      simp [Feed.exit, Queue.push, Queue.closeSender, hproducer, Producer.waitingItems,
        QueueItem.block?]

/-- A reader that begins to scan has nothing in flight. -/
theorem Live.moves_opening (h : w.Live names) (hstate : w.reader.state = .created)
    (hidle : w.consumer = .idle) (scan : OpenScan) {consumer : Consumer}
    (hconsumer : consumer.heldItems = []) :
    w.Moves { w with reader := w.reader.opened scan, consumer := consumer } := by
  obtain ⟨hproducer, -, -⟩ := h.stage.of_created hstate
  refine moves_of_eq rfl ?_
  rw [blocksInFlight, inFlight, hconsumer, blocksInFlight, inFlight, hidle, hproducer]
  rfl

/-- Taking an item hands no block over and loads none. -/
theorem Live.moves_take (h : w.Live names) (hfetching : w.consumer = .fetching)
    {item : Option QueueItem} {queue : Queue} (htake : w.feed.queue.take = some (item, queue)) :
    w.Moves { w.withFeed { w.feed with queue := queue } with consumer := .holding item } := by
  obtain ⟨i, rfl⟩ := h.exists_of_take hfetching htake
  exact moves_of_eq rfl (congrArg (List.filterMap QueueItem.block?) (inFlight_take hfetching htake))

/-- A block in hands is loaded; the marker goes. -/
theorem moves_accept {item : QueueItem} (hholding : w.consumer = .holding (some item))
    {r : Reader} {consumer : Consumer} {log : List Call} (hconsumer : consumer.heldItems = [])
    (hqueue : r.feed.queue = w.feed.queue) (hproducer : r.feed.producer = w.feed.producer) :
    w.Moves ⟨r, consumer, w.handed, w.status, log⟩ := by
  have hrest : blocksInFlight ⟨r, consumer, w.handed, w.status, log⟩ =
      (w.feed.queue.items ++ w.feed.producer.waitingItems).filterMap QueueItem.block? := by
    rw [blocksInFlight, inFlight, hconsumer]
    show List.filterMap _ ([] ++ (r.feed.queue.items ++ r.feed.producer.waitingItems)) = _
    rw [hqueue, hproducer, List.nil_append]
  have hflight : w.blocksInFlight = [item].filterMap QueueItem.block? ++
      (w.feed.queue.items ++ w.feed.producer.waitingItems).filterMap QueueItem.block? := by
    rw [blocksInFlight, inFlight_of_holding hholding, ← List.filterMap_append]
    rfl
  cases item with
  | block b =>
    refine .loads hholding ?_ rfl (hrest ▸ hflight)
    rintro rfl
    rw [hholding] at hconsumer
    cases hconsumer
  | endOfScan => exact moves_of_eq rfl (hrest.trans hflight.symm)

/-- **A step of a reader that stays open** hands blocks over or loads the one in hands. -/
theorem Live.moves_step (h : w.Live names) (hstep : ScanStep w w') (hopen : .close ∉ w'.log)
    (hloads : w.Loads w' names) : w.Moves w' := by
  have hsame : ∀ {r : Reader} {consumer : Consumer} {log : List Call},
      consumer.heldItems = w.consumer.heldItems → r.feed.queue = w.feed.queue →
      r.feed.producer = w.feed.producer → w.Moves ⟨r, consumer, w.handed, w.status, log⟩ := by
    intro r consumer log hheld hqueue hproducer
    refine moves_of_eq rfl ?_
    show List.filterMap _
      (consumer.heldItems ++ (r.feed.queue.items ++ r.feed.producer.waitingItems)) = _
    rw [hheld, hqueue, hproducer]
    rfl
  cases hstep with
  | hand hproducer hstep => exact h.moves_hand hproducer hstep
  | stop hproducer hstep =>
    rw [Feed.step?, hproducer] at hstep
    cases hstep
    refine moves_produce_nothing ?_
    simp [Feed.endStream, hproducer, Producer.waitingItems]
  | proceed hstep => exact h.moves_proceed hstep
  | send hproducer => exact moves_send hproducer
  | breakOff hproducer hoff => simp [h.uncancelled, h.receiver] at hoff
  | prepare hidle hstate => exact h.moves_opening hstate hidle _ (by rw [hidle]; rfl)
  | prepareFails => exact hsame rfl (w.feed.queue_latch _) (w.feed.producer_latch _)
  | firstNext hidle hrow hstate => exact h.moves_opening hstate hidle _ rfl
  | firstNextFails hidle =>
    exact hsame (by rw [hidle]) (w.feed.queue_latch _) (w.feed.producer_latch _)
  | advance hidle hrow =>
    obtain ⟨cursor, rfl⟩ := Reader.eq_of_advance? hrow
    exact hsame (by rw [hidle]) rfl rfl
  | fetch hidle => exact hsame (by rw [hidle]; rfl) rfl rfl
  | refuse hidle => exact hsame (by rw [hidle]) rfl rfl
  | noMore hidle => exact hsame (by rw [hidle]) rfl rfl
  | take hfetching htake => exact h.moves_take hfetching htake
  | answer hholding haccept =>
    rcases h.held hholding (hloads.conforms hholding (by simp [ScanWorld.answered])) with
      ⟨b, rfl, positions, hb, hpositions⟩ | rfl
    · rw [Reader.accept_block (h.columns ▸ hpositions)] at haccept
      split at haccept
      · next hrow =>
        cases haccept
        obtain ⟨cursor, rfl⟩ := Reader.eq_of_advance? hrow
        exact moves_accept hholding rfl rfl rfl
      · cases haccept
    · rw [Reader.accept_endOfScan] at haccept
      split at haccept
      · cases haccept
        exact moves_accept hholding rfl rfl rfl
      · cases haccept
        exact moves_accept hholding rfl w.feed.queue_finish w.feed.producer_finish
  | goOn hholding haccept =>
    rcases h.held hholding (hloads.conforms hholding (by simp)) with
      ⟨b, rfl, positions, hb, hpositions⟩ | rfl
    · rw [Reader.accept_block (h.columns ▸ hpositions)] at haccept
      split at haccept
      · cases haccept
      · cases haccept
        exact moves_accept hholding rfl rfl rfl
    · rw [Reader.accept_endOfScan] at haccept
      split at haccept <;> cases haccept
  | close => exact absurd (List.mem_append_right _ List.mem_cons_self) hopen
  | cancel hclosing => exact absurd hclosing h.not_closing.1
  | drain hdraining => exact absurd hdraining h.not_closing.2
  | closed hdraining => exact absurd hdraining h.not_closing.2

/-! ### Runs -/

/-- Steps do not take back what was answered. -/
theorem log_step (h : ScanStep w w') : w.log <+: w'.log := by
  cases h with
  | firstNextFails => exact List.prefix_append _ _
  | advance => exact List.prefix_append _ _
  | refuse => exact List.prefix_append _ _
  | noMore => exact List.prefix_append _ _
  | answer => exact List.prefix_append _ _
  | close => exact List.prefix_append _ _
  | _ => exact List.prefix_rfl

theorem log_run (h : ScanRun w w') : w.log <+: w'.log := by
  induction h with
  | refl => exact List.prefix_rfl
  | tail _ hstep ih => exact ih.trans (log_step hstep)

/-- A reader that was not closed is live. -/
theorem live_run {shard : Shard} {timeoutSeconds : Word .u64}
    (hrun : ScanRun (start shard timeoutSeconds) w) (hopen : .close ∉ w.log)
    (hconforms : ∀ b ∈ w.handed, b.Conforms shard.plan.outColumns) :
    w.Live shard.plan.outColumns :=
  (live_or_closed_run hrun hconforms).resolve_right fun hclosed => hopen hclosed.closed

/-- Between two moments of an open reader blocks are conveyed. -/
theorem conveys_run {shard : Shard} {timeoutSeconds : Word .u64}
    (hrun : ScanRun (start shard timeoutSeconds) w) (hrun' : ScanRun w w')
    (hopen : .close ∉ w'.log) (hconforms : ∀ b ∈ w'.handed, b.Conforms shard.plan.outColumns) :
    w.Conveys w' := by
  induction hrun' with
  | refl => exact (moves_of_eq rfl rfl).conveys
  | tail hbefore hstep ih =>
    have hopen' := fun hclose => hopen ((log_step hstep).subset hclose)
    have hconforms' := fun b hb => hconforms b ((handed_step hstep).subset hb)
    have hlive := live_run (hrun.trans hbefore) hopen' hconforms'
    have hmoves := hlive.moves_step hstep hopen (hlive.loads hconforms' _)
    exact (ih hopen' hconforms').trans hmoves.conveys

/-- The rows of a reader without a pending one are those of the blocks that were loaded. -/
theorem Live.rows_eq (h : w.Live names) (hpending : w.reader.pending names = [])
    (hhanded : w.handed = w.loaded ++ w.blocksInFlight) :
    w.rows = (w.loaded.flatMap (·.projected names)).map .ok := by
  obtain ⟨delivered, hdelivered, hflow⟩ := h.flow
  rw [hpending, List.nil_append, QueueItem.flatMap_rows, handedRows, hhanded,
    List.flatMap_append] at hflow
  rw [hdelivered, ← List.append_cancel_right hflow]

/-- A reader whose stream has failed does not say that there are no more rows. -/
theorem Live.not_ended (h : w.Live names) {s : Status} (hstatus : w.status = some s)
    (hs : s.isHarmless = false) (row : Except ScanError (List Scalar)) :
    .next (.ok false) row ∉ w.log := by
  intro hrow
  obtain ⟨before, after, hlog⟩ := List.append_of_mem hrow
  have hends : w.EndsOpen := by
    refine ⟨before, row, after, hlog, fun hclose => h.opened ?_⟩
    rw [hlog]
    exact List.mem_append_left _ hclose
  obtain ⟨s', hstatus', hs'⟩ := (h.complete hends).status
  cases hstatus.symm.trans hstatus'
  cases hs.symm.trans hs'

end ScanWorld

/-- **The rows in front of a failure**, over all interleavings, for a stream whose blocks have the
columns of the reader and which ends with a status that is neither a success nor a cancellation.
A reader that is not closed never answers that there are no more rows, and every failure that it
reports is that of the stream.  The rows it has delivered by then are all rows of the blocks it has
loaded, which are the first ones handed over.  What it has loaded at any earlier moment is among
these; so if it had loaded every block at some moment, it delivers every row. -/
theorem rows_before_failure (shard : Shard) (timeoutSeconds : Word .u64) (w : ScanWorld)
    (s : Status) (hrun : ScanRun (.start shard timeoutSeconds) w) (hopen : .close ∉ w.log)
    (hconforms : ∀ b ∈ w.handed, b.Conforms shard.plan.outColumns) (hstatus : w.status = some s)
    (hsuccess : s.isSuccess = false) (hcancelled : s.isCancelled = false) :
    (∀ row, .next (.ok false) row ∉ w.log) ∧
      (∀ e ∈ w.errors, e = .failed shard.plan.tablePath shard.effectiveRange s) ∧
      w.handed = w.loaded ++ w.blocksInFlight ∧
      (w.errors ≠ [] →
        w.rows = (w.loaded.flatMap (·.projected shard.plan.outColumns)).map .ok) ∧
      ∀ w₁, ScanRun (.start shard timeoutSeconds) w₁ → ScanRun w₁ w →
        w₁.loaded <+: w.loaded ∧
          (w₁.loaded = w.handed → w.errors ≠ [] →
            w.rows = (w.handedRows shard.plan.outColumns).map .ok) := by
  have hs : s.isHarmless = false := by simp [Status.isHarmless, hsuccess, hcancelled]
  have hlive := ScanWorld.live_run hrun hopen hconforms
  have htells := ScanWorld.tells_run hrun
  have hfits : ∀ e, ¬ w.Drifted shard e := by
    rintro e ⟨b, hb, drift, hdrift, -⟩
    cases hdrift.symm.trans (Block.positions_eq_ok (hconforms b hb))
  have hhanded : ∀ {w₁}, ScanRun (.start shard timeoutSeconds) w₁ → ScanRun w₁ w →
      w₁.handed = w₁.loaded ++ w₁.blocksInFlight := by
    intro w₁ hrun₁ hrun'
    have hopen₁ : .close ∉ w₁.log := fun hclose => hopen ((ScanWorld.log_run hrun').subset hclose)
    obtain ⟨-, added, hadded, -⟩ := ScanWorld.conveys_run hrun₁ hrun' hopen hconforms
    have hconforms₁ : ∀ b ∈ w₁.handed, b.Conforms shard.plan.outColumns := by
      intro b hb
      exact hconforms b (by rw [hadded]; exact List.mem_append_left _ hb)
    exact (ScanWorld.conveys_run (.refl _) hrun₁ hopen₁ hconforms₁).handed_eq
  have hall := hhanded hrun (.refl w)
  have hrows : w.errors ≠ [] →
      w.rows = (w.loaded.flatMap (·.projected shard.plan.outColumns)).map .ok :=
    fun hne => hlive.rows_eq (htells.reported.exhausted hne) hall
  refine ⟨hlive.not_ended hstatus hs, fun e he => ?_, hall, hrows, fun w₁ hrun₁ hrun' => ?_⟩
  · have hissue := htells.reported.latched (fun e _ => hfits e) e he
    cases htells.cause e hissue with
    | setup _ _ hnone => cases hnone.symm.trans hstatus
    | stream hstatus' _ =>
      cases hstatus'.symm.trans hstatus
      rfl
    | drift hdrifted => exact absurd hdrifted (hfits e)
  · have hbegins := (ScanWorld.conveys_run hrun₁ hrun' hopen hconforms).loaded_begins
      (hhanded hrun₁ hrun') hall
    refine ⟨hbegins, fun hloaded hne => ?_⟩
    have hnone : w.loaded = w.handed := by
      refine List.IsPrefix.eq_of_length_le ?_ ?_
      · exact ⟨_, hall.symm⟩
      · rw [← hloaded]
        exact hbegins.length_le
    rw [hrows hne, hnone]
    rfl

/-- The stream fails when its only block is the current one, and both rows of it are delivered. -/
theorem rows_before_failure_album :
    ∃ w, ScanRun (.start albumShard 60) w ∧ w.errors = [albumFailure] ∧
      w.rows = [.ok [.int .int32 3, .utf8 "Blue"], .ok [.null, .utf8 "Hejira"]] := by
  have hrun : ∃ w₁ w e, ScanRun (.start albumShard 60) w₁ ∧ ScanRun w₁ w ∧
      w₁.loaded = [albumBlock] ∧ w.handed = [albumBlock] ∧ w.status = some overloaded ∧
      w.log = [.next (.ok true) (.ok [.int .int32 3, .utf8 "Blue"]),
        .next (.ok true) (.ok [.null, .utf8 "Hejira"]),
        .next (.error e) (.ok [.null, .utf8 "Hejira"])] :=
    ⟨_, _, _, ScanRun.refl _
      |>.tail (@ScanStep.firstNext _ ⟨1, 0⟩ rfl rfl rfl)
      |>.tail (@ScanStep.hand _ albumBlock _ rfl rfl)
      |>.tail (.take rfl rfl)
      |>.tail (.answer rfl rfl),
      ScanRun.refl _
      |>.tail (@ScanStep.stop _ overloaded _ rfl rfl)
      |>.tail (.proceed rfl)
      |>.tail (.advance rfl rfl)
      |>.tail (.refuse rfl rfl rfl), rfl, rfl, rfl, rfl⟩
  obtain ⟨w₁, w, e, hrun₁, hrun', hloaded, hhanded, hstatus, hlog⟩ := hrun
  have hconforms : ∀ b ∈ w.handed, b.Conforms albumShard.plan.outColumns := by
    intro b hb
    rw [hhanded, List.mem_singleton] at hb
    rw [hb]
    exact ⟨.swap _ _ _, by decide⟩
  obtain ⟨-, hfailure, -, -, hmoment⟩ := rows_before_failure albumShard 60 w overloaded
    (hrun₁.trans hrun') (by simp [hlog]) hconforms hstatus rfl rfl
  have herrors : w.errors = [e] := by simp [ScanWorld.errors, hlog]
  have he : e = albumFailure := hfailure e (by rw [herrors]; exact List.mem_singleton.mpr rfl)
  refine ⟨w, hrun₁.trans hrun', by rw [herrors, he], ?_⟩
  rw [(hmoment w₁ hrun₁ hrun').2 (by rw [hloaded, hhanded]) (by simp [herrors]),
    ScanWorld.handedRows, hhanded]
  rfl

/-- The stream fails before the first call for a row, and its block is lost. -/
theorem queued_rows_lost :
    ∃ w, ScanRun (.start albumShard 60) w ∧ w.handed = [albumBlock] ∧
      w.status = some overloaded ∧ w.errors = [albumFailure] ∧ w.rows = [] ∧
      w.rows ≠ (w.handedRows albumShard.plan.outColumns).map .ok :=
  ⟨_, ScanRun.refl _
    |>.tail (@ScanStep.prepare _ ⟨1, 0⟩ rfl rfl)
    |>.tail (@ScanStep.hand _ albumBlock _ rfl rfl)
    |>.tail (@ScanStep.stop _ overloaded _ rfl rfl)
    |>.tail (.proceed rfl)
    |>.tail (.refuse rfl rfl rfl), rfl, rfl, rfl, rfl, fun h => by cases h⟩

end ShardScan
