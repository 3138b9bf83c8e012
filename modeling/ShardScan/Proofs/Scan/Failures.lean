import ShardScan.Proofs.Scan.Delivery
import ShardScan.Proofs.Scan.Latch

/-!
# The failures that a reader reports

The first failure of a scan is latched, and a reader that has failed answers
every call for a row with it.  One call may answer otherwise.  A call that takes
items looks at the latch before it begins and when it meets the marker, but not
when it takes a block: if the stream fails while the call waits, and the block
that it then takes has other columns than the reader, the call reports the
block.  That is the first failure that the caller sees, and all behind it are
the latched one.

## Main definitions

* `ScanWorld.errors` — the failures that calls were answered with.
* `ScanWorld.Cause` — where a failure comes from.
* `ScanWorld.Tells` — what holds of the latch and of the failures reported so far.

## Main results

* `ScanWorld.tells_step` — every step keeps what holds of the failures.
* `reported_failures` — which failures a reader reports, over all interleavings.
-/

namespace ShardScan

/-! ### What a reader reports -/

namespace ScanWorld

/-- The failures that calls for a row were answered with, the oldest first. -/
def errors (w : ScanWorld) : List ScanError :=
  w.log.filterMap fun
    | .next (.error e) _ => some e
    | _ => none

@[simp] theorem errors_answered (w : ScanWorld) (answer : Except ScanError Bool) (r : Reader) :
    (w.answered answer r).errors =
      w.errors ++ match answer with
        | .error e => [e]
        | .ok _ => [] := by
  unfold errors answered
  rw [List.filterMap_append]
  congr 1
  cases answer <;> rfl

/-- A block that was handed over has other columns than the reader, and this is the failure. -/
def Drifted (w : ScanWorld) (shard : Shard) (e : ScanError) : Prop :=
  ∃ b ∈ w.handed, ∃ drift, b.positions shard.plan.outColumns = .error drift ∧
    e = .schemaDrift shard.plan.tablePath drift

/-- Where a failure comes from. -/
inductive Cause (w : ScanWorld) (shard : Shard) : ScanError → Prop
  /-- The scan could not be set up, so it has no stream. -/
  | setup (cause : StoreError) (hproducer : w.feed.producer = .idle) (hstatus : w.status = none) :
    Cause w shard (.setup shard.plan.tablePath cause)
  /-- The stream ended with a status that fails the scan. -/
  | stream {s : Status} (hstatus : w.status = some s) (hs : s.isHarmless = false) :
    Cause w shard (.failed shard.plan.tablePath shard.effectiveRange s)
  | drift {e : ScanError} (h : w.Drifted shard e) : Cause w shard e

/-- The stream has failed, and that is the failure that is kept. -/
def StreamFailed (w : ScanWorld) : Prop :=
  ∃ table range s, w.feed.issue = some (.failed table range s)

/-- What is known at each place of a call.  Until an item is taken one can come, and until a call is
answered nothing was reported and nothing but the stream can have failed. -/
def AtPlace (w : ScanWorld) : Consumer → Prop
  | .idle => w.feed.state = .created ∨ w.feed.state = .prepared → w.feed.Ready
  | .fetching => w.feed.Ready ∧ w.errors = [] ∧ (w.feed.issue ≠ none → w.StreamFailed)
  | .holding (some (.block _)) =>
    w.feed.Ready ∧ w.errors = [] ∧ (w.feed.issue ≠ none → w.StreamFailed)
  | .holding (some .endOfScan) => w.errors = []
  | .holding none => False
  | .closing => w.feed.state = .finished ∨ w.feed.state = .failed
  | .draining => w.feed.state = .finished ∨ w.feed.state = .failed

/-- Every failure that was reported is the one that is kept; the first may also be that of a block,
if the failure of the stream was kept before it.  A reader that reported one has no row left. -/
structure Reported (w : ScanWorld) (shard : Shard) : Prop where
  first : ∀ e ∈ w.errors.head?, w.feed.issue = some e ∨ w.StreamFailed ∧ w.Drifted shard e
  others : ∀ e ∈ w.errors.tail, w.feed.issue = some e
  exhausted : w.errors ≠ [] → w.reader.pending shard.plan.outColumns = []

/-- What holds of the latch and of the failures reported so far. -/
structure Tells (w : ScanWorld) (shard : Shard) : Prop where
  reads : w.reader.shard = shard
  table : w.feed.table = shard.plan.tablePath
  range : w.feed.range = shard.effectiveRange
  agrees : w.feed.Agrees w.status
  carried : ∀ b, .block b ∈ w.inFlight → b ∈ w.handed
  cause : ∀ e ∈ w.feed.issue, w.Cause shard e
  place : w.AtPlace w.consumer
  reported : w.Reported shard

variable {w w' : ScanWorld} {shard : Shard} {e : ScanError}

theorem Drifted.mono (h : w.Drifted shard e) (hhanded : ∀ b ∈ w.handed, b ∈ w'.handed) :
    w'.Drifted shard e := by
  obtain ⟨b, hb, hdrift⟩ := h
  exact ⟨b, hhanded b hb, hdrift⟩

/-- As long as the producer has not begun, no stream has ended. -/
theorem Cause.mono (h : w.Cause shard e) (hhanded : ∀ b ∈ w.handed, b ∈ w'.handed)
    (hstatus : ∀ s, w.status = some s → w'.status = some s)
    (hproducer : w.feed.producer = .idle → w'.feed.producer = .idle ∧ w'.status = w.status) :
    w'.Cause shard e := by
  cases h with
  | setup cause hidle hnone =>
    obtain ⟨hidle', hstatus'⟩ := hproducer hidle
    exact .setup cause hidle' (hstatus'.trans hnone)
  | stream hs hharmful => exact .stream (hstatus _ hs) hharmful
  | drift hdrift => exact .drift (hdrift.mono hhanded)

theorem Cause.of_failed {table : String} {range : KeyRange} {s : Status}
    (h : w.Cause shard (.failed table range s)) :
    table = shard.plan.tablePath ∧ range = shard.effectiveRange ∧ w.status = some s ∧
      s.isHarmless = false := by
  cases h with
  | stream hstatus hs => exact ⟨rfl, rfl, hstatus, hs⟩
  | drift hdrifted =>
    obtain ⟨b, -, drift, -, heq⟩ := hdrifted
    cases heq

/-- A reader that has reported a failure has failed. -/
theorem Reported.errors_eq_nil (h : w.Reported shard) (hissue : w.feed.issue = none) :
    w.errors = [] := by
  cases herrors : w.errors with
  | nil => rfl
  | cons e rest =>
    rcases h.first e (by rw [herrors]; rfl) with hfirst | ⟨⟨table, range, s, hfailed⟩, -⟩
    · rw [hissue] at hfirst
      cases hfirst
    · rw [hissue] at hfailed
      cases hfailed

/-- Without such a block every failure that was reported is the one that is kept. -/
theorem Reported.latched (h : w.Reported shard)
    (hnone : ∀ e, w.StreamFailed → ¬ w.Drifted shard e) : ∀ e ∈ w.errors, w.feed.issue = some e := by
  intro e he
  cases herrors : w.errors with
  | nil =>
    rw [herrors] at he
    cases he
  | cons first rest =>
    rw [herrors] at he
    rcases List.mem_cons.mp he with rfl | he
    · refine (h.first e (by rw [herrors]; rfl)).resolve_right ?_
      exact fun hdrifted => hnone e hdrifted.1 hdrifted.2
    · exact h.others e (by rw [herrors]; exact he)

theorem Reported.congr (h : w.Reported shard) (herrors : w'.errors = w.errors)
    (hissue : ∀ e, w.feed.issue = some e → w'.feed.issue = some e)
    (hhanded : ∀ b ∈ w.handed, b ∈ w'.handed)
    (hover : w.errors ≠ [] → w.reader.pending shard.plan.outColumns = [] →
      w'.reader.pending shard.plan.outColumns = []) :
    w'.Reported shard where
  first e he := by
    rw [herrors] at he
    rcases h.first e he with hfirst | ⟨⟨table, range, s, hfailed⟩, hdrift⟩
    · exact .inl (hissue e hfirst)
    · exact .inr ⟨⟨table, range, s, hissue _ hfailed⟩, hdrift.mono hhanded⟩
  others e he := by
    rw [herrors] at he
    exact hissue e (h.others e he)
  exhausted hne := by
    rw [herrors] at hne
    exact hover hne (h.exhausted hne)

/-- A call is answered with the failure that is kept. -/
theorem Reported.issue (h : w.Reported shard) (hissue : w.feed.issue = some e)
    (hfeed : w'.feed.issue = w.feed.issue) (herrors : w'.errors = w.errors ++ [e])
    (hhanded : ∀ b ∈ w.handed, b ∈ w'.handed)
    (hover : w'.reader.pending shard.plan.outColumns = []) :
    w'.Reported shard := by
  cases hbefore : w.errors with
  | nil =>
    rw [hbefore, List.nil_append] at herrors
    refine ⟨fun e' he' => .inl ?_, fun e' he' => ?_, fun _ => hover⟩
    · rw [herrors] at he'
      cases he'
      rw [hfeed, hissue]
    · rw [herrors] at he'
      cases he'
  | cons first rest =>
    have hhead : w'.errors.head? = w.errors.head? := by
      rw [herrors, hbefore]
      rfl
    have htail : w'.errors.tail = w.errors.tail ++ [e] := by
      rw [herrors, hbefore]
      rfl
    refine ⟨fun e' he' => ?_, fun e' he' => ?_, fun _ => hover⟩
    · rw [hhead] at he'
      rcases h.first e' he' with hfirst | ⟨⟨table, range, s, hfailed⟩, hdrift⟩
      · exact .inl (hfeed.trans hfirst)
      · exact .inr ⟨⟨table, range, s, hfeed.trans hfailed⟩, hdrift.mono hhanded⟩
    · rw [htail, List.mem_append] at he'
      rcases he' with he' | he'
      · exact hfeed.trans (h.others e' he')
      · rw [List.mem_singleton.mp he', hfeed, hissue]

/-! ### Steps of the producer -/

/-- **The producer keeps what holds of the failures.** -/
theorem Tells.produce (h : w.Tells shard) {f : Feed} {blocks : List Block}
    {ended : Option Status} (hproduces : w.feed.Produces blocks ended f) :
    Tells { w.withFeed f with handed := w.handed ++ blocks, status := ended.or w.status }
      shard := by
  have hstatus : ∀ s, w.status = some s → ended.or w.status = some s := by
    intro s hs
    cases hended : ended with
    | none => exact hs
    | some s' =>
      have hstreaming := hproduces.stops (by simp [hended])
      cases hs.symm.trans (h.agrees.unended hstreaming)
  have hcause : ∀ e, w.Cause shard e →
      Cause { w.withFeed f with handed := w.handed ++ blocks, status := ended.or w.status }
        shard e :=
    fun e he => he.mono (fun b hb => List.mem_append_left _ hb) hstatus
      fun hidle => absurd hidle hproduces.begun
  have hissue : ∀ e, w.feed.issue = some e → f.issue = some e := by
    intro e he
    rcases hproduces.latch with ⟨hsame, -⟩ | ⟨s, -, -, hnone, -⟩
    · exact hsame.trans he
    · cases he.symm.trans hnone
  have hfails : (w.feed.issue ≠ none → w.StreamFailed) → f.issue ≠ none →
      ∃ table range s, f.issue = some (.failed table range s) := by
    intro hbefore hne
    rcases hproduces.latch with ⟨hsame, -⟩ | ⟨s, -, -, -, hfailed, -⟩
    · obtain ⟨table, range, s, hs⟩ := hbefore (hsame ▸ hne)
      exact ⟨table, range, s, hsame.trans hs⟩
    · exact ⟨_, _, s, hfailed⟩
  have hstopped : w.feed.state = .finished ∨ w.feed.state = .failed →
      f.state = .finished ∨ f.state = .failed := by
    intro hstate
    rcases hproduces.latch with ⟨-, hsame⟩ | ⟨s, -, -, -, -, hfailed⟩
    · rwa [hsame]
    · exact .inr hfailed
  refine
    { reads := h.reads, table := hproduces.table.trans h.table
      range := hproduces.range.trans h.range, agrees := h.agrees.produce hproduces, carried := ?_
      cause := ?_, place := ?_
      reported := h.reported.congr rfl hissue (fun b hb => List.mem_append_left _ hb)
        fun _ => id }
  · intro b hb
    rcases List.mem_append.mp hb with hb | hb
    · exact List.mem_append_left _ (h.carried b (List.mem_append_left _ hb))
    · rcases hproduces.items b hb with hb | hb
      · exact List.mem_append_left _ (h.carried b (List.mem_append_right _ hb))
      · exact List.mem_append_right _ hb
  · intro e he
    rcases hproduces.latch with ⟨hsame, -⟩ | ⟨s, hending, hs, -, hfailed, -⟩
    · exact hcause e (h.cause e (hsame ▸ he))
    · -- What is latched is the status that the stream ended with.
      cases Option.some.inj (hfailed.symm.trans he)
      rw [h.table, h.range]
      refine .stream (hstatus s ((h.agrees.ending s hending).resolve_left ?_)) hs
      rw [hs]
      exact Bool.false_ne_true
  · have hplace := h.place
    show AtPlace _ w.consumer
    match w.consumer, hplace with
    | .idle, hplace =>
      intro hstate
      rcases hproduces.latch with ⟨-, hsame⟩ | ⟨s, -, -, -, -, hfailed⟩
      · exact hproduces.ready (hplace (hstate.imp hsame.symm.trans hsame.symm.trans))
      · rcases hstate with hstate | hstate <;> cases hfailed.symm.trans hstate
    | .fetching, ⟨hready, herrors, hstream⟩ =>
      exact ⟨hproduces.ready hready, herrors, hfails hstream⟩
    | .holding (some (.block _)), ⟨hready, herrors, hstream⟩ =>
      exact ⟨hproduces.ready hready, herrors, hfails hstream⟩
    | .holding (some .endOfScan), herrors => exact herrors
    | .closing, hstate => exact hstopped hstate
    | .draining, hstate => exact hstopped hstate

/-- The same without another block. -/
theorem Tells.produce_nothing (h : w.Tells shard) {f : Feed} {ended : Option Status}
    (hproduces : w.feed.Produces [] ended f) :
    Tells { w.withFeed f with status := ended.or w.status } shard := by
  have htells := h.produce hproduces
  rwa [List.append_nil] at htells

/-! ### Steps of the reader -/

/-- What the reader does: it may move items, and answer a call. -/
theorem Tells.turn (h : w.Tells shard) {r : Reader} {consumer : Consumer} {log : List Call}
    (hshard : r.shard = w.reader.shard) (htable : r.feed.table = w.feed.table)
    (hrange : r.feed.range = w.feed.range) (hagrees : r.feed.Agrees w.status)
    (hitems : ∀ b, .block b ∈ inFlight ⟨r, consumer, w.handed, w.status, log⟩ →
      .block b ∈ w.inFlight)
    (hcause : ∀ e ∈ r.feed.issue, Cause ⟨r, consumer, w.handed, w.status, log⟩ shard e)
    (hplace : AtPlace ⟨r, consumer, w.handed, w.status, log⟩ consumer)
    (hreported : Reported ⟨r, consumer, w.handed, w.status, log⟩ shard) :
    Tells ⟨r, consumer, w.handed, w.status, log⟩ shard where
  reads := hshard.trans h.reads
  table := htable.trans h.table
  range := hrange.trans h.range
  agrees := hagrees
  carried b hb := h.carried b (hitems b hb)
  cause := hcause
  place := hplace
  reported := hreported

/-- A failure stays what it was when the producer does nothing. -/
theorem Tells.causes (h : w.Tells shard) {r : Reader} {consumer : Consumer} {log : List Call}
    (hissue : r.feed.issue = w.feed.issue) (hproducer : r.feed.producer = w.feed.producer) :
    ∀ e ∈ r.feed.issue, Cause ⟨r, consumer, w.handed, w.status, log⟩ shard e := by
  intro e he
  rw [hissue] at he
  exact (h.cause e he).mono (fun _ => id) (fun _ => id) fun hidle => ⟨hproducer.trans hidle, rfl⟩

theorem Tells.ready (h : w.Tells shard) (hidle : w.consumer = .idle)
    (hstate : w.feed.state = .created ∨ w.feed.state = .prepared) : w.feed.Ready := by
  have hplace := h.place
  rw [hidle] at hplace
  exact hplace hstate

/-- A call is answered: with a failure only if it is the one that is kept. -/
theorem Tells.answered (h : w.Tells shard) (hidle : w.consumer = .idle)
    {answer : Except ScanError Bool}
    (hanswer : ∀ e, answer = .error e →
      w.feed.issue = some e ∧ w.reader.pending shard.plan.outColumns = []) :
    (w.answered answer w.reader).Tells shard := by
  refine h.turn rfl rfl rfl h.agrees (fun b hb => ?_) (h.causes rfl rfl) (h.ready hidle) ?_
  · rw [inFlight, hidle]
    exact hb
  · cases answer with
    | ok more =>
      have herrors : (w.answered (.ok more) w.reader).errors = w.errors := by simp
      exact h.reported.congr herrors (fun _ => id) (fun _ => id) fun _ => id
    | error e =>
      obtain ⟨hissue, hover⟩ := hanswer e rfl
      exact h.reported.issue hissue rfl (errors_answered w (.error e) w.reader) (fun _ => id) hover

/-- Only the place in the rows changes. -/
theorem Tells.move (h : w.Tells shard) (hfresh : w.errors = []) (cursor : Option Cursor)
    (rowsRead : Nat) :
    Tells { w with reader := { w.reader with cursor := cursor, rowsRead := rowsRead } } shard :=
  h.turn rfl rfl rfl h.agrees (fun _ => id) (h.causes rfl rfl) h.place
    (h.reported.congr rfl (fun _ => id) (fun _ => id) fun hne => absurd hfresh hne)

/-- The session and the read are opened, and the call may go on to take items. -/
theorem Tells.opened (h : w.Tells shard) (hidle : w.consumer = .idle)
    (hstate : w.feed.state = .created) (scan : OpenScan) {consumer : Consumer}
    (hconsumer : consumer = .idle ∨ consumer = .fetching) :
    Tells { w with reader := w.reader.opened scan, consumer := consumer } shard := by
  have hready := h.ready hidle (.inl hstate)
  have hopened : Feed.Ready { w.feed with state := .prepared, producer := .streaming } :=
    ⟨hready.uncancelled, hready.receiver, hready.marked⟩
  have hissue := h.agrees.issue_eq_none (by simp [hstate])
  have hfresh := h.reported.errors_eq_nil hissue
  refine h.turn rfl rfl rfl (h.agrees.opened hstate) (fun b hb => ?_) (fun e he => ?_) ?_
    (h.reported.congr rfl (fun _ => id) (fun _ => id) fun hne => absurd hfresh hne)
  · refine List.mem_append_right _ (List.mem_append_left _ ?_)
    rcases hconsumer with rfl | rfl <;>
      simpa [inFlight, Consumer.heldItems, feed, Reader.opened, Producer.waitingItems] using hb
  · cases hissue.symm.trans he
  · rcases hconsumer with rfl | rfl
    · exact fun _ => hopened
    · exact ⟨hopened, hfresh, fun hne => absurd hissue hne⟩

/-- The session or the read cannot be opened. -/
theorem Tells.setupFails (h : w.Tells shard) (hidle : w.consumer = .idle)
    (hstate : w.feed.state = .created) (cause : StoreError) :
    Tells { w with reader := (w.reader.failSetup cause).2 } shard := by
  have hissue := h.agrees.issue_eq_none (by simp [hstate])
  have hlatch : w.reader.feed.latch (.setup w.reader.feed.table cause) =
      { w.reader.feed with issue := some (.setup w.reader.feed.table cause), state := .failed } :=
    Feed.latch_of_none hissue _
  have hagrees := h.agrees.latch (.setup w.reader.feed.table cause)
  simp only [Reader.failSetup]
  rw [feed, hlatch] at hagrees
  rw [hlatch]
  refine h.turn rfl rfl rfl hagrees (fun _ => id) ?_ ?_ ?_
  · rintro e ⟨⟩
    obtain ⟨hproducer, hstatus⟩ := h.agrees.created hstate
    have hcause : w.Cause shard (.setup shard.plan.tablePath cause) :=
      .setup cause hproducer hstatus
    rw [← h.table] at hcause
    exact hcause.mono (fun _ => id) (fun _ => id) fun hidle => ⟨hidle, rfl⟩
  · rw [hidle]
    rintro (hcreated | hprepared)
    · cases hcreated
    · cases hprepared
  · refine h.reported.congr rfl (fun e he => ?_) (fun _ => id) fun _ => id
    cases hissue.symm.trans he

/-- A reader that takes items finds one. -/
theorem Tells.take (h : w.Tells shard) (hfetching : w.consumer = .fetching)
    {item : Option QueueItem} {queue : Queue} (htake : w.feed.queue.take = some (item, queue)) :
    Tells { w.withFeed { w.feed with queue := queue } with consumer := .holding item } shard := by
  have hplace := h.place
  rw [hfetching] at hplace
  obtain ⟨hready, herrors, hstream⟩ := hplace
  unfold Queue.take at htake
  split at htake
  · cases htake
  · next hopen =>
    cases hitems : w.feed.queue.items with
    | nil =>
      -- The sending half is gone, and the marker would have to be in the queue.
      have hmarked := hready.marked (by simpa [hitems] using hopen)
      rw [hitems] at hmarked
      cases hmarked
    | cons i rest =>
      rw [Queue.tryTake, hitems] at htake
      cases htake
      refine h.turn rfl rfl rfl (h.agrees.congr rfl rfl rfl) (fun b hb => ?_) (h.causes rfl rfl) ?_
        (h.reported.congr rfl (fun _ => id) (fun _ => id) fun _ => id)
      · simp only [inFlight, hfetching, hitems]
        simpa [inFlight, Consumer.heldItems, feed, withFeed, or_assoc] using hb
      · cases i with
        | endOfScan => exact herrors
        | block b =>
          refine ⟨⟨hready.uncancelled, hready.receiver, fun hclosed => ?_⟩, herrors, hstream⟩
          have hmarked := hready.marked hclosed
          rw [hitems] at hmarked
          exact (List.mem_cons.mp hmarked).resolve_left fun heq => by cases heq

/-- A block with other columns fails the reader, unless the stream has failed in the meantime. -/
theorem Tells.drift (h : w.Tells shard) {b : Block} {drift : SchemaDrift}
    (hholding : w.consumer = .holding (some (.block b)))
    (hpositions : b.positions w.reader.outColumns = .error drift) :
    (w.answered (.error (.schemaDrift w.feed.table drift))
      (w.reader.fail (.schemaDrift w.feed.table drift))).Tells shard := by
  have hplace := h.place
  rw [hholding] at hplace
  obtain ⟨-, herrors, hstream⟩ := hplace
  have hheld : .block b ∈ w.inFlight := by
    rw [inFlight, hholding]
    exact List.mem_cons_self
  have hdrifted : w.Drifted shard (.schemaDrift w.feed.table drift) := by
    refine ⟨b, h.carried b hheld, drift, ?_, by rw [h.table]⟩
    rw [← h.reads]
    exact hpositions
  have hlogged : (w.answered (.error (.schemaDrift w.feed.table drift))
      (w.reader.fail (.schemaDrift w.feed.table drift))).errors =
        [.schemaDrift w.feed.table drift] := by
    rw [errors_answered, herrors]
    rfl
  have hstate : ((w.feed.latch (.schemaDrift w.feed.table drift)).state = .failed) := by
    cases hissue : w.feed.issue with
    | none => rw [Feed.latch_of_none hissue]
    | some e =>
      rw [Feed.latch_of_some hissue]
      exact h.agrees.failed.mpr (by simp [hissue])
  have hqueue := w.feed.queue_latch (.schemaDrift w.feed.table drift)
  have hproducer := w.feed.producer_latch (.schemaDrift w.feed.table drift)
  refine h.turn rfl ?_ ?_ ((h.agrees.latch _).congr rfl rfl rfl) (fun b' hb' => ?_) ?_ ?_ ?_
  · exact (w.feed.sources_latch _).1
  · exact (w.feed.sources_latch _).2
  · refine List.mem_append_right _ ?_
    rw [← hqueue, ← hproducer]
    exact hb'
  · intro e he
    have he' : (w.feed.latch (.schemaDrift w.feed.table drift)).issue = some e := he
    cases hissue : w.feed.issue with
    | none =>
      rw [Feed.latch_of_none hissue] at he'
      cases he'
      exact .drift (hdrifted.mono fun _ => id)
    | some e' =>
      rw [Feed.latch_of_some hissue] at he'
      exact (h.cause e he').mono (fun _ => id) (fun _ => id)
        fun hidle => ⟨hproducer.trans hidle, rfl⟩
  · rintro (hcreated | hprepared)
    · cases hstate.symm.trans hcreated
    · cases hstate.symm.trans hprepared
  · refine ⟨fun e he => ?_, fun e he => ?_, fun _ => rfl⟩
    · have he' : e ∈ [.schemaDrift w.feed.table drift].head? := hlogged ▸ he
      cases he'
      cases hissue : w.feed.issue with
      | none =>
        left
        show (w.feed.latch _).issue = _
        rw [Feed.latch_of_none hissue]
      | some e' =>
        obtain ⟨table, range, s, hs⟩ := hstream (by simp [hissue])
        exact .inr ⟨⟨table, range, s, Feed.issue_latch hs _⟩, hdrifted.mono fun _ => id⟩
    · have he' : e ∈ [.schemaDrift w.feed.table drift].tail := hlogged ▸ he
      cases he'

/-- A block with the columns of the reader becomes the current one. -/
theorem Tells.load (h : w.Tells shard) {b : Block}
    (hholding : w.consumer = .holding (some (.block b))) (cursor : Option Cursor) (rowsRead : Nat)
    {consumer : Consumer} (hconsumer : consumer = .idle ∨ consumer = .fetching) :
    Tells
      { w with
        reader := { w.reader with cursor := cursor, rowsRead := rowsRead }, consumer := consumer }
      shard := by
  have hplace := h.place
  rw [hholding] at hplace
  refine h.turn rfl rfl rfl h.agrees (fun b' hb' => ?_) (h.causes rfl rfl) ?_
    (h.reported.congr rfl (fun _ => id) (fun _ => id) fun hne => absurd hplace.2.1 hne)
  · refine List.mem_append_right _ ?_
    rcases hconsumer with rfl | rfl <;> exact hb'
  · rcases hconsumer with rfl | rfl
    · exact fun _ => hplace.1
    · exact hplace

/-- The marker ends the call, and the reader has finished or failed. -/
theorem Tells.meetMarker (h : w.Tells shard) {f : Feed}
    (hf : f = w.feed.finish ∨ f = w.feed ∧ w.feed.issue ≠ none) :
    Tells { w with reader := { w.reader with cursor := none, feed := f }, consumer := .idle }
      shard := by
  have hsame : f.table = w.feed.table ∧ f.range = w.feed.range ∧ f.queue = w.feed.queue ∧
      f.producer = w.feed.producer ∧ f.issue = w.feed.issue ∧ f.Agrees w.status ∧
      (f.state = .finished ∨ f.state = .failed) := by
    rcases hf with rfl | ⟨rfl, hissue⟩
    · refine ⟨(w.feed.sources_finish).1, (w.feed.sources_finish).2, w.feed.queue_finish,
        w.feed.producer_finish, w.feed.issue_finish, h.agrees.finish, w.feed.state_finish⟩
    · exact ⟨rfl, rfl, rfl, rfl, rfl, h.agrees, .inr (h.agrees.failed.mpr hissue)⟩
  obtain ⟨htable, hrange, hqueue, hproducer, hissue, hagrees, hstate⟩ := hsame
  refine h.turn rfl htable hrange hagrees (fun b hb => ?_) (h.causes hissue hproducer) ?_ ?_
  · refine List.mem_append_right _ ?_
    rw [← hqueue, ← hproducer]
    exact hb
  · intro hactive
    rcases hstate with hstate | hstate <;> rcases hactive with hactive | hactive <;>
      cases hstate.symm.trans hactive
  · exact h.reported.congr rfl (fun e he => hissue.trans he) (fun _ => id) fun _ _ => rfl

/-- What was taken answers the call. -/
theorem Tells.answer (h : w.Tells shard) {item : Option QueueItem} {answer : Except ScanError Bool}
    {r : Reader} (hholding : w.consumer = .holding item)
    (haccept : w.reader.accept item = .answers answer r) : (w.answered answer r).Tells shard := by
  match item, hholding with
  | none, hholding =>
    have hplace := h.place
    rw [hholding] at hplace
    exact hplace.elim
  | some (.block b), hholding =>
    cases hpositions : b.positions w.reader.outColumns with
    | error drift =>
      rw [Reader.accept_drift hpositions] at haccept
      cases haccept
      exact h.drift hholding hpositions
    | ok positions =>
      rw [Reader.accept_block hpositions] at haccept
      split at haccept
      · next r' hrow =>
        cases haccept
        obtain ⟨cursor, rfl⟩ := Reader.eq_of_advance? hrow
        exact (h.load hholding _ _ (.inl rfl)).answered rfl (by simp)
      · cases haccept
  | some .endOfScan, hholding =>
    rw [Reader.accept_endOfScan] at haccept
    split at haccept
    · next e he =>
      cases haccept
      refine (h.meetMarker (.inr ⟨rfl, ?_⟩)).answered rfl ?_
      · simp [show w.feed.issue = some e from he]
      · rintro e' ⟨⟩
        exact ⟨he, rfl⟩
    · cases haccept
      exact (h.meetMarker (.inl rfl)).answered rfl (by simp)

/-- What was taken is a block without rows. -/
theorem Tells.goOn (h : w.Tells shard) {item : Option QueueItem} {r : Reader}
    (hholding : w.consumer = .holding item) (haccept : w.reader.accept item = .goesOn r) :
    Tells { w with reader := r, consumer := .fetching } shard := by
  match item, hholding with
  | none, _ => cases haccept
  | some (.block b), hholding =>
    cases hpositions : b.positions w.reader.outColumns with
    | error drift =>
      rw [Reader.accept_drift hpositions] at haccept
      cases haccept
    | ok positions =>
      rw [Reader.accept_block hpositions] at haccept
      split at haccept
      · cases haccept
      · cases haccept
        exact h.load hholding _ _ (.inr rfl)
  | some .endOfScan, _ =>
    rw [Reader.accept_endOfScan] at haccept
    split at haccept <;> cases haccept

/-! ### Closing -/

/-- The steps of closing leave the latch as it is, and items get lost only. -/
theorem Tells.closing (h : w.Tells shard) {f : Feed} {consumer : Consumer} {log : List Call}
    (hf : f.table = w.feed.table ∧ f.range = w.feed.range) (hagrees : f.Agrees w.status)
    (hissue : f.issue = w.feed.issue) (hproducer : f.producer = w.feed.producer)
    (hitems : ∀ item ∈ f.queue.items, item ∈ w.feed.queue.items)
    (hstate : f.state = .finished ∨ f.state = .failed)
    (hconsumer : consumer = .closing ∨ consumer = .draining ∨ consumer = .idle)
    (hlog : log = w.log ∨ log = w.log ++ [.close]) (scan : Option OpenScan)
    {cursor : Option Cursor} (hcursor : cursor = w.reader.cursor ∨ cursor = none) :
    Tells ⟨{ w.reader with feed := f, scan := scan, cursor := cursor }, consumer, w.handed,
      w.status, log⟩ shard := by
  have herrors : errors ⟨{ w.reader with feed := f, scan := scan, cursor := cursor }, consumer,
      w.handed, w.status, log⟩ = w.errors := by
    rcases hlog with rfl | rfl
    · rfl
    · simp [errors, List.filterMap_append]
  refine h.turn rfl hf.1 hf.2 hagrees (fun b hb => ?_) (h.causes hissue hproducer) ?_ ?_
  · refine List.mem_append_right _ ?_
    have hheld : consumer.heldItems = [] := by
      rcases hconsumer with rfl | rfl | rfl <;> rfl
    rw [inFlight, hheld, List.nil_append, List.mem_append] at hb
    rw [List.mem_append, ← hproducer]
    exact hb.imp_left (hitems _)
  · rcases hconsumer with rfl | rfl | rfl
    · exact hstate
    · exact hstate
    · intro hactive
      rcases hstate with hstate | hstate <;> rcases hactive with hactive | hactive <;>
        cases hstate.symm.trans hactive
  · refine h.reported.congr herrors (fun e he => hissue.trans he) (fun _ => id) fun _ hover => ?_
    rcases hcursor with rfl | rfl
    · exact hover
    · rfl

/-! ### Runs -/

/-- **Every step keeps what holds of the failures.** -/
theorem tells_step (h : w.Tells shard) (hstep : ScanStep w w') : w'.Tells shard := by
  cases hstep with
  | @hand b f hproducer hstep =>
    rw [Feed.step?, hproducer] at hstep
    cases hstep
    exact h.produce (Feed.produces_offerBlock hproducer b)
  | @stop s f hproducer hstep =>
    rw [Feed.step?, hproducer] at hstep
    cases hstep
    exact h.produce_nothing (Feed.produces_endStream (by simp [Feed.isStreaming, hproducer]) s)
  | proceed hstep => exact h.produce_nothing (Feed.produces_step? hstep)
  | send hproducer => exact h.produce_nothing (Feed.produces_enqueue hproducer)
  | @breakOff b s hproducer =>
    exact h.produce_nothing (Feed.produces_endStream (by simp [Feed.isStreaming, hproducer]) s)
  | @prepare scan hidle hstate =>
    have hopened := h.opened hidle hstate scan (.inl hidle)
    exact hopened
  | prepareFails hidle hstate => exact h.setupFails hidle hstate _
  | firstNext hidle hrow hstate => exact h.opened hidle hstate _ (.inr rfl)
  | @firstNextFails cause hidle hrow hstate =>
    refine (h.setupFails hidle hstate cause).answered hidle ?_
    rintro e ⟨⟩
    have hissue := h.agrees.issue_eq_none (by simp [show w.feed.state = .created from hstate])
    have hpending := (Reader.advance?_eq_none_iff shard.plan.outColumns).mp hrow
    exact ⟨congrArg Feed.issue (Feed.latch_of_none hissue _), hpending⟩
  | advance hidle hrow =>
    have hfresh : w.errors = [] := by
      by_contra hne
      cases ((Reader.advance?_eq_none_iff _).mpr (h.reported.exhausted hne)).symm.trans hrow
    obtain ⟨cursor, rfl⟩ := Reader.eq_of_advance? hrow
    exact (h.move hfresh (some cursor) (w.reader.rowsRead + 1)).answered hidle (by simp)
  | fetch hidle hrow hstate =>
    have hissue := h.agrees.issue_eq_none (by simp [show w.feed.state = .prepared from hstate])
    refine h.turn rfl rfl rfl h.agrees (fun b hb => ?_) (h.causes rfl rfl) ?_
      (h.reported.congr rfl (fun _ => id) (fun _ => id) fun _ => id)
    · rw [inFlight, hidle]
      exact hb
    · exact ⟨h.ready hidle (.inr hstate), h.reported.errors_eq_nil hissue,
        fun hne => absurd hissue hne⟩
  | refuse hidle hrow hstate =>
    refine h.answered hidle ?_
    rintro e ⟨⟩
    obtain ⟨e, he⟩ := Option.ne_none_iff_exists'.mp (h.agrees.failed.mp hstate)
    rw [Reader.latchedIssue, show w.reader.feed.issue = some e from he]
    exact ⟨he, (Reader.advance?_eq_none_iff _).mp hrow⟩
  | noMore hidle => exact h.answered hidle (by simp)
  | take hfetching htake => exact h.take hfetching htake
  | answer hholding haccept => exact h.answer hholding haccept
  | goOn hholding haccept => exact h.goOn hholding haccept
  | close hidle =>
    exact h.closing w.feed.sources_finish h.agrees.finish w.feed.issue_finish
      w.feed.producer_finish (by rw [w.feed.queue_finish]; exact fun _ => id) w.feed.state_finish
      (.inl rfl) (.inr rfl) _ (.inl rfl)
  | cancel hclosing =>
    have hplace := h.place
    rw [hclosing] at hplace
    exact h.closing (f := w.feed.cancel) ⟨rfl, rfl⟩ (h.agrees.congr rfl rfl rfl) rfl rfl
      (fun _ => id) hplace (.inr (.inl rfl)) (.inl rfl) _ (.inl rfl)
  | drain hdraining =>
    have hplace := h.place
    rw [hdraining] at hplace
    exact h.closing (f := { w.feed with queue := w.feed.queue.drain.2 }) ⟨rfl, rfl⟩
      (h.agrees.congr rfl rfl rfl) rfl rfl (fun _ hmem => absurd hmem List.not_mem_nil) hplace
      (.inr (.inl hdraining)) (.inl rfl) _ (.inl rfl)
  | closed hdraining =>
    have hplace := h.place
    rw [hdraining] at hplace
    exact h.closing (f := { w.feed with queue := w.feed.queue.closeReceiver }) ⟨rfl, rfl⟩
      (h.agrees.congr rfl rfl rfl) rfl rfl (fun _ hmem => absurd hmem List.not_mem_nil) hplace
      (.inr (.inr rfl)) (.inl rfl) none (.inr rfl)

/-- A new reader has reported nothing. -/
theorem tells_start (shard : Shard) (timeoutSeconds : Word .u64) :
    (start shard timeoutSeconds).Tells shard where
  reads := rfl
  table := rfl
  range := rfl
  agrees := by
    refine ⟨?_, fun _ => ⟨rfl, rfl⟩, fun _ => rfl, fun s hs => ?_⟩
    · simp [start, Reader.new, feed]
    · cases hs
  carried := fun _ hmem => absurd hmem List.not_mem_nil
  cause := fun _ he => by cases he
  place := fun _ => ⟨rfl, rfl, fun hclosed => by cases hclosed⟩
  reported := by
    refine ⟨fun _ he => ?_, fun _ he => ?_, fun _ => rfl⟩ <;> cases he

theorem tells_run {timeoutSeconds : Word .u64}
    (hrun : ScanRun (start shard timeoutSeconds) w) : w.Tells shard := by
  generalize hstart : start shard timeoutSeconds = w₀ at hrun
  induction hrun with
  | refl =>
    rw [← hstart]
    exact tells_start shard timeoutSeconds
  | tail _ hstep ih => exact tells_step ih hstep

end ScanWorld

/-- The status of a stream that a shard gives up under load. -/
def overloaded : Status := .of .overloaded "shard overloaded"

/-- The failure that goes with it. -/
def albumFailure : ScanError := .failed "/local/albums" .all overloaded

end ShardScan
