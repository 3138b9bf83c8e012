import ShardScan.Proofs.Scan.Pipeline

/-!
# A producer left alone

Over a store in which nothing goes wrong a producer brings every block of its
stream into the queue and the marker behind them.  It rests where the queue is
full, or behind the marker; so as long as anything is to come, the queue of a
producer at rest has something in it.

## Main definitions

* `Store.Flows` — a stream that delivers, and the rows of the blocks it still has.
* `Feed.Coming` — what will still come out of the queue.

## Main results

* `Feed.settle_coming` — running the producer until it rests loses nothing of it.
-/

namespace ShardScan

/-! ### Streams -/

namespace Store

/-- The store with other streams; all else is the same. -/
def SameButStreams (s s' : Store) : Prop := s' = { s with streams := s'.streams }

theorem SameButStreams.refl (s : Store) : s.SameButStreams s := rfl

theorem SameButStreams.trans {s s' s'' : Store} (h : s.SameButStreams s')
    (h' : s'.SameButStreams s'') : s.SameButStreams s'' := by
  rw [SameButStreams] at h h' ⊢
  rw [h', h]

theorem sameButStreams_modifyStream (s : Store) (stream : Nat) (f : ReadStream → ReadStream) :
    s.SameButStreams (s.modifyStream stream f) := rfl

/-- A stream of which nothing goes wrong runs over a session that is alive, and has the blocks of
some rows still to deliver. -/
structure Flows (s : Store) (stream : Nat) (columns : List String) (rest : List (List Tuple)) :
    Prop where
  found : ∃ r n, s.stream? stream = some r ∧ r.phase = .running n rest ∧ r.columns = columns ∧
    r.faults = .none ∧ r.cancelled = false ∧ s.leaseFault? r.session = none

variable {s : Store} {stream : Nat} {columns : List String}

theorem shapeBlock_none (columns : List String) (n : Nat) (rows : List Tuple) :
    shapeBlock .none columns n rows = ⟨columns, rows⟩ := rfl

theorem scheduledEnd?_none {r : ReadStream} (h : r.faults = .none) (n : Nat) :
    scheduledEnd? r n = none := by
  rw [scheduledEnd?, h]
  rfl

theorem isGated_none {r : ReadStream} (h : r.faults = .none) (n : Nat) :
    s.isGated r n = false := by
  rw [isGated, h]
  rfl

theorem stream?_modifyStream {r : ReadStream} (h : s.stream? stream = some r)
    (f : ReadStream → ReadStream) : (s.modifyStream stream f).stream? stream = some (f r) := by
  rw [stream?] at h
  rw [stream?, modifyStream, List.getElem?_modify_eq, h]
  rfl

/-- A stream that flows delivers its next block. -/
theorem Flows.advance_cons {rows : List Tuple} {rest : List (List Tuple)}
    (h : s.Flows stream columns (rows :: rest)) :
    ∃ s', s.advance stream = (.delivers ⟨columns, rows⟩, s') ∧ s'.Flows stream columns rest ∧
      s.SameButStreams s' := by
  obtain ⟨r, n, hfound, hphase, hcolumns, hfaults, hcancelled, hlease⟩ := h.found
  have hevent : s.nextEvent r n (rows :: rest) = .delivers ⟨columns, rows⟩ := by
    simp only [nextEvent, hcancelled, isGated_none hfaults, hlease, scheduledEnd?_none hfaults,
      hfaults, hcolumns, shapeBlock_none, Bool.false_eq_true, if_false]
  let ahead : ReadStream → ReadStream := fun r => { r with phase := .running (n + 1) rest }
  have hnext : (s.modifyStream stream ahead).stream? stream = some (ahead r) :=
    stream?_modifyStream hfound ahead
  refine ⟨s.modifyStream stream ahead, ?_, ?_, sameButStreams_modifyStream ..⟩
  · simp only [advance, hfound, hphase, hevent]
    rfl
  · exact ⟨ahead r, n + 1, hnext, rfl, hcolumns, hfaults, hcancelled, hlease⟩

/-- And ends well behind the last. -/
theorem Flows.advance_nil (h : s.Flows stream columns []) :
    s.advance stream = (.ends .success, s.endStream stream) := by
  obtain ⟨r, n, hfound, hphase, hcolumns, hfaults, hcancelled, hlease⟩ := h.found
  have hevent : s.nextEvent r n [] = .ends .success := by
    simp [nextEvent, hcancelled, isGated_none hfaults, scheduledEnd?_none hfaults]
  simp only [advance, hfound, hphase, hevent]

theorem Flows.blocksLeft_eq {rest : List (List Tuple)} (h : s.Flows stream columns rest) :
    s.blocksLeft stream = rest.length := by
  obtain ⟨r, n, hfound, hphase, -⟩ := h.found
  simp only [blocksLeft, hfound, hphase]

end Store

/-! ### What is to come -/

namespace Feed

/-- The blocks of some rows, and the marker behind them. -/
def blocksOf (columns : List String) (rest : List (List Tuple)) : List QueueItem :=
  rest.map (fun rows => .block ⟨columns, rows⟩) ++ [.endOfScan]

/-- A scan that goes well: it was opened, nothing failed, and both sides are there. -/
structure Well (f : Feed) : Prop where
  state : f.state = .prepared
  issue : f.issue = none
  cancelled : f.cancelled = false
  receiver : f.queue.receiverOpen = true
  capacity : 0 < f.queue.capacity

/-- The items that will still come out of the queue: those in it, the one that waits, and those that
the stream has still to deliver, with the marker. -/
inductive Coming (f : Feed) (s : Store) (stream : Nat) (columns : List String) :
    List QueueItem → Prop
  | streaming {rest : List (List Tuple)} (hproducer : f.producer = .streaming)
    (hflows : s.Flows stream columns rest) :
    Coming f s stream columns (f.queue.items ++ blocksOf columns rest)
  | waiting {b : Block} {rest : List (List Tuple)} (hproducer : f.producer = .waiting (.block b))
    (hflows : s.Flows stream columns rest) :
    Coming f s stream columns (f.queue.items ++ .block b :: blocksOf columns rest)
  /-- All blocks are in the queue or were taken from it. -/
  | closing (hproducer : f.producer = .ending .success ∨ f.producer = .marking ∨
      f.producer = .waiting .endOfScan) :
    Coming f s stream columns (f.queue.items ++ [.endOfScan])
  | exited (hproducer : f.producer = .exited) : Coming f s stream columns f.queue.items

/-- The producer has nothing to do before an item is taken. -/
def AtRest (f : Feed) : Prop := f.producer = .exited ∨ f.queue.isFull = true

variable {f : Feed} {s : Store} {stream : Nat} {columns : List String} {items : List QueueItem}

/-- At rest there is something in the queue as long as anything is to come. -/
theorem AtRest.items_ne_nil (hrest : f.AtRest) (hwell : f.Well)
    (h : f.Coming s stream columns items) (hne : items ≠ []) : f.queue.items ≠ [] := by
  rcases hrest with hexited | hfull
  · cases h with
    | streaming hproducer => cases hexited.symm.trans hproducer
    | waiting hproducer => cases hexited.symm.trans hproducer
    | closing hproducer =>
      rcases hproducer with hproducer | hproducer | hproducer <;>
        cases hexited.symm.trans hproducer
    | exited => exact hne
  · intro hempty
    rw [Queue.isFull, decide_eq_true_iff, hempty] at hfull
    exact absurd hwell.capacity (Nat.not_lt.mpr hfull)

/-! ### Steps to the rest -/

theorem settle_of_none (h : f.step? (if f.producer = .streaming then s.advance stream else
    (.waits, s)).1 = none) : f.settle s stream = (f, s) := by
  rw [settle]
  split
  · rfl
  · next hstep =>
    rw [h] at hstep
    cases hstep

theorem settle_of_some {f' : Feed} (h : f.step? (if f.producer = .streaming then s.advance stream
    else (.waits, s)).1 = some f') :
    f.settle s stream = f'.settle
      (if f'.isStreaming then (if f.producer = .streaming then s.advance stream else (.waits, s)).2
        else (if f.producer = .streaming then s.advance stream else (.waits, s)).2.endStream stream)
      stream := by
  rw [settle]
  split
  · next hstep =>
    rw [h] at hstep
    cases hstep
  · next f'' hstep =>
    rw [h] at hstep
    cases hstep
    rfl

/-- A step of a producer that is not at rest. -/
structure Ahead (f : Feed) (s : Store) (stream : Nat) (columns : List String)
    (items : List QueueItem) (f' : Feed) (s' : Store) : Prop where
  lighter : f'.weight < f.weight
  settles : f.settle s stream = f'.settle s' stream
  well : f'.Well
  coming : f'.Coming s' stream columns items
  store : s.SameButStreams s'

theorem Well.queue (h : f.Well) {queue : Queue} {producer : Producer}
    (hreceiver : queue.receiverOpen = f.queue.receiverOpen)
    (hcapacity : queue.capacity = f.queue.capacity) :
    Well { f with queue := queue, producer := producer } where
  state := h.state
  issue := h.issue
  cancelled := h.cancelled
  receiver := hreceiver.trans h.receiver
  capacity := hcapacity ▸ h.capacity

/-- A producer that hands over the blocks of its stream takes the next one, or its end. -/
theorem ahead_of_streaming (hwell : f.Well) (hproducer : f.producer = .streaming)
    {rest : List (List Tuple)} (hflows : s.Flows stream columns rest) :
    ∃ f' s', f.Ahead s stream columns (f.queue.items ++ blocksOf columns rest) f' s' := by
  cases rest with
  | nil =>
    have hadvance := hflows.advance_nil
    have hstep : f.step? (.ends .success) = some (f.endStream .success) := by
      simp only [step?, hproducer]
    refine ⟨f.endStream .success, (s.endStream stream).endStream stream, ?_⟩
    refine ⟨weight_step hstep, ?_, hwell.queue rfl rfl, ?_, rfl⟩
    · rw [settle_of_some (by rw [if_pos hproducer, hadvance]; exact hstep), if_pos hproducer,
        hadvance]
      rfl
    · exact .closing (.inl rfl)
  | cons rows rest =>
    obtain ⟨s', hadvance, hflows', hstore⟩ := hflows.advance_cons
    have hstep : f.step? (.delivers ⟨columns, rows⟩) = some (f.offerBlock ⟨columns, rows⟩) := by
      simp only [step?, hproducer]
    have hoffer := offerBlock_of_open hwell.receiver ⟨columns, rows⟩
    have hsettle : (f.offerBlock ⟨columns, rows⟩).isStreaming = true →
        f.settle s stream = (f.offerBlock ⟨columns, rows⟩).settle s' stream := by
      intro hstreaming
      rw [settle_of_some (by rw [if_pos hproducer, hadvance]; exact hstep), if_pos hproducer,
        if_pos hstreaming, hadvance]
    refine ⟨f.offerBlock ⟨columns, rows⟩, s', ?_⟩
    cases hfull : f.queue.isFull with
    | true =>
      rw [hfull, if_pos rfl] at hoffer
      refine ⟨weight_step hstep, hsettle ?_, ?_, ?_, hstore⟩
      · rw [hoffer]
        rfl
      · rw [hoffer]
        exact hwell.queue rfl rfl
      · rw [hoffer]
        exact .waiting rfl hflows'
    | false =>
      rw [hfull, if_neg Bool.false_ne_true] at hoffer
      refine ⟨weight_step hstep, hsettle ?_, ?_, ?_, hstore⟩
      · rw [hoffer]
        rfl
      · rw [hoffer]
        exact hwell.queue rfl rfl
      · rw [hoffer]
        have hcoming : Coming { f with queue := f.queue.push (.block ⟨columns, rows⟩),
                                       producer := .streaming } s' stream columns
            ((f.queue.items ++ [.block ⟨columns, rows⟩]) ++ blocksOf columns rest) :=
          .streaming rfl hflows'
        rwa [List.append_assoc] at hcoming

/-- Where the stream has no part in a step, the store stays but for the end of the stream. -/
theorem settle_of_own {f' : Feed} (hproducer : f.producer ≠ .streaming)
    (hstep : f.step? .waits = some f') :
    f.settle s stream =
      f'.settle (if f'.isStreaming then s else s.endStream stream) stream := by
  rw [settle_of_some (by rw [if_neg hproducer]; exact hstep), if_neg hproducer]

/-- A producer that waits with an item sends it as soon as there is room. -/
theorem step?_waiting (hwell : f.Well) {item : QueueItem} (hproducer : f.producer = .waiting item)
    (hroom : f.queue.isFull = false) : f.step? .waits = some (f.enqueue item) := by
  simp [step?, hproducer, hwell.cancelled, hwell.receiver, hroom]

/-- **A producer is at rest or gets ahead** without losing anything of what is to come. -/
theorem atRest_or_ahead (hwell : f.Well) (h : f.Coming s stream columns items) :
    (f.AtRest ∧ f.settle s stream = (f, s)) ∨ ∃ f' s', f.Ahead s stream columns items f' s' := by
  cases h with
  -- The cases follow what the producer is about to do.
  | streaming hproducer hflows => exact .inr (ahead_of_streaming hwell hproducer hflows)
  | @waiting b rest hproducer hflows =>
    have hne : f.producer ≠ .streaming := by simp [hproducer]
    cases hfull : f.queue.isFull with
    | true =>
      have hstep : f.step? .waits = none := by
        simp [step?, hproducer, hwell.cancelled, hwell.receiver, hfull]
      exact .inl ⟨.inr hfull, settle_of_none (by rw [if_neg hne]; exact hstep)⟩
    | false =>
      have hstep := step?_waiting hwell hproducer hfull
      refine .inr ⟨f.enqueue (.block b), s, weight_step hstep, settle_of_own hne hstep,
        hwell.queue rfl rfl, ?_, .refl s⟩
      have hcoming : (f.enqueue (.block b)).Coming s stream columns
          ((f.queue.items ++ [.block b]) ++ blocksOf columns rest) := .streaming rfl hflows
      rwa [List.append_assoc] at hcoming
  | closing hproducer =>
    rcases hproducer with hproducer | hproducer | hproducer
    · have hne : f.producer ≠ .streaming := by simp [hproducer]
      have hstep : f.step? .waits = some { f with producer := .marking } := by
        simp [step?, hproducer, record, Status.isSuccess, Status.success]
      refine .inr ⟨{ f with producer := .marking }, s.endStream stream, weight_step hstep,
        settle_of_own hne hstep, hwell.queue rfl rfl, ?_, rfl⟩
      exact .closing (.inr (.inl rfl))
    · have hne : f.producer ≠ .streaming := by simp [hproducer]
      have hstep : f.step? .waits = some f.offerMarker := by simp only [step?, hproducer]
      have hoffer := offerMarker_of_open hwell.receiver
      cases hfull : f.queue.isFull with
      | true =>
        rw [hfull, if_pos rfl] at hoffer
        refine .inr ⟨f.offerMarker, s.endStream stream, weight_step hstep, ?_, ?_, ?_, rfl⟩
        · rw [settle_of_own hne hstep, hoffer]
          rfl
        · rw [hoffer]
          exact hwell.queue rfl rfl
        · rw [hoffer]
          exact .closing (.inr (.inr rfl))
      | false =>
        rw [hfull, if_neg Bool.false_ne_true] at hoffer
        refine .inr ⟨f.offerMarker, s.endStream stream, weight_step hstep, ?_, ?_, ?_, rfl⟩
        · rw [settle_of_own hne hstep, hoffer]
          rfl
        · rw [hoffer]
          exact hwell.queue rfl rfl
        · rw [hoffer]
          exact .exited rfl
    · have hne : f.producer ≠ .streaming := by simp [hproducer]
      cases hfull : f.queue.isFull with
      | true =>
        have hstep : f.step? .waits = none := by
          simp [step?, hproducer, hwell.cancelled, hwell.receiver, hfull]
        exact .inl ⟨.inr hfull, settle_of_none (by rw [if_neg hne]; exact hstep)⟩
      | false =>
        have hstep := step?_waiting hwell hproducer hfull
        refine .inr ⟨f.enqueue .endOfScan, s.endStream stream, weight_step hstep,
          settle_of_own hne hstep, hwell.queue rfl rfl, ?_, rfl⟩
        exact .exited rfl
  | exited hproducer =>
    have hne : f.producer ≠ .streaming := by simp [hproducer]
    have hstep : f.step? .waits = none := by simp only [step?, hproducer]
    exact .inl ⟨.inl hproducer, settle_of_none (by rw [if_neg hne]; exact hstep)⟩

/-- **Running the producer until it rests loses nothing** of what is to come. -/
theorem settle_coming (hwell : f.Well) (h : f.Coming s stream columns items) :
    ∃ f' s', f.settle s stream = (f', s') ∧ f'.AtRest ∧ f'.Well ∧
      f'.Coming s' stream columns items ∧ s.SameButStreams s' := by
  induction hweight : f.weight using Nat.strongRecOn generalizing f s with
  | ind weight ih =>
    rcases atRest_or_ahead hwell h with ⟨hrest, hsettle⟩ | ⟨f', s', hahead⟩
    · exact ⟨f, s, hsettle, hrest, hwell, h, .refl s⟩
    · obtain ⟨f'', s'', hsettle, hrest, hwell', hcoming, hstore⟩ :=
        ih f'.weight (hweight ▸ hahead.lighter) hahead.well hahead.coming rfl
      exact ⟨f'', s'', hahead.settles.trans hsettle, hrest, hwell', hcoming,
        hahead.store.trans hstore⟩

end Feed
end ShardScan
