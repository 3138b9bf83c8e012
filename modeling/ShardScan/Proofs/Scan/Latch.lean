import ShardScan.Proofs.Scan.Live

/-!
# The latch of a feed

A feed keeps the first failure of its scan, whichever side meets it.  Of the
producer's steps only one may write it: the one that takes in how the stream
ended.  What is kept is never given up, and a reader that has failed stays so.

## Main definitions

* `Feed.Remembers` — what one feed knows of failures, a later one knows too.
* `Feed.Produces` — what one step of the producer can do to the latch.
* `Feed.Agrees` — how the latch, the producer and the end of the stream go together.

## Main results

* `Feed.produces_step?` and its neighbours — every step of the producer is one of these.
* `ScanWorld.remembers_run` — no failure is forgotten, over all interleavings.
-/

namespace ShardScan

/-! ### Steps of the producer -/

namespace Feed

variable {f f' : Feed} {e : ScanError}

theorem latch_of_none (h : f.issue = none) (e : ScanError) :
    f.latch e = { f with issue := some e, state := .failed } := by
  rw [latch, h]

theorem latch_of_some (h : f.issue = some e) (e' : ScanError) : f.latch e' = f := by
  rw [latch, h]

/-- The first failure wins. -/
theorem issue_latch (h : f.issue = some e) (e' : ScanError) : (f.latch e').issue = some e := by
  rw [latch_of_some h, h]

/-- What one feed knows of failures, a later one knows too. -/
structure Remembers (f f' : Feed) : Prop where
  issue : ∀ e, f.issue = some e → f'.issue = some e
  failed : f.state = .failed → f'.state = .failed

theorem remembers_of_eq (hissue : f'.issue = f.issue) (hstate : f'.state = f.state) :
    f.Remembers f' :=
  ⟨fun _ => hissue.trans, hstate.trans⟩

theorem Remembers.trans {f'' : Feed} (h : f.Remembers f') (h' : f'.Remembers f'') :
    f.Remembers f'' :=
  ⟨fun e he => h'.issue e (h.issue e he), fun hstate => h'.failed (h.failed hstate)⟩

theorem remembers_latch (f : Feed) (e : ScanError) : f.Remembers (f.latch e) := by
  cases hissue : f.issue with
  | none =>
    rw [latch_of_none hissue]
    refine ⟨fun _ h => ?_, fun _ => rfl⟩
    cases hissue.symm.trans h
  | some e' =>
    rw [latch_of_some hissue]
    exact remembers_of_eq rfl rfl

theorem remembers_finish (f : Feed) : f.Remembers f.finish := by
  unfold finish
  split
  · exact remembers_of_eq rfl rfl
  · next hstate => exact ⟨fun _ => id, fun h => absurd h hstate⟩

theorem remembers_step {event : StreamEvent} (h : f.step? event = some f') : f.Remembers f' := by
  rcases step?_cases h with ⟨queue, producer, rfl⟩ | ⟨s, rfl⟩
  · exact remembers_of_eq rfl rfl
  · have hrecord : f.Remembers (f.record s) := by
      unfold record
      split
      · exact remembers_of_eq rfl rfl
      · exact f.remembers_latch _
    exact hrecord.trans (remembers_of_eq rfl rfl)

theorem sources_latch (f : Feed) (e : ScanError) :
    (f.latch e).table = f.table ∧ (f.latch e).range = f.range := by
  unfold latch
  split <;> exact ⟨rfl, rfl⟩

theorem sources_finish (f : Feed) : f.finish.table = f.table ∧ f.finish.range = f.range := by
  unfold finish
  split <;> exact ⟨rfl, rfl⟩

theorem state_finish (f : Feed) : f.finish.state = .finished ∨ f.finish.state = .failed := by
  unfold finish
  split
  · next hstate => exact .inr hstate
  · exact .inl rfl

theorem issue_finish (f : Feed) : f.finish.issue = f.issue := by
  unfold finish
  split <;> rfl

theorem queue_finish (f : Feed) : f.finish.queue = f.queue := by
  unfold finish
  split <;> rfl

/-- An item can be taken from the queue, or one will come. -/
structure Ready (f : Feed) : Prop where
  uncancelled : f.cancelled = false
  receiver : f.queue.receiverOpen = true
  marked : f.queue.senderOpen = false → .endOfScan ∈ f.queue.items

/-- A step of the producer, in which the stream hands over some blocks and may end.  It leaves the
latch alone but where it takes in a status that fails the scan. -/
structure Produces (f : Feed) (blocks : List Block) (ended : Option Status) (f' : Feed) :
    Prop where
  begun : f.producer ≠ .idle
  table : f'.table = f.table
  range : f'.range = f.range
  ready : f.Ready → f'.Ready
  latch : f'.issue = f.issue ∧ f'.state = f.state ∨
    ∃ s, f.producer = .ending s ∧ s.isHarmless = false ∧ f.issue = none ∧
      f'.issue = some (.failed f.table f.range s) ∧ f'.state = .failed
  streaming : f'.isStreaming = true → f.isStreaming = true ∧ ended = none
  stops : ended ≠ none → f.isStreaming = true
  ending : ∀ s, f'.producer = .ending s → s.isHarmless = true ∨ ended = some s
  items : ∀ b, .block b ∈ f'.queue.items ++ f'.producer.waitingItems →
    .block b ∈ f.queue.items ++ f.producer.waitingItems ∨ b ∈ blocks

/-- A step that moves items and leaves the latch alone. -/
theorem produces_of_move {queue : Queue} {producer : Producer} {blocks : List Block}
    (hbegun : f.producer ≠ .idle)
    (hready : f.Ready → Ready { f with queue := queue, producer := producer })
    (hstreaming : isStreaming { f with queue := queue, producer := producer } = true →
      f.isStreaming = true)
    (hending : ∀ s, producer = .ending s → s.isHarmless = true)
    (hitems : ∀ b, .block b ∈ queue.items ++ producer.waitingItems →
      .block b ∈ f.queue.items ++ f.producer.waitingItems ∨ b ∈ blocks) :
    f.Produces blocks none { f with queue := queue, producer := producer } where
  begun := hbegun
  table := rfl
  range := rfl
  ready := hready
  latch := .inl ⟨rfl, rfl⟩
  streaming h := ⟨hstreaming h, rfl⟩
  stops h := absurd rfl h
  ending s h := .inl (hending s h)
  items := hitems

theorem produces_endStream (hstreaming : f.isStreaming = true) (s : Status) :
    f.Produces [] (some s) (f.endStream s) where
  begun h := by simp [isStreaming, h] at hstreaming
  table := rfl
  range := rfl
  ready h := ⟨h.uncancelled, h.receiver, h.marked⟩
  latch := .inl ⟨rfl, rfl⟩
  streaming h := by cases h
  stops _ := hstreaming
  ending s' h := by
    cases h
    exact .inr rfl
  items b hb := .inl (List.mem_append_left _
    (by simpa [endStream, Producer.waitingItems] using hb))

theorem produces_offerBlock (hproducer : f.producer = .streaming) (b : Block) :
    f.Produces [b] none (f.offerBlock b) := by
  have hbegun : f.producer ≠ .idle := by simp [hproducer]
  have hstreaming : f.isStreaming = true := by simp [isStreaming, hproducer]
  unfold offerBlock
  rcases f.queue.tryOffer_cases (.block b) with ⟨hclosed, hoffer⟩ | ⟨-, hoffer⟩ | ⟨-, hoffer⟩ <;>
    rw [hoffer]
  · refine produces_of_move hbegun (fun h => ?_) (fun _ => hstreaming) ?_ (fun b' hb' => ?_)
    · cases hclosed.symm.trans h.receiver
    · rintro s ⟨⟩
      rfl
    · exact .inl (List.mem_append_left _ (by simpa [Producer.waitingItems] using hb'))
  · refine produces_of_move hbegun (fun h => ⟨h.uncancelled, h.receiver, h.marked⟩)
      (fun _ => hstreaming) (fun _ h => by cases h) ?_
    simp [hproducer, Producer.waitingItems]
  · refine produces_of_move hbegun (fun h => ⟨h.uncancelled, h.receiver, ?_⟩)
      (fun _ => hstreaming) (fun _ h => by cases h) ?_
    · exact fun hclosed => List.mem_append_left _ (h.marked hclosed)
    · simp [hproducer, Producer.waitingItems, Queue.push]

/-- The marker is in the queue before the sending half ends. -/
theorem produces_exit (hbegun : f.producer ≠ .idle) {queue : Queue}
    (hreceiver : f.queue.receiverOpen = true → queue.receiverOpen = true)
    (hmarked : f.Ready → .endOfScan ∈ queue.items)
    (hitems : ∀ b, .block b ∈ queue.items → .block b ∈ f.queue.items) :
    f.Produces [] none { f with queue := queue }.exit := by
  refine produces_of_move hbegun (fun h => ?_) (fun h => by cases h) (fun _ h => by cases h)
    (fun b hb => ?_)
  · exact ⟨h.uncancelled, hreceiver h.receiver, fun _ => hmarked h⟩
  · refine .inl (List.mem_append_left _ (hitems b ?_))
    simpa [Queue.closeSender, Producer.waitingItems] using hb

theorem produces_offerMarker (hproducer : f.producer = .marking) :
    f.Produces [] none f.offerMarker := by
  have hbegun : f.producer ≠ .idle := by simp [hproducer]
  unfold offerMarker
  rcases f.queue.tryOffer_cases .endOfScan with ⟨hclosed, hoffer⟩ | ⟨-, hoffer⟩ | ⟨-, hoffer⟩ <;>
    rw [hoffer]
  · refine produces_exit hbegun id (fun h => ?_) (fun b hb => hb)
    cases hclosed.symm.trans h.receiver
  · refine produces_of_move hbegun (fun h => ⟨h.uncancelled, h.receiver, h.marked⟩)
      (fun h => by cases h) (fun _ h => by cases h) ?_
    simp [hproducer, Producer.waitingItems]
  · exact produces_exit hbegun id (by simp [Queue.push]) (by simp [Queue.push])

theorem produces_enqueue {item : QueueItem} (hproducer : f.producer = .waiting item) :
    f.Produces [] none (f.enqueue item) := by
  have hbegun : f.producer ≠ .idle := by simp [hproducer]
  cases item with
  | block b =>
    refine produces_of_move hbegun (fun h => ⟨h.uncancelled, h.receiver, ?_⟩) (fun _ => ?_)
      (fun _ h => by cases h) ?_
    · exact fun hclosed => List.mem_append_left _ (h.marked hclosed)
    · simp [isStreaming, hproducer]
    · simp [hproducer, Producer.waitingItems, Queue.push]
  | endOfScan => exact produces_exit hbegun id (by simp [Queue.push]) (by simp [Queue.push])

/-- An item is given up only when nobody will take one. -/
theorem produces_giveUp {item : QueueItem} (hproducer : f.producer = .waiting item)
    (hoff : f.cancelled = true ∨ f.queue.receiverOpen = false) :
    f.Produces [] none (f.giveUp item) := by
  have hbegun : f.producer ≠ .idle := by simp [hproducer]
  have hunready : ¬ f.Ready := by
    intro h
    simp [h.uncancelled, h.receiver] at hoff
  cases item with
  | block b =>
    refine produces_of_move hbegun (fun h => absurd h hunready) (fun h => by cases h) ?_
      (fun b' hb' => ?_)
    · rintro s ⟨⟩
      rfl
    · exact .inl (List.mem_append_left _ (by simpa [Producer.waitingItems] using hb'))
  | endOfScan => exact produces_exit hbegun id (fun h => absurd h hunready) fun b hb => hb

/-- Taking in how the stream ended is the one step that may latch a failure. -/
theorem produces_record {s : Status} (hproducer : f.producer = .ending s) :
    f.Produces [] none { f.record s with producer := .marking } := by
  have hbegun : f.producer ≠ .idle := by simp [hproducer]
  have hkeeps : f.Produces [] none { f with producer := .marking } := by
    refine produces_of_move hbegun (fun h => ⟨h.uncancelled, h.receiver, h.marked⟩)
      (fun h => by cases h) (fun _ h => by cases h) ?_
    simp [hproducer, Producer.waitingItems]
  unfold record
  split
  · exact hkeeps
  · next hs =>
    cases hissue : f.issue with
    | some e =>
      rw [latch_of_some hissue]
      exact hkeeps
    | none =>
      rw [latch_of_none hissue]
      have hharmful : s.isHarmless = false := by
        simp only [Bool.or_eq_true, not_or, Bool.not_eq_true] at hs
        simp [Status.isHarmless, hs.1.1, hs.1.2]
      exact
        { begun := hbegun, table := rfl, range := rfl
          ready := fun h => ⟨h.uncancelled, h.receiver, h.marked⟩
          latch := .inr ⟨s, hproducer, hharmful, hissue, rfl, rfl⟩
          streaming := fun h => by cases h
          stops := fun h => absurd rfl h
          ending := fun _ h => by cases h
          items := hkeeps.items }

/-- A step that the producer takes on its own. -/
theorem produces_step? (h : f.step? .waits = some f') : f.Produces [] none f' := by
  unfold step? at h
  split at h
  · cases h
  · cases h
  · cases h
  · next item hproducer =>
    split at h
    · next hoff =>
      cases h
      exact produces_giveUp hproducer (by simpa using hoff)
    · split at h
      · cases h
      · cases h
        exact produces_enqueue hproducer
  · next s hproducer =>
    cases h
    exact produces_record hproducer
  · next hproducer =>
    cases h
    exact produces_offerMarker hproducer

/-! ### The latch and the producer -/

/-- How the latch, the producer and the end of the stream go together. -/
structure Agrees (f : Feed) (status : Option Status) : Prop where
  failed : f.state = .failed ↔ f.issue ≠ none
  created : f.state = .created → f.producer = .idle ∧ status = none
  unended : f.isStreaming = true → status = none
  ending : ∀ s, f.producer = .ending s → s.isHarmless = true ∨ status = some s

variable {status : Option Status}

theorem Agrees.issue_eq_none (h : f.Agrees status) (hstate : f.state ≠ .failed) :
    f.issue = none :=
  not_not.mp (mt h.failed.mpr hstate)

theorem Agrees.congr (h : f.Agrees status) (hstate : f'.state = f.state)
    (hissue : f'.issue = f.issue) (hproducer : f'.producer = f.producer) : f'.Agrees status where
  failed := by rw [hstate, hissue, h.failed]
  created := by rw [hstate, hproducer]; exact h.created
  unended := by rw [isStreaming, hproducer]; exact h.unended
  ending := by rw [hproducer]; exact h.ending

theorem Agrees.latch (h : f.Agrees status) (e : ScanError) : (f.latch e).Agrees status := by
  cases hissue : f.issue with
  | some e' =>
    rw [latch_of_some hissue]
    exact h
  | none =>
    rw [latch_of_none hissue]
    exact ⟨by simp, (fun h => by cases h), h.unended, h.ending⟩

theorem Agrees.finish (h : f.Agrees status) : f.finish.Agrees status := by
  unfold Feed.finish
  split
  · exact h
  · next hstate =>
    refine ⟨?_, (fun h => by cases h), h.unended, h.ending⟩
    simp [h.issue_eq_none hstate]

/-- A producer that is started has its whole stream before it. -/
theorem Agrees.opened (h : f.Agrees status) (hstate : f.state = .created) :
    Agrees { f with state := .prepared, producer := .streaming } status where
  failed := by simp [h.issue_eq_none (by simp [hstate])]
  created h := by cases h
  unended _ := (h.created hstate).2
  ending _ h := by cases h

theorem Agrees.produce (h : f.Agrees status) {blocks : List Block} {ended : Option Status}
    (hproduces : f.Produces blocks ended f') : f'.Agrees (ended.or status) where
  failed := by
    rcases hproduces.latch with ⟨hissue, hstate⟩ | ⟨s, -, -, -, hissue, hstate⟩
    · rw [hstate, hissue, h.failed]
    · simp [hstate, hissue]
  created hstate := by
    rcases hproduces.latch with ⟨-, hsame⟩ | ⟨s, -, -, -, -, hfailed⟩
    · exact absurd (h.created (hsame.symm.trans hstate)).1 hproduces.begun
    · cases hfailed.symm.trans hstate
  unended hstreaming := by
    obtain ⟨hbefore, rfl⟩ := hproduces.streaming hstreaming
    exact h.unended hbefore
  ending s hs := by
    refine (hproduces.ending s hs).imp_right ?_
    rintro rfl
    rfl

end Feed

namespace Reader

variable {r r' : Reader}

theorem eq_of_advance? (h : r.advance? = some r') :
    ∃ cursor, r' = { r with cursor := some cursor, rowsRead := r.rowsRead + 1 } := by
  obtain ⟨c, -, hc⟩ := Option.bind_eq_some_iff.mp h
  split at hc
  · cases hc
    exact ⟨_, rfl⟩
  · cases hc

theorem accept_drift {b : Block} {drift : SchemaDrift}
    (h : b.positions r.outColumns = .error drift) :
    r.accept (some (.block b)) = .answers (.error (.schemaDrift r.feed.table drift))
      (r.fail (.schemaDrift r.feed.table drift)) := by
  simp only [accept, h]

theorem remembers_fail (r : Reader) (e : ScanError) : r.feed.Remembers (r.fail e).feed :=
  (r.feed.remembers_latch e).trans (Feed.remembers_of_eq rfl rfl)

/-- An item that answers a call. -/
theorem remembers_of_answers {item : Option QueueItem} {answer : Except ScanError Bool}
    (h : r.accept item = .answers answer r') : r.feed.Remembers r'.feed := by
  match item with
  | none =>
    cases h
    exact r.remembers_fail _
  | some .endOfScan =>
    rw [accept_endOfScan] at h
    split at h <;> cases h
    · exact Feed.remembers_of_eq rfl rfl
    · exact r.feed.remembers_finish
  | some (.block b) =>
    cases hpositions : b.positions r.outColumns with
    | error drift =>
      rw [accept_drift hpositions] at h
      cases h
      exact r.remembers_fail _
    | ok positions =>
      rw [accept_block hpositions] at h
      split at h
      · next r' hrow =>
        cases h
        obtain ⟨cursor, rfl⟩ := eq_of_advance? hrow
        exact Feed.remembers_of_eq rfl rfl
      · cases h

/-- Only a block without rows leaves a call unanswered. -/
theorem feed_of_goesOn {item : Option QueueItem} (h : r.accept item = .goesOn r') :
    r'.feed = r.feed := by
  match item with
  | none => cases h
  | some .endOfScan =>
    rw [accept_endOfScan] at h
    split at h <;> cases h
  | some (.block b) =>
    cases hpositions : b.positions r.outColumns with
    | error drift =>
      rw [accept_drift hpositions] at h
      cases h
    | ok positions =>
      rw [accept_block hpositions] at h
      split at h <;> cases h
      rfl

end Reader

/-! ### No failure is forgotten -/

namespace ScanWorld

variable {w w' : ScanWorld}

/-- A step of either side forgets no failure. -/
theorem remembers_step (hstep : ScanStep w w') : w.feed.Remembers w'.feed := by
  have hopened : ∀ scan, w.reader.state = .created →
      w.feed.Remembers (w.reader.opened scan).feed := by
    refine fun scan hstate => ⟨fun _ => id, fun hfailed => ?_⟩
    cases hstate.symm.trans hfailed
  cases hstep with
  | hand _ hstep => exact Feed.remembers_step hstep
  | stop _ hstep => exact Feed.remembers_step hstep
  | proceed hstep => exact Feed.remembers_step hstep
  | @send item => cases item <;> exact Feed.remembers_of_eq rfl rfl
  | breakOff => exact Feed.remembers_of_eq rfl rfl
  | prepare _ hstate => exact hopened _ hstate
  | prepareFails => exact w.feed.remembers_latch _
  | firstNext _ _ hstate => exact hopened _ hstate
  | firstNextFails => exact w.feed.remembers_latch _
  | advance _ hrow =>
    obtain ⟨cursor, rfl⟩ := Reader.eq_of_advance? hrow
    exact Feed.remembers_of_eq rfl rfl
  | fetch => exact Feed.remembers_of_eq rfl rfl
  | refuse => exact Feed.remembers_of_eq rfl rfl
  | noMore => exact Feed.remembers_of_eq rfl rfl
  | take => exact Feed.remembers_of_eq rfl rfl
  | answer _ haccept => exact Reader.remembers_of_answers haccept
  | goOn _ haccept =>
    have hfeed := Reader.feed_of_goesOn haccept
    exact Feed.remembers_of_eq (congrArg Feed.issue hfeed) (congrArg Feed.state hfeed)
  | close => exact w.feed.remembers_finish
  | cancel => exact Feed.remembers_of_eq rfl rfl
  | drain => exact Feed.remembers_of_eq rfl rfl
  | closed => exact Feed.remembers_of_eq rfl rfl

/-- **No failure is forgotten**: the latch is written once, and a reader that has failed stays so,
over all interleavings. -/
theorem remembers_run (hrun : ScanRun w w') : w.feed.Remembers w'.feed := by
  induction hrun with
  | refl => exact Feed.remembers_of_eq rfl rfl
  | tail _ hstep ih => exact ih.trans (remembers_step hstep)

end ScanWorld
end ShardScan
