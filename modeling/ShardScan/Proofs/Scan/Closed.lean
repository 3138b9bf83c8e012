import ShardScan.Proofs.Scan.Live

/-!
# Readers that are closed

Closing throws away what is in flight, and no row is delivered any more.  What
was seen before the closing stays as it is, whatever the producer still does.

## Main definitions

* `ScanWorld.Complete` — all rows were delivered, and the stream ended well.
* `ScanWorld.Closed` — what holds from the closing on.

## Main results

* `ScanWorld.Live.complete` — a reader that ran out of rows delivered them all.
* `ScanWorld.Live.close` — closing a reader.
-/

namespace ShardScan
namespace ScanWorld

/-- The reader has delivered all that there is. -/
structure Complete (w : ScanWorld) (names : List String) : Prop where
  rows : w.rows = (w.handedRows names).map .ok
  status : ∃ s, w.status = some s ∧ s.isHarmless = true
  producer : w.feed.producer = .exited

/-- The reader is finished and knows of no failure, or has failed with one. -/
def Ended (f : Feed) : Prop :=
  f.state = .finished ∧ f.issue = none ∨
    f.state = .failed ∧ ∃ e, f.issue = some e ∧ e.isLost = false

/-- What holds of a scan from the time the reader is closed. -/
structure Closed (w : ScanWorld) (names : List String) : Prop where
  closed : Call.close ∈ w.log
  count : w.reader.rowsRead = w.rows.length
  delivered : ∃ delivered, w.rows = delivered.map .ok ∧ delivered <+: w.handedRows names
  kept : ∀ e row, .next (.error e) row ∈ w.log → e.isLost = false
  stopped : w.consumer = .closing ∨ w.consumer = .draining ∨ w.Resting
  latch : Ended w.feed
  ended : w.EndsOpen → w.Complete names

section Close

variable {w : ScanWorld} {names : List String}

/-- A reader that met the marker without a failure has delivered everything. -/
theorem Live.complete (h : w.Live names) (hends : w.EndsOpen) : w.Complete names := by
  obtain ⟨before, row, after, hlog, -⟩ := hends
  have hfinished : w.feed.state = .finished := by
    refine h.ended row ?_
    rw [hlog]
    exact List.mem_append_right _ List.mem_cons_self
  obtain ⟨delivered, hdelivered, hflow⟩ := h.flow
  have hstage := h.stage
  cases hstage with
  | met hproducer hverdict hitems hresting =>
    cases hverdict with
    | failed hstate => simp [hstate] at hfinished
    | harmless _ _ hstatus hs =>
      refine ⟨?_, ⟨_, hstatus, hs⟩, hproducer⟩
      rw [hitems, Reader.pending, hresting.2, List.nil_append, List.flatMap_nil,
        List.append_nil] at hflow
      rw [hflow, hdelivered]
  | created _ h => simp [h] at hfinished
  | refused _ h => simp [h] at hfinished
  | flowing _ _ h => simp [h] at hfinished
  | ending _ _ h => simp [h] at hfinished
  | marking _ _ h => rcases h.state_eq with h | h <;> simp [h] at hfinished
  | marked _ _ h => rcases h.state_eq with h | h <;> simp [h] at hfinished

/-- A reader that finishes has ended. -/
theorem Stage.ended_finish {f : Feed} {status : Option Status} {items : List QueueItem}
    {resting : Prop} (h : Stage f status items resting) : Ended f.finish := by
  have hgood : f.state ≠ .failed → f.issue = none → Ended f.finish := by
    intro hstate hissue
    rw [Feed.finish, if_neg hstate]
    exact .inl ⟨rfl, hissue⟩
  have hbad : ∀ e, f.state = .failed → f.issue = some e → e.isLost = false → Ended f.finish := by
    intro e hstate hissue he
    rw [Feed.finish, if_pos hstate]
    exact .inr ⟨hstate, e, hissue, he⟩
  have hverdict : ∀ state, state ≠ .failed → Verdict f status state → Ended f.finish := by
    intro state hne hverdict
    cases hverdict with
    | harmless hstate hissue => exact hgood (by rw [hstate]; exact hne) hissue
    | failed hstate hissue he => exact hbad _ hstate hissue he
  cases h with
  | created _ hstate hissue => exact hgood (by simp [hstate]) hissue
  | refused _ hstate hissue he => exact hbad _ hstate hissue he
  | flowing _ _ hstate hissue => exact hgood (by simp [hstate]) hissue
  | ending _ _ hstate hissue => exact hgood (by simp [hstate]) hissue
  | marking _ _ h => exact hverdict .prepared (by simp) h
  | marked _ _ h => exact hverdict .prepared (by simp) h
  | met _ h => exact hverdict .finished (by simp) h

/-- The reader is closed. -/
theorem Live.close (h : w.Live names) :
    Closed { w.withFeed w.feed.finish with consumer := .closing, log := w.log ++ [.close] }
      names := by
  obtain ⟨delivered, hdelivered, hflow⟩ := h.flow
  have hrows : rows { w.withFeed w.feed.finish with
      consumer := .closing, log := w.log ++ [.close] } = w.rows := by
    simp [rows, List.filterMap_append]
  refine
    { closed := List.mem_append_right _ (List.mem_singleton.mpr rfl), count := ?_
      delivered := ⟨delivered, ?_, ?_⟩, kept := ?_, stopped := .inl rfl
      latch := h.stage.ended_finish, ended := ?_ }
  · rw [hrows]
    exact h.count
  · rw [hrows]
    exact hdelivered
  · exact ⟨_, hflow.symm⟩
  · intro e row he
    rcases List.mem_append.mp he with he | he
    · exact h.kept e row he
    · cases List.mem_singleton.mp he
  · intro hends
    have hcomplete := h.complete (endsOpen_of_append rfl (.inr rfl) hends)
    refine ⟨?_, hcomplete.status, w.feed.producer_finish.trans hcomplete.producer⟩
    rw [hrows]
    exact hcomplete.rows

theorem Ended.congr {f f' : Feed} (h : Ended f) (hstate : f'.state = f.state)
    (hissue : f'.issue = f.issue) : Ended f' := by
  rcases h with ⟨h₁, h₂⟩ | ⟨h₁, h₂⟩
  · exact .inl ⟨hstate.trans h₁, hissue.trans h₂⟩
  · rw [← hissue] at h₂
    exact .inr ⟨hstate.trans h₁, h₂⟩

theorem Ended.finish {f : Feed} (h : Ended f) : Ended f.finish := by
  unfold Feed.finish
  split
  · exact h
  · next hstate =>
    rcases h with ⟨h₁, h₂⟩ | ⟨h₁, -⟩
    · exact .inl ⟨rfl, h₂⟩
    · exact absurd h₁ hstate

/-- A reader that has ended stays so, whatever its producer does. -/
theorem Ended.step {f f' : Feed} {event : StreamEvent} (h : Ended f)
    (hstep : f.step? event = some f') : Ended f' := by
  rcases Feed.step?_cases hstep with ⟨queue, producer, rfl⟩ | ⟨s, rfl⟩
  · exact h.congr rfl rfl
  · unfold Feed.record
    split
    · exact h.congr rfl rfl
    · unfold Feed.latch
      split
      · exact h.congr rfl rfl
      · exact .inr ⟨rfl, _, rfl, rfl⟩

/-- What the producer does to a closed reader. -/
theorem Closed.produce (h : w.Closed names) {f : Feed} (blocks : List Block)
    {status : Option Status} (hended : Ended f) (hproducer : w.feed.producer ≠ .exited) :
    Closed { w.withFeed f with handed := w.handed ++ blocks, status := status } names := by
  obtain ⟨delivered, hdelivered, hbegins⟩ := h.delivered
  refine
    { closed := h.closed, count := h.count, delivered := ⟨delivered, hdelivered, ?_⟩
      kept := h.kept, stopped := h.stopped, latch := hended, ended := ?_ }
  · show delivered <+: (w.handed ++ blocks).flatMap _
    rw [List.flatMap_append]
    exact hbegins.trans (List.prefix_append _ _)
  · -- A reader that had ended by itself would have seen the producer end.
    intro hends
    exact absurd (h.ended hends).producer hproducer

/-- The same without another block. -/
theorem Closed.produce_nothing (h : w.Closed names) {f : Feed} {status : Option Status}
    (hended : Ended f) (hproducer : w.feed.producer ≠ .exited) :
    Closed { w.withFeed f with status := status } names := by
  have hclosed : Closed { w.withFeed f with handed := w.handed ++ [], status := status } names :=
    h.produce [] hended hproducer
  rwa [List.append_nil] at hclosed

/-- What changes neither the log nor what the producer is about to do. -/
theorem Closed.same (h : w.Closed names) {r : Reader} {consumer : Consumer}
    (hrows : r.rowsRead = w.reader.rowsRead) (hended : Ended r.feed)
    (hproducer : r.feed.producer = w.feed.producer)
    (hstopped : consumer = .closing ∨ consumer = .draining ∨ consumer = .idle ∧ r.cursor = none) :
    Closed { w with reader := r, consumer := consumer } names :=
  { closed := h.closed, count := hrows.trans h.count, delivered := h.delivered, kept := h.kept
    stopped := hstopped, latch := hended
    ended := fun hends =>
      ⟨(h.ended hends).rows, (h.ended hends).status, hproducer.trans (h.ended hends).producer⟩ }

/-- A call that gives no row. -/
theorem Closed.logged (h : w.Closed names) {call : Call}
    (hrow : ∀ row, call ≠ .next (.ok true) row)
    (hkept : ∀ e row, call = .next (.error e) row → e.isLost = false) :
    Closed { w with log := w.log ++ [call] } names := by
  have hrows : rows { w with log := w.log ++ [call] } = w.rows := by
    show (w.log ++ [call]).filterMap _ = w.log.filterMap _
    rw [List.filterMap_append]
    refine (congrArg _ ?_).trans (List.append_nil _)
    rcases call with ⟨e | (_ | _), row⟩ | _ <;> try rfl
    exact absurd rfl (hrow row)
  refine
    { closed := List.mem_append_left _ h.closed, count := ?_, delivered := ?_, kept := ?_
      stopped := h.stopped, latch := h.latch, ended := ?_ }
  · rw [hrows]
    exact h.count
  · rw [hrows]
    exact h.delivered
  · intro e row he
    rcases List.mem_append.mp he with he | he
    · exact h.kept e row he
    · exact hkept e row (List.mem_singleton.mp he).symm
  · intro hends
    have hcomplete := h.ended (endsOpen_of_append rfl (.inl h.closed) hends)
    refine ⟨?_, hcomplete.status, hcomplete.producer⟩
    rw [hrows]
    exact hcomplete.rows

theorem Closed.answered (h : w.Closed names) (hidle : w.consumer = .idle)
    {answer : Except ScanError Bool} (hrow : answer ≠ .ok true)
    (hkept : ∀ e, answer = .error e → e.isLost = false) :
    (w.answered answer w.reader).Closed names := by
  have hlogged : Closed { w with log := w.log ++ [.next answer w.reader.get] } names := by
    refine h.logged ?_ ?_
    · rintro row heq
      cases heq
      exact hrow rfl
    · rintro e row heq
      cases heq
      exact hkept e rfl
  rw [ScanWorld.answered, ← hidle]
  exact hlogged

/-- A closed reader that is between two calls has no block. -/
theorem Closed.cursor_eq_none (h : w.Closed names) (hidle : w.consumer = .idle) :
    w.reader.cursor = none := by
  rcases h.stopped with hstopped | hstopped | hresting
  · rw [hidle] at hstopped
    cases hstopped
  · rw [hidle] at hstopped
    cases hstopped
  · exact hresting.2

theorem Closed.not_fetching (h : w.Closed names) : w.consumer ≠ .fetching := by
  intro hfetching
  rcases h.stopped with hstopped | hstopped | ⟨hstopped, -⟩ <;>
    rw [hfetching] at hstopped <;> cases hstopped

theorem Closed.not_holding (h : w.Closed names) (item : Option QueueItem) :
    w.consumer ≠ .holding item := by
  intro hholding
  rcases h.stopped with hstopped | hstopped | ⟨hstopped, -⟩ <;>
    rw [hholding] at hstopped <;> cases hstopped

end Close

end ScanWorld
end ShardScan
