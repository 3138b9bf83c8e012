import ShardScan.Proofs.Batch.Batches

/-!
# Failures between batches

A call for the next batch fails in three ways: the source fails, the last rows of
the source make no batch, or a full run of rows makes none.  In the first two the
batcher is done by then, its source has been closed, and all that follows is the
answer that there is no further batch.  In the third it is not.  The run is lost,
the source stays open, and the next call goes on with the rows behind the run.

Whatever is called, a batcher stays in step with its source: it is done just when
the source has been closed, and that is the last call on the source.

## Main definitions

* `RowSource.Fails` — a source gives some rows and fails behind them.
* `Batcher.answerOf` — the answer that some rows make.
* `Batcher.InStep` — a batcher and the calls on its source.
* `Batcher.Stopped` — a batcher from which nothing more comes.

## Main results

* `Batcher.nextBatch_cases` — what a call does, by what the source has.
* `Batcher.InStep.answers` — a batcher stays in step with its source.
* `batches_behind_failure` — **what is left behind a failure.**
-/

namespace ShardScan

/-! ### Sources that fail -/

namespace RowSource

variable {σ : Type} {source : RowSource σ} {s s' : σ} {log log' : List SourceCall}
  {rows : List (List Scalar)} {err : ScanError}

/-- The source gives some rows and fails behind them: it fails to tell whether there is a row, or to
give the one that there is. -/
def Fails (source : RowSource σ) (s : σ) (rows : List (List Scalar)) (err : ScanError) (e : σ) :
    Prop :=
  ∃ last, source.Gives s rows last ∧
    (source.next last = (.error err, e) ∨
      source.next last = (.ok true, e) ∧ source.get e = .error err)

theorem Fails.cons {row : List Scalar} {e : σ} (hnext : source.next s = (.ok true, s'))
    (hget : source.get s' = .ok row) (h : source.Fails s' rows err e) :
    source.Fails s (row :: rows) err e := by
  obtain ⟨last, hgives, hfails⟩ := h
  exact ⟨last, .cons hnext hget hgives, hfails⟩

theorem Exhausts.cons {row : List Scalar} {e : σ} (hnext : source.next s = (.ok true, s'))
    (hget : source.get s' = .ok row) (h : source.Exhausts s' rows e) :
    source.Exhausts s (row :: rows) e := by
  obtain ⟨last, hgives, hend⟩ := h
  exact ⟨last, .cons hnext hget hgives, hend⟩

/-- Behind some rows the record has a call for each. -/
theorem Gives.of_logged (h : source.logged.Gives (s, log) rows (s', log')) :
    source.Gives s rows s' ∧ log' = log ++ .replicate rows.length .next := by
  induction rows generalizing s log with
  | nil =>
    cases h
    exact ⟨.nil _, by simp⟩
  | cons row rows ih =>
    cases h with
    | @cons _ mid _ _ _ hnext hget hrest =>
      obtain ⟨mid, log₁⟩ := mid
      simp only [RowSource.logged, Prod.mk.injEq] at hnext
      obtain ⟨hanswer, hmid, rfl⟩ := hnext
      obtain ⟨hgives, rfl⟩ := ih hrest
      refine ⟨.cons (Prod.ext hanswer hmid) hget hgives, ?_⟩
      simp [List.replicate_succ]

/-- The call that has found no more rows is recorded too. -/
theorem Exhausts.of_logged (h : source.logged.Exhausts (s, log) rows (s', log')) :
    source.Exhausts s rows s' ∧ log' = log ++ .replicate (rows.length + 1) .next := by
  obtain ⟨⟨last, log₁⟩, hgives, hend⟩ := h
  obtain ⟨hrows, rfl⟩ := hgives.of_logged
  simp only [RowSource.logged, Prod.mk.injEq] at hend
  obtain ⟨hanswer, hlast, rfl⟩ := hend
  exact ⟨⟨last, hrows, Prod.ext hanswer hlast⟩, by simp [List.replicate_succ']⟩

/-- And so is the one that has failed. -/
theorem Fails.of_logged (h : source.logged.Fails (s, log) rows err (s', log')) :
    source.Fails s rows err s' ∧ log' = log ++ .replicate (rows.length + 1) .next := by
  obtain ⟨⟨last, log₁⟩, hgives, hfails⟩ := h
  obtain ⟨hrows, rfl⟩ := hgives.of_logged
  simp only [RowSource.logged, Prod.mk.injEq] at hfails
  rcases hfails with ⟨hanswer, hlast, rfl⟩ | ⟨⟨hanswer, hlast, rfl⟩, hget⟩
  · exact ⟨⟨last, hrows, .inl (Prod.ext hanswer hlast)⟩, by simp [List.replicate_succ']⟩
  · exact ⟨⟨last, hrows, .inr ⟨Prod.ext hanswer hlast, hget⟩⟩, by simp [List.replicate_succ']⟩

/-- **What a source has**: as many rows as are asked for, or fewer before its end or before a
failure. -/
theorem gives_or_exhausts_or_fails (source : RowSource σ) (count : Nat) (s : σ) :
    (∃ run s', run.length = count ∧ source.Gives s run s') ∨
    (∃ run e, run.length < count ∧ source.Exhausts s run e) ∨
    ∃ run err e, run.length < count ∧ source.Fails s run err e := by
  induction count generalizing s with
  | zero => exact .inl ⟨[], s, rfl, .nil s⟩
  | succ count ih =>
    have hnone : ([] : List (List Scalar)).length < count + 1 := Nat.succ_pos count
    rcases hnext : source.next s with ⟨answer, s₁⟩
    cases answer with
    | error err => exact .inr (.inr ⟨[], err, s₁, hnone, s, .nil s, .inl hnext⟩)
    | ok more =>
      cases more with
      | false => exact .inr (.inl ⟨[], s₁, hnone, s, .nil s, hnext⟩)
      | true =>
        cases hget : source.get s₁ with
        | error err => exact .inr (.inr ⟨[], err, s₁, hnone, s, .nil s, .inr ⟨hnext, hget⟩⟩)
        | ok row =>
          -- One row is there; the source has the others behind it.
          rcases ih s₁ with ⟨run, s', hlength, h⟩ | ⟨run, e, hshort, h⟩ | ⟨run, err, e, hshort, h⟩
          · exact .inl ⟨row :: run, s', congrArg Nat.succ hlength, .cons hnext hget h⟩
          · exact .inr (.inl ⟨row :: run, e, Nat.succ_lt_succ hshort, h.cons hnext hget⟩)
          · exact .inr (.inr ⟨row :: run, err, e, Nat.succ_lt_succ hshort, h.cons hnext hget⟩)

end RowSource

/-! ### Calls of a batcher -/

namespace Batcher

variable {σ : Type} {source : RowSource σ} {schema : Schema} {size : Nat} {err : ScanError}
  {log : List SourceCall}

/-- A source that fails before there are as many rows as are to be drawn. -/
theorem draw_of_fails {s e : σ} {run : List (List Scalar)} {count : Nat}
    (h : source.Fails s run err e) (hshort : run.length < count) :
    draw source count s = (.error err, e) := by
  obtain ⟨last, hgives, hfails⟩ := h
  induction hgives generalizing count with
  | nil s =>
    obtain ⟨count, rfl⟩ := Nat.exists_eq_succ_of_ne_zero (Nat.ne_zero_of_lt hshort)
    rcases hfails with hnext | ⟨hnext, hget⟩
    · simp only [draw, hnext]
    · simp only [draw, hnext, hget]
  | cons hnext hget _ ih =>
    obtain ⟨count, rfl⟩ := Nat.exists_eq_succ_of_ne_zero (Nat.ne_zero_of_lt hshort)
    simp only [draw, hnext, hget, ih (Nat.lt_of_succ_lt_succ hshort) hfails]

/-- The answer that some rows make: none without rows, and else their batch. -/
def answerOf (schema : Schema) (run : List (List Scalar)) :
    Except ScanError (Option RecordBatch) :=
  if run.isEmpty then .ok none
  else (RecordBatch.ofRows schema run).map some |>.mapError .batch

theorem answerOf_eq_error {run : List (List Scalar)} (h : answerOf schema run = .error err) :
    ∃ fault, RecordBatch.ofRows schema run = .error fault ∧ err = .batch fault := by
  unfold answerOf at h
  split at h
  · cases h
  · cases hbatch : RecordBatch.ofRows schema run with
    | error fault =>
      rw [hbatch] at h
      cases h
      exact ⟨fault, rfl, rfl⟩
    | ok batch =>
      rw [hbatch] at h
      cases h

/-- **What a call does** is settled by what the source has: a full run of rows, fewer of them, or
fewer before a failure. -/
theorem nextBatch_cases (source : RowSource σ) (schema : Schema) (size : Nat) (s : σ) :
    (∃ run s', run.length = size ∧ source.Gives s run s' ∧
      nextBatch ⟨schema, size, false⟩ source s =
        (answerOf schema run, ⟨schema, size, false⟩, s')) ∨
    (∃ run e, run.length < size ∧ source.Exhausts s run e ∧
      nextBatch ⟨schema, size, false⟩ source s =
        (answerOf schema run, ⟨schema, size, true⟩, source.close e)) ∨
    ∃ run err e, run.length < size ∧ source.Fails s run err e ∧
      nextBatch ⟨schema, size, false⟩ source s =
        (.error err, ⟨schema, size, true⟩, source.close e) := by
  rcases source.gives_or_exhausts_or_fails size s with ⟨run, s', hlength, hgives⟩ |
    ⟨run, e, hshort, hends⟩ | ⟨run, err, e, hshort, hfails⟩
  · have hdraw := draw_of_gives hgives
    rw [hlength] at hdraw
    refine .inl ⟨run, s', hlength, hgives, ?_⟩
    by_cases hrun : run.isEmpty <;> simp [nextBatch, hdraw, answerOf, hrun]
  · have hdraw := draw_of_exhausts hends hshort
    refine .inr (.inl ⟨run, e, hshort, hends, ?_⟩)
    by_cases hrun : run.isEmpty <;> simp [nextBatch, hdraw, answerOf, hrun]
  · have hdraw := draw_of_fails hfails hshort
    refine .inr (.inr ⟨run, err, e, hshort, hfails, ?_⟩)
    simp [nextBatch, hdraw]

/-! ### In step with the source -/

/-- A batcher of some schema and size, and the calls on its source: the source has been asked for
rows, and has then been closed if the batcher is done. -/
inductive InStep (schema : Schema) (size : Nat) : Batcher → List SourceCall → Prop
  | goingOn (n : Nat) : InStep schema size ⟨schema, size, false⟩ (.replicate n .next)
  | done (n : Nat) : InStep schema size ⟨schema, size, true⟩ (.replicate n .next ++ [.close])

theorem InStep.nextBatch {b : Batcher} (h : InStep schema size b log) (source : RowSource σ)
    (s : σ) :
    InStep schema size (b.nextBatch source.logged (s, log)).2.1
      (b.nextBatch source.logged (s, log)).2.2.2 := by
  cases h with
  | done n => exact .done n
  | goingOn n =>
    rcases nextBatch_cases source.logged schema size (s, .replicate n .next) with
      ⟨run, ⟨s', log'⟩, -, hgives, hnext⟩ | ⟨run, ⟨e, log'⟩, -, hends, hnext⟩ |
      ⟨run, err, ⟨e, log'⟩, -, hfails, hnext⟩
    · obtain ⟨-, rfl⟩ := hgives.of_logged
      rw [hnext, List.replicate_append_replicate]
      exact .goingOn _
    · obtain ⟨-, rfl⟩ := hends.of_logged
      rw [hnext, List.replicate_append_replicate]
      exact .done _
    · obtain ⟨-, rfl⟩ := hfails.of_logged
      rw [hnext, List.replicate_append_replicate]
      exact .done _

/-- **A batcher stays in step with its source.** -/
theorem InStep.answers {b : Batcher} (h : InStep schema size b log) (source : RowSource σ) (s : σ)
    (count : Nat) :
    InStep schema size (b.answers source.logged (s, log) count).2.1
      (b.answers source.logged (s, log) count).2.2.2 := by
  induction count generalizing b s log with
  | zero => exact h
  | succ count ih => exact ih (h.nextBatch source s) _

/-- Nothing more comes from a batcher. -/
structure Stopped (source : RowSource σ) (b : Batcher) (s : σ × List SourceCall) : Prop where
  done : b.done = true
  /-- The source has been closed, once and for the last of all calls. -/
  closed : ∃ n, s.2 = .replicate n .next ++ [.close]
  /-- All further calls are answered with no batch, and the source is left alone. -/
  silent : ∀ count, b.answers source.logged s count = (.replicate count (.ok none), b, s)

theorem InStep.stopped {b : Batcher} (h : InStep schema size b log) (hdone : b.done = true)
    (source : RowSource σ) (s : σ) : b.Stopped source (s, log) := by
  cases h with
  | goingOn n => cases hdone
  | done n =>
    refine ⟨rfl, ⟨n, rfl⟩, fun count => ?_⟩
    rw [answers_of_done, List.map_const', List.length_range]

end Batcher

/-- **What is left behind a failure.**  Some calls for batches have been made of a new batcher, and
the next one fails.  Either the source has failed, or its last rows make no batch; then there were
fewer rows than a batch has, the source has been closed, and all further calls are answered with no
batch.  Or a full run of rows makes no batch; then the source has not been closed, and the batcher
is as a new one, with its source behind the lost rows. -/
theorem batches_behind_failure {σ : Type} (source : RowSource σ) (s : σ) (schema : Schema)
    (size count : Nat) (err : ScanError) (b b' : Batcher) (now after : σ × List SourceCall)
    (hcalls : ((Batcher.new schema size).answers source.logged (s, []) count).2 = (b, now))
    (hfail : b.nextBatch source.logged now = (.error err, b', after)) :
    ∃ run,
      (run.length < max size 1 ∧
        ((∃ e, source.Fails now.1 run err e) ∨
          ∃ e fault, source.Exhausts now.1 run e ∧ RecordBatch.ofRows schema run = .error fault ∧
            err = .batch fault) ∧
        b'.Stopped source after) ∨
      run.length = max size 1 ∧ source.Gives now.1 run after.1 ∧
        (∃ fault, RecordBatch.ofRows schema run = .error fault ∧ err = .batch fault) ∧
        b' = Batcher.new schema size ∧ ∃ n, after.2 = .replicate n .next := by
  have hstep : Batcher.InStep schema (max size 1) b now.2 := by
    have hnew : Batcher.InStep schema (max size 1) (Batcher.new schema size) [] := .goingOn 0
    have hlater := hnew.answers source s count
    rwa [hcalls] at hlater
  have hafter : Batcher.InStep schema (max size 1) b' after.2 := by
    have hlater := hstep.nextBatch source now.1
    rwa [hfail] at hlater
  obtain ⟨s₀, log₀⟩ := now
  cases hstep with
  | done n => simp [Batcher.nextBatch] at hfail
  | goingOn n =>
    rcases Batcher.nextBatch_cases source.logged schema (max size 1) (s₀, .replicate n .next) with
      ⟨run, s', hlength, hgives, hnext⟩ | ⟨run, e, hshort, hends, hnext⟩ |
      ⟨run, err', e, hshort, hfails, hnext⟩
    all_goals
      obtain ⟨hanswer, hleft⟩ := Prod.mk.inj (hnext.symm.trans hfail)
      obtain ⟨rfl, rfl⟩ := Prod.mk.inj hleft
    · obtain ⟨hrows, -⟩ := hgives.of_logged
      generalize s'.2 = log' at hafter
      cases hafter with
      | goingOn n =>
        exact ⟨run, .inr ⟨hlength, hrows, Batcher.answerOf_eq_error hanswer, rfl, n, rfl⟩⟩
    · obtain ⟨hrows, -⟩ := hends.of_logged
      obtain ⟨fault, hfault, herr⟩ := Batcher.answerOf_eq_error hanswer
      exact ⟨run, .inl ⟨hshort, .inr ⟨e.1, fault, hrows, hfault, herr⟩, hafter.stopped rfl source _⟩⟩
    · obtain ⟨hrows, -⟩ := hfails.of_logged
      cases hanswer
      exact ⟨run, .inl ⟨hshort, .inl ⟨e.1, hrows⟩, hafter.stopped rfl source _⟩⟩

/-- The store with the three albums, in blocks of two, of which the second has lost its titles. -/
def tornShelfStore : Store :=
  { shelfStore with blockSize := 2, faults := { Faults.none with dropColumnAfter := some 1 } }

/-- Behind a batch of two albums the reader meets the block without titles. -/
theorem batches_behind_failure_albums :
    ∃ b now b' after,
      ((Batcher.new albumShard.plan.outSchema 2).answers Reader.source.logged
        ((Reader.new albumShard 60, tornShelfStore), []) 1).2 = (b, now) ∧
      b.nextBatch Reader.source.logged now =
        (.error (.schemaDrift "/local/albums" (.columnCount 2 1)), b', after) ∧
      b'.Stopped Reader.source after := by
  let left := ((Batcher.new albumShard.plan.outSchema 2).answers Reader.source.logged
    ((Reader.new albumShard 60, tornShelfStore), []) 1).2
  have hfail : (left.1.nextBatch Reader.source.logged left.2).1 =
      .error (.schemaDrift "/local/albums" (.columnCount 2 1)) := by decide +kernel
  obtain ⟨run, ⟨-, -, hstopped⟩ | ⟨-, -, ⟨fault, -, herr⟩, -⟩⟩ := batches_behind_failure
    Reader.source _ _ 2 1 _ left.1 _ left.2 _ rfl (Prod.ext hfail rfl)
  · exact ⟨left.1, left.2, _, _, rfl, Prod.ext hfail rfl, hstopped⟩
  · cases herr

/-- Albums that all have a number. -/
def numberedSchema : Schema :=
  .ofFields [.plain "id" (.int .int32) false, .plain "title" .utf8 false]

/-- The album without a number makes no batch of its own.  It is lost, the source is not closed, and
the other two albums come behind it. -/
theorem lost_album :
    ((Batcher.new numberedSchema 1).answers Reader.source (Reader.new albumShard 60, shelfStore)
        4).1 =
      [.error (.batch (.nullInRequired "id")),
        .ok (some ⟨1, [⟨.int .int32, [.int .int32 3]⟩, ⟨.utf8, [.utf8 "Blue"]⟩]⟩),
        .ok (some ⟨1, [⟨.int .int32, [.int .int32 5]⟩, ⟨.utf8, [.utf8 "Mingus"]⟩]⟩),
        .ok none] ∧
      ((Batcher.new numberedSchema 1).answers Reader.source.logged
        ((Reader.new albumShard 60, shelfStore), []) 1).2.2.2 = [.next] := by
  decide +kernel

end ShardScan
