import Mathlib.Data.List.Infix
import Mathlib.Data.List.Forall2
import ShardScan.Batch.Batcher
import ShardScan.Proofs.Batch.Assembly
import ShardScan.Proofs.Scan.Delivery
import ShardScan.Proofs.Store.Chunks
import ShardScan.Scan.Rows

/-!
# The batches of a source

A source that gives some rows and then says that there are no more is read to its
end by a batcher, whatever the number of rows in a batch.  The rows are cut into
runs of that number, of which the last may be shorter, and every run makes a
batch.  A source whose rows fill the last batch is only found to have ended by the
call behind it.  Either way it is closed once, and from then on there is no
further batch.

## Main definitions

* `RowSource.Gives`, `RowSource.Exhausts` — the rows that a source gives.
* `RowSource.logged` — a source that keeps a record of the calls on it.
* `Schema.Makes` — batches of some runs.
* `Batcher.answers` — the answers to some calls, one after the other.

## Main results

* `Reader.exhausts_of_takeRows` — a reader is such a source.
* `Batcher.answers_of_cut` — a run makes an answer, until there are no more.
* `batches_of_source` — the batches of a source.
-/

namespace ShardScan

/-! ### Sources -/

/-- A call on a source that changes it. -/
inductive SourceCall
  | next
  | close
deriving DecidableEq

namespace RowSource

variable {σ : Type} {source : RowSource σ} {s s' e : σ} {row : List Scalar}
  {rows run : List (List Scalar)}

/-- The source gives some rows one after the other, and it may have more. -/
inductive Gives (source : RowSource σ) : σ → List (List Scalar) → σ → Prop
  | nil (s : σ) : Gives source s [] s
  | cons {s s' s'' : σ} {row : List Scalar} {rows : List (List Scalar)}
    (hnext : source.next s = (.ok true, s')) (hget : source.get s' = .ok row)
    (hrest : Gives source s' rows s'') : Gives source s (row :: rows) s''

/-- The source gives some rows, and then it says that there are no more. -/
def Exhausts (source : RowSource σ) (s : σ) (rows : List (List Scalar)) (e : σ) : Prop :=
  ∃ last, source.Gives s rows last ∧ source.next last = (.ok false, e)

/-- The source with a record of the calls on it. -/
def logged (source : RowSource σ) : RowSource (σ × List SourceCall) where
  next := fun (s, log) => ((source.next s).1, (source.next s).2, log ++ [.next])
  get := fun (s, _) => source.get s
  close := fun (s, log) => (source.close s, log ++ [.close])

/-- What is given in a row is given in two parts. -/
theorem Gives.exists_of_append (h : source.Gives s (run ++ rows) e) :
    ∃ s', source.Gives s run s' ∧ source.Gives s' rows e := by
  induction run generalizing s with
  | nil => exact ⟨s, .nil s, h⟩
  | cons row run ih =>
    cases h with
    | cons hnext hget hrest =>
      obtain ⟨s', hrun, hrows⟩ := ih hrest
      exact ⟨s', .cons hnext hget hrun, hrows⟩

theorem Exhausts.exists_of_append (h : source.Exhausts s (run ++ rows) e) :
    ∃ s', source.Gives s run s' ∧ source.Exhausts s' rows e := by
  obtain ⟨last, hgives, hend⟩ := h
  obtain ⟨s', hrun, hrows⟩ := hgives.exists_of_append
  exact ⟨s', hrun, last, hrows, hend⟩

theorem Gives.logged (h : source.Gives s rows s') (log : List SourceCall) :
    source.logged.Gives (s, log) rows (s', log ++ .replicate rows.length .next) := by
  induction h generalizing log with
  | nil s =>
    rw [List.length_nil, List.replicate_zero, List.append_nil]
    exact .nil _
  | @cons s s' s'' row rows hnext hget hrest ih =>
    rw [List.length_cons, List.replicate_succ, List.append_cons]
    have hrow : source.logged.get (s', log ++ [.next]) = .ok row := hget
    exact .cons (by simp only [RowSource.logged, hnext]) hrow (ih _)

/-- As many calls are recorded as there are rows, and the one that found no more. -/
theorem Exhausts.logged (h : source.Exhausts s rows e) (log : List SourceCall) :
    source.logged.Exhausts (s, log) rows (e, log ++ .replicate (rows.length + 1) .next) := by
  obtain ⟨last, hgives, hend⟩ := h
  refine ⟨_, hgives.logged log, ?_⟩
  simp only [RowSource.logged, hend, List.replicate_succ', List.append_assoc]

end RowSource

/-- **A reader is such a source** if its rows come to an end. -/
theorem Reader.exhausts_of_takeRows {r r' : Reader} {s s' : Store} {rows : List (List Scalar)}
    {count : Nat} (h : r.takeRows s count = (rows, .ended, r', s')) :
    Reader.source.Exhausts (r, s) rows (r', s') := by
  induction count generalizing r s rows with
  | zero => cases h
  | succ count ih =>
    rw [takeRows] at h
    split at h
    · cases h
    · cases h
    · next hnext =>
      cases h
      exact ⟨(r, s), .nil _, by simp only [source, hnext]⟩
    · next r₁ s₁ hnext =>
      split at h
      · cases h
      · next row hget =>
        obtain ⟨hrows, hrest⟩ := Prod.mk.inj h
        obtain ⟨last, hgives, hend⟩ := ih (Prod.ext rfl hrest)
        have hrow : source.get (r₁, s₁) = .ok row := hget
        rw [← hrows]
        exact ⟨last, .cons (by simp only [source, hnext]) hrow hgives, hend⟩

/-! ### Runs that make batches -/

/-- Each of the runs makes the batch at its place. -/
def Schema.Makes (schema : Schema) (runs : List (List (List Scalar))) (batches : List RecordBatch) :
    Prop :=
  List.Forall₂ (fun run batch => RecordBatch.ofRows schema run = .ok batch) runs batches

namespace Schema

variable {schema : Schema} {runs : List (List (List Scalar))} {batches : List RecordBatch}

theorem exists_makes (h : ∀ run ∈ runs, ∃ batch, RecordBatch.ofRows schema run = .ok batch) :
    ∃ batches, schema.Makes runs batches := by
  induction runs with
  | nil => exact ⟨[], .nil⟩
  | cons run runs ih =>
    obtain ⟨⟨batch, hbatch⟩, hruns⟩ := List.forall_mem_cons.mp h
    obtain ⟨batches, hbatches⟩ := ih hruns
    exact ⟨batch :: batches, .cons hbatch hbatches⟩

theorem Makes.map_rowCount (h : schema.Makes runs batches) :
    batches.map RecordBatch.rowCount = runs.map List.length := by
  induction h with
  | nil => rfl
  | cons hbatch _ ih =>
    rw [List.map_cons, List.map_cons, ih, (RecordBatch.ofRows_eq_ok hbatch).1]

/-- Batches hold the rows of their runs, one after the other. -/
theorem Makes.map_some_rows (h : schema.Makes runs batches) :
    (batches.flatMap RecordBatch.rows).map some = runs.flatten.map schema.hold? := by
  induction h with
  | nil => rfl
  | cons hbatch _ ih =>
    rw [List.flatMap_cons, List.map_append, List.flatten_cons, List.map_append, ih,
      RecordBatch.rows_ofRows hbatch]

end Schema

/-! ### Calls of a batcher -/

namespace Batcher

variable {σ : Type} {source : RowSource σ} {s s' e : σ} {rows run : List (List Scalar)}
  {schema : Schema} {size : Nat} {batch : RecordBatch}

/-- The answers to some calls for the next batch, and what is left behind them. -/
def answers (b : Batcher) (source : RowSource σ) (s : σ) :
    (count : Nat) → List (Except ScanError (Option RecordBatch)) × Batcher × σ
  | 0 => ([], b, s)
  | count + 1 =>
    let (answer, b, s) := b.nextBatch source s
    let (rest, left) := b.answers source s count
    (answer :: rest, left)

theorem draw_of_gives (h : source.Gives s run s') :
    draw source run.length s = (.ok ⟨run, false⟩, s') := by
  induction h with
  | nil s => rfl
  | cons hnext hget _ ih => simp only [List.length_cons, draw, hnext, hget, ih]

/-- Fewer rows than are to be drawn are all that is left. -/
theorem draw_of_exhausts {count : Nat} (h : source.Exhausts s run e) (hshort : run.length < count) :
    draw source count s = (.ok ⟨run, true⟩, e) := by
  obtain ⟨last, hgives, hend⟩ := h
  induction hgives generalizing count with
  | nil s =>
    obtain ⟨count, rfl⟩ := Nat.exists_eq_succ_of_ne_zero (Nat.ne_zero_of_lt hshort)
    simp only [draw, hend]
  | cons hnext hget _ ih =>
    obtain ⟨count, rfl⟩ := Nat.exists_eq_succ_of_ne_zero (Nat.ne_zero_of_lt hshort)
    simp only [draw, hnext, hget, ih (Nat.lt_of_succ_lt_succ hshort) hend]

/-- A full run makes a batch, and the source goes on. -/
theorem nextBatch_full (h : source.Gives s run s') (hfull : run.length = size) (hsize : 0 < size)
    (hbatch : RecordBatch.ofRows schema run = .ok batch) :
    nextBatch ⟨schema, size, false⟩ source s = (.ok (some batch), ⟨schema, size, false⟩, s') := by
  have hdraw := draw_of_gives h
  rw [hfull] at hdraw
  have hne : run.isEmpty = false := by
    rw [List.isEmpty_eq_false_iff, ← List.length_pos_iff, hfull]
    exact hsize
  simp [nextBatch, hdraw, hne, hbatch, Except.map, Except.mapError]

/-- A shorter run makes the last batch. -/
theorem nextBatch_short (h : source.Exhausts s run e) (hne : run ≠ []) (hshort : run.length < size)
    (hbatch : RecordBatch.ofRows schema run = .ok batch) :
    nextBatch ⟨schema, size, false⟩ source s =
      (.ok (some batch), ⟨schema, size, true⟩, source.close e) := by
  have hempty : run.isEmpty = false := List.isEmpty_eq_false_iff.mpr hne
  simp [nextBatch, draw_of_exhausts h hshort, hempty, hbatch, Except.map, Except.mapError]

/-- Without rows there is no batch. -/
theorem nextBatch_nil (h : source.Exhausts s [] e) (hsize : 0 < size) :
    nextBatch ⟨schema, size, false⟩ source s =
      (.ok none, ⟨schema, size, true⟩, source.close e) := by
  simp [nextBatch, draw_of_exhausts h hsize]

theorem answers_succ {b b' : Batcher} {answer : Except ScanError (Option RecordBatch)}
    (h : b.nextBatch source s = (answer, b', s')) (count : Nat) :
    b.answers source s (count + 1) =
      (answer :: (b'.answers source s' count).1, (b'.answers source s' count).2) := by
  rw [answers, h]

/-- Behind the end there is no batch, and the source is left alone. -/
theorem answers_of_done (count : Nat) : answers ⟨schema, size, true⟩ source s count =
    ((List.range count).map fun _ => .ok none, ⟨schema, size, true⟩, s) := by
  induction count with
  | zero => rfl
  | succ count ih =>
    have hnext : nextBatch ⟨schema, size, true⟩ source s =
        (.ok none, ⟨schema, size, true⟩, s) := rfl
    rw [answers_succ hnext, ih, List.range_succ_eq_map, List.map_cons, List.map_map]
    rfl

/-- **Every run makes an answer**, one call after the other, until there are no more. -/
theorem answers_of_cut {runs : List (List (List Scalar))} {batches : List RecordBatch}
    (hsize : 0 < size) (hcut : Store.Cut size rows runs) (h : source.Exhausts s rows e)
    (hbatches : schema.Makes runs batches) (count : Nat) :
    (answers ⟨schema, size, false⟩ source s count).1 =
        (List.range count).map (fun i => .ok batches[i]?) ∧
      (batches.length < count →
        (answers ⟨schema, size, false⟩ source s count).2 =
          (⟨schema, size, true⟩, source.close e)) := by
  -- A call takes one run, so the calls go along with the cut; what the source gives behind the run
  -- is cut like the rest of the rows.
  induction hcut generalizing s batches count with
  | nil =>
    cases hbatches
    cases count with
    | zero => exact ⟨rfl, nofun⟩
    | succ count =>
      rw [answers_succ (nextBatch_nil h hsize), answers_of_done, List.range_succ_eq_map,
        List.map_cons, List.map_map]
      exact ⟨rfl, fun _ => rfl⟩
  | short hne hshort =>
    cases hbatches with
    | cons hbatch hnil =>
    cases hnil
    cases count with
    | zero => exact ⟨rfl, nofun⟩
    | succ count =>
      rw [answers_succ (nextBatch_short h hne hshort hbatch), answers_of_done,
        List.range_succ_eq_map, List.map_cons, List.map_map]
      exact ⟨rfl, fun _ => rfl⟩
  | full hfull hrest ih =>
    cases hbatches with
    | cons hbatch hbatches =>
    cases count with
    | zero => exact ⟨rfl, nofun⟩
    | succ count =>
      obtain ⟨s', hrun, hrows⟩ := h.exists_of_append
      obtain ⟨hanswers, hleft⟩ := ih hrows hbatches count
      rw [answers_succ (nextBatch_full hrun hfull hsize hbatch), List.range_succ_eq_map,
        List.map_cons, List.map_map, hanswers]
      exact ⟨rfl, fun hcount => hleft (Nat.lt_of_succ_lt_succ hcount)⟩

end Batcher

/-- **The batches of a source.**  A source gives some rows, of which each run makes a batch, and
then says that there are no more.  Then the batches hold these rows, one after the other; none of
them is empty or greater than the size, and none but the last is smaller.  Calls for the next batch
are answered with one batch after the other, and then with none, for good.  By then the source has
been asked for each row and once more, and has been closed once. -/
theorem batches_of_source {σ : Type} (source : RowSource σ) (s e : σ) (rows : List (List Scalar))
    (schema : Schema) (size : Nat) (h : source.Exhausts s rows e)
    (hfit : ∀ run, run <:+: rows → run ≠ [] → ∃ batch, RecordBatch.ofRows schema run = .ok batch) :
    ∃ batches : List RecordBatch,
      schema.Makes (Store.chunks (max size 1) rows) batches ∧
      (batches.flatMap RecordBatch.rows).map some = rows.map schema.hold? ∧
      (∀ batch ∈ batches, 0 < batch.rowCount ∧ batch.rowCount ≤ max size 1) ∧
      (∀ batch ∈ batches.dropLast, batch.rowCount = max size 1) ∧
      ∀ count,
        ((Batcher.new schema size).answers source s count).1 =
          (List.range count).map (fun i => .ok batches[i]?) ∧
        (batches.length < count →
          ((Batcher.new schema size).answers source.logged (s, []) count).2.2 =
            (source.close e, .replicate (rows.length + 1) .next ++ [.close])) := by
  have hsize : 0 < max size 1 := Nat.lt_of_lt_of_le Nat.one_pos (Nat.le_max_right size 1)
  have hcut := Store.cut_chunks hsize rows
  have hruns : ∀ run ∈ Store.chunks (max size 1) rows,
      ∃ batch, RecordBatch.ofRows schema run = .ok batch := by
    intro run hrun
    refine hfit run ?_ (List.length_pos_iff.mp (hcut.length_mem hsize run hrun).1)
    rw [← hcut.flatten]
    exact List.infix_of_mem_flatten hrun
  obtain ⟨batches, hbatches⟩ := Schema.exists_makes hruns
  have hcounts := hbatches.map_rowCount
  refine ⟨batches, hbatches, ?_, ?_, ?_, ?_⟩
  · rw [hbatches.map_some_rows, hcut.flatten]
  · rw [← List.forall_mem_map (P := fun n => 0 < n ∧ n ≤ max size 1), hcounts]
    exact List.forall_mem_map.mpr (hcut.length_mem hsize)
  · rw [← List.forall_mem_map (P := fun n => n = max size 1), List.map_dropLast, hcounts,
      ← List.map_dropLast]
    exact List.forall_mem_map.mpr hcut.length_dropLast
  · intro count
    refine ⟨(Batcher.answers_of_cut hsize hcut h hbatches count).1, fun hcount => ?_⟩
    -- The record is part of the state of a source, so the same lemma says what is in it.
    have hleft := (Batcher.answers_of_cut hsize hcut (h.logged []) hbatches count).2 hcount
    rw [Batcher.new, hleft]
    rfl

/-- A store with three albums. -/
def shelfStore : Store :=
  let layout : TableLayout :=
    { columns := [⟨"id", .optional (.int .int32)⟩, ⟨"title", .text⟩]
      primaryKey := ["id"]
      indexes := []
      properties := .empty
      partitions := [] }
  let s := ((Store.new "/local").createTable "/local/albums" layout).2
  (s.insertRows "/local/albums" [[.int .int32 3, .text "Blue"], [.null, .text "Hejira"],
    [.int .int32 5, .text "Mingus"]]).2

def shelfRows : List (List Scalar) :=
  [[.null, .utf8 "Hejira"], [.int .int32 3, .utf8 "Blue"], [.int .int32 5, .utf8 "Mingus"]]

/-- A reader of the albums, two of which are a batch. -/
theorem batches_of_source_albums :
    ∃ batches : List RecordBatch,
      (batches.flatMap RecordBatch.rows).map some = shelfRows.map some ∧ batches.length = 2 ∧
      ((Batcher.new albumShard.plan.outSchema 2).answers Reader.source
        (Reader.new albumShard 60, shelfStore) 4).1 =
          [.ok batches[0]?, .ok batches[1]?, .ok none, .ok none] ∧
      ((Batcher.new albumShard.plan.outSchema 2).answers Reader.source.logged
        ((Reader.new albumShard 60, shelfStore), []) 4).2.2.2 =
          [.next, .next, .next, .next, .close] := by
  have hrows : ((Reader.new albumShard 60).takeRows shelfStore 4).1 = shelfRows := by decide +kernel
  have hend : ((Reader.new albumShard 60).takeRows shelfStore 4).2.1 = .ended := by decide +kernel
  have hsource := Reader.exhausts_of_takeRows (Prod.ext hrows (Prod.ext hend rfl))
  have hfit : ∀ run ∈ shelfRows.tails.flatMap List.inits, run ≠ [] →
      (RecordBatch.ofRows albumShard.plan.outSchema run).toOption.isSome := by decide +kernel
  have hruns : ∀ run, run <:+: shelfRows → run ≠ [] →
      ∃ batch, RecordBatch.ofRows albumShard.plan.outSchema run = .ok batch := by
    intro run hinfix hne
    obtain ⟨behind, hprefix, hsuffix⟩ := List.infix_iff_prefix_suffix.mp hinfix
    have hmem : run ∈ shelfRows.tails.flatMap List.inits := List.mem_flatMap.mpr
      ⟨behind, (List.mem_tails behind shelfRows).mpr hsuffix,
        (List.mem_inits run behind).mpr hprefix⟩
    have hbatch := hfit run hmem hne
    cases hrun : RecordBatch.ofRows albumShard.plan.outSchema run with
    | error e =>
      rw [hrun] at hbatch
      cases hbatch
    | ok batch => exact ⟨batch, rfl⟩
  obtain ⟨batches, hmakes, hhold, -, -, hanswers⟩ := batches_of_source Reader.source _ _ shelfRows
    albumShard.plan.outSchema 2 hsource hruns
  have hlength : batches.length = 2 := hmakes.length_eq.symm.trans (by decide +kernel)
  obtain ⟨hfirst, hlast⟩ := hanswers 4
  refine ⟨batches, hhold.trans (by decide +kernel), hlength, hfirst.trans ?_, ?_⟩
  · have hnone : ∀ i, 2 ≤ i → batches[i]? = none := fun i hi =>
      List.getElem?_eq_none (hlength ▸ hi)
    rw [show List.range 4 = [0, 1, 2, 3] from rfl]
    simp only [List.map_cons, List.map_nil, hnone 2 (by decide), hnone 3 (by decide)]
  · rw [hlast (by omega)]
    rfl

end ShardScan
