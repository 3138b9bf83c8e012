import ShardScan.Batch.Basic
import ShardScan.Scan.Reader

/-!
# Batchers

A batcher draws rows from a source and hands them over in batches of one size,
the last of which may be smaller.  It closes the source at its end and at a
failure of it.

## Main definitions

* `RowSource` — what rows can be drawn from.
* `Batcher.nextBatch` — the next batch, none behind the last.
* `Batcher.takeBatches` — the batches that are left, and the failures between them.
* `Reader.source` — a reader and its store as a source of rows.
-/

namespace ShardScan

/-- What rows can be drawn from. -/
structure RowSource (σ : Type) where
  /-- Moves to the next row; false behind the last. -/
  next : σ → Except ScanError Bool × σ
  /-- The current row. -/
  get : σ → Except ScanError (List Scalar)
  /-- Releases what the source holds. -/
  close : σ → σ

/-- A batcher over some source. -/
structure Batcher where
  schema : Schema
  /-- The rows in a batch; one at least. -/
  size : Nat
  /-- The source has ended. -/
  done : Bool

/-- Rows drawn from a source, and whether it ended behind them. -/
structure Drawn where
  rows : List (List Scalar)
  ended : Bool

namespace Batcher

/-- A batcher of a schema with a number of rows in a batch; none counts as one. -/
def new (schema : Schema) (size : Nat) : Batcher := ⟨schema, max size 1, false⟩

variable {σ : Type}

/-- Draws some rows, as far as there are so many.  Room for all of them is set aside before the first
one comes; a number of rows that no memory has room for, where that fails, is left out here. -/
def draw (source : RowSource σ) : Nat → σ → Except ScanError Drawn × σ
  | 0, s => (.ok ⟨[], false⟩, s)
  | count + 1, s =>
    match source.next s with
    | (.error e, s) => (.error e, s)
    | (.ok false, s) => (.ok ⟨[], true⟩, s)
    | (.ok true, s) =>
      match source.get s with
      | .error e => (.error e, s)
      | .ok row =>
        match draw source count s with
        | (.error e, s) => (.error e, s)
        | (.ok drawn, s) => (.ok { drawn with rows := row :: drawn.rows }, s)

/-- The next batch; none behind the last. -/
def nextBatch (b : Batcher) (source : RowSource σ) (s : σ) :
    Except ScanError (Option RecordBatch) × Batcher × σ :=
  if b.done then (.ok none, b, s)
  else
    match draw source b.size s with
    | (.error e, s) => (.error e, { b with done := true }, source.close s)
    | (.ok drawn, s) =>
      let s := if drawn.ended then source.close s else s
      let b := { b with done := drawn.ended }
      if drawn.rows.isEmpty then (.ok none, b, s)
      else ((RecordBatch.ofRows b.schema drawn.rows).map some |>.mapError .batch, b, s)

/-- The next batches or failures up to the end, at most `count` of them. -/
def takeBatches (b : Batcher) (source : RowSource σ) (s : σ) :
    (count : Nat) → List (Except ScanError RecordBatch) × Batcher × σ
  | 0 => ([], b, s)
  | count + 1 =>
    match b.nextBatch source s with
    | (.ok none, b, s) => ([], b, s)
    | (.ok (some batch), b, s) =>
      let (items, rest) := b.takeBatches source s count
      (.ok batch :: items, rest)
    | (.error e, b, s) =>
      let (items, rest) := b.takeBatches source s count
      (.error e :: items, rest)

end Batcher

/-- A reader and its store as a source of rows.  A thread can be had for its producer, and a call
without an outcome counts as a failure. -/
def Reader.source : RowSource (Reader × Store) where
  next := fun (r, s) =>
    match r.next s (.ok ()) with
    | some (answer, r, s) => (answer, r, s)
    | none => (.error (.batch .stalled), r, s)
  get := fun (r, _) => r.get
  close := fun (r, s) => r.close s

end ShardScan
