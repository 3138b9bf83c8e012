import ShardScan.Scan.Reader

/-!
# Rows taken from a reader

Several rows taken from a reader at once.

## Main definitions

* `RowsEnd` — why no more rows were taken.
* `Reader.takeRows` — the next rows, at most a number of them.
-/

namespace ShardScan

/-- Why no more rows were taken. -/
inductive RowsEnd
  /-- There are no more. -/
  | ended
  /-- There were as many as were asked for. -/
  | enough
  /-- The next one would have to be waited for, or its range does not come about. -/
  | waits
  | failed (e : ScanError)
deriving DecidableEq

/-- The next rows of a reader, at most `count` of them.  A thread can be had for its producer. -/
def Reader.takeRows (r : Reader) (s : Store) :
    (count : Nat) → List (List Scalar) × RowsEnd × Reader × Store
  | 0 => ([], .enough, r, s)
  | count + 1 =>
    match r.next s (.ok ()) with
    | none => ([], .waits, r, s)
    | some (.error e, r, s) => ([], .failed e, r, s)
    | some (.ok false, r, s) => ([], .ended, r, s)
    | some (.ok true, r, s) =>
      match r.get with
      | .error e => ([], .failed e, r, s)
      | .ok row =>
        let (rows, rest) := r.takeRows s count
        (row :: rows, rest)

end ShardScan
