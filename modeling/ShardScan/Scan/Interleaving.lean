import ShardScan.Scan.Reader

/-!
# Interleavings of a producer and a reader

A reader and its producer run side by side.  A call of the reader is a sequence
of small steps, and between any two of them the producer may take any number of
steps of its own.  The stream is not known here: it may hand over any blocks and
end with any status, at any time.

Beside the two sides a world keeps what has been seen of them: the blocks that
the stream handed over, the status it ended with, and the calls that were
answered.

## Main definitions

* `ScanWorld` — a reader with its producer, the place of the current call, and what has been seen.
* `ScanStep` — one step of either side.
* `ScanRun` — any number of steps.
-/

namespace ShardScan

/-- Where a reader is in its current call. -/
inductive Consumer
  /-- Between two calls. -/
  | idle
  /-- In a call for the next row, about to take an item. -/
  | fetching
  /-- In a call for the next row, with what was taken: nothing if no item can come any more. -/
  | holding (item : Option QueueItem)
  /-- In the call that closes it, and the scan is not yet called off. -/
  | closing
  /-- In the call that closes it, and throwing items away until the producer has ended. -/
  | draining

/-- A call that was answered. -/
inductive Call
  /-- A call for the next row, with the answer and what the current row then is. -/
  | next (answer : Except ScanError Bool) (row : Except ScanError (List Scalar))
  | close

/-- A reader and its producer side by side. -/
structure ScanWorld where
  reader : Reader
  consumer : Consumer
  /-- The blocks that the stream has handed over. -/
  handed : List Block
  /-- How the stream has ended. -/
  status : Option Status
  /-- The calls so far. -/
  log : List Call

namespace ScanWorld

/-- A new reader of a shard, of which nothing has been seen. -/
def start (shard : Shard) (timeoutSeconds : Word .u64) : ScanWorld :=
  ⟨.new shard timeoutSeconds, .idle, [], none, []⟩

def feed (w : ScanWorld) : Feed := w.reader.feed

/-- The world with another feed. -/
def withFeed (w : ScanWorld) (feed : Feed) : ScanWorld :=
  { w with reader := { w.reader with feed := feed } }

/-- The current call is answered. -/
def answered (w : ScanWorld) (answer : Except ScanError Bool) (r : Reader) : ScanWorld :=
  { w with reader := r, consumer := .idle, log := w.log ++ [.next answer r.get] }

end ScanWorld

namespace Reader

/-- The reader with a scan that was opened for it. -/
def opened (r : Reader) (scan : OpenScan) : Reader :=
  { r with feed := { r.feed with state := .prepared, producer := .streaming },
           scan := some scan, cursor := none }

end Reader

/-- One step of the producer or of the reader. -/
inductive ScanStep : ScanWorld → ScanWorld → Prop
  -- Steps of the producer.
  /-- The stream hands over a block, which the producer offers. -/
  | hand {w : ScanWorld} {b : Block} {f : Feed} (hproducer : w.feed.producer = .streaming)
    (hstep : w.feed.step? (.delivers b) = some f) :
    ScanStep w { w.withFeed f with handed := w.handed ++ [b] }
  /-- The stream ends. -/
  | stop {w : ScanWorld} {status : Status} {f : Feed} (hproducer : w.feed.producer = .streaming)
    (hstep : w.feed.step? (.ends status) = some f) :
    ScanStep w { w.withFeed f with status := some status }
  /-- The producer offers again what has to wait, takes in the status or offers the marker. -/
  | proceed {w : ScanWorld} {f : Feed} (hstep : w.feed.step? .waits = some f) :
    ScanStep w (w.withFeed f)
  /-- What has to wait is sent, though the scan may have been called off during the wait. -/
  | send {w : ScanWorld} {item : QueueItem} (hproducer : w.feed.producer = .waiting item)
    (hopen : w.feed.queue.receiverOpen = true) (hroom : w.feed.queue.isFull = false) :
    ScanStep w (w.withFeed (w.feed.enqueue item))
  /-- The stream is told to stop, and ends with any status. -/
  | breakOff {w : ScanWorld} {b : Block} {status : Status}
    (hproducer : w.feed.producer = .waiting (.block b))
    (hoff : w.feed.cancelled = true ∨ w.feed.queue.receiverOpen = false) :
    ScanStep w { w.withFeed (w.feed.endStream status) with status := some status }
  -- The reader is prepared, on its own or by the first call for a row.
  | prepare {w : ScanWorld} {scan : OpenScan} (hidle : w.consumer = .idle)
    (hstate : w.reader.state = .created) : ScanStep w { w with reader := w.reader.opened scan }
  | prepareFails {w : ScanWorld} {cause : StoreError} (hidle : w.consumer = .idle)
    (hstate : w.reader.state = .created) :
    ScanStep w { w with reader := (w.reader.failSetup cause).2 }
  | firstNext {w : ScanWorld} {scan : OpenScan} (hidle : w.consumer = .idle)
    (hrow : w.reader.advance? = none) (hstate : w.reader.state = .created) :
    ScanStep w { w with reader := w.reader.opened scan, consumer := .fetching }
  | firstNextFails {w : ScanWorld} {cause : StoreError} (hidle : w.consumer = .idle)
    (hrow : w.reader.advance? = none) (hstate : w.reader.state = .created) :
    ScanStep w (w.answered (.error (w.reader.failSetup cause).1) (w.reader.failSetup cause).2)
  -- Other calls for the next row.
  /-- The block has another row. -/
  | advance {w : ScanWorld} {r : Reader} (hidle : w.consumer = .idle)
    (hrow : w.reader.advance? = some r) : ScanStep w (w.answered (.ok true) r)
  | fetch {w : ScanWorld} (hidle : w.consumer = .idle) (hrow : w.reader.advance? = none)
    (hstate : w.reader.state = .prepared) : ScanStep w { w with consumer := .fetching }
  | refuse {w : ScanWorld} (hidle : w.consumer = .idle) (hrow : w.reader.advance? = none)
    (hstate : w.reader.state = .failed) :
    ScanStep w (w.answered (.error w.reader.latchedIssue) w.reader)
  | noMore {w : ScanWorld} (hidle : w.consumer = .idle) (hrow : w.reader.advance? = none)
    (hstate : w.reader.state = .finished) : ScanStep w (w.answered (.ok false) w.reader)
  /-- An item is taken from the queue, or no item can come. -/
  | take {w : ScanWorld} {item : Option QueueItem} {queue : Queue}
    (hfetching : w.consumer = .fetching) (htake : w.feed.queue.take = some (item, queue)) :
    ScanStep w { w.withFeed { w.feed with queue := queue } with consumer := .holding item }
  /-- What was taken answers the call. -/
  | answer {w : ScanWorld} {item : Option QueueItem} {answer : Except ScanError Bool} {r : Reader}
    (hholding : w.consumer = .holding item) (haccept : w.reader.accept item = .answers answer r) :
    ScanStep w (w.answered answer r)
  /-- What was taken is a block without rows. -/
  | goOn {w : ScanWorld} {item : Option QueueItem} {r : Reader}
    (hholding : w.consumer = .holding item) (haccept : w.reader.accept item = .goesOn r) :
    ScanStep w { w with reader := r, consumer := .fetching }
  -- The reader is closed.
  | close {w : ScanWorld} (hidle : w.consumer = .idle) :
    ScanStep w { w.withFeed w.feed.finish with consumer := .closing, log := w.log ++ [.close] }
  /-- The scan is called off. -/
  | cancel {w : ScanWorld} (hclosing : w.consumer = .closing) :
    ScanStep w { w.withFeed w.feed.cancel with consumer := .draining }
  /-- What is queued is thrown away. -/
  | drain {w : ScanWorld} (hdraining : w.consumer = .draining) :
    ScanStep w (w.withFeed { w.feed with queue := w.feed.queue.drain.2 })
  /-- There is no producer any more, and the reader gives up the queue. -/
  | closed {w : ScanWorld} (hdraining : w.consumer = .draining)
    (hproducer : w.feed.producer = .idle ∨ w.feed.producer = .exited) :
    ScanStep w
      { w with
        reader :=
          { w.reader with
            feed := { w.feed with queue := w.feed.queue.closeReceiver }
            scan := none
            cursor := none }
        consumer := .idle }

/-- Any number of steps. -/
inductive ScanRun : ScanWorld → ScanWorld → Prop
  | refl (w : ScanWorld) : ScanRun w w
  | tail {w w' w'' : ScanWorld} : ScanRun w w' → ScanStep w' w'' → ScanRun w w''

end ShardScan
