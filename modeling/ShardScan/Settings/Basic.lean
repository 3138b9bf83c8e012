import ShardScan.Word

/-!
# Settings

What a deployment can tune: where and what to log, and the defaults and
timings of scans.
-/

namespace ShardScan

/-- Where log lines go and how much is logged. -/
structure LoggingSettings where
  directory : String
  stdoutLevel : String
  fileLevel : String
deriving DecidableEq

/-- Defaults and timings of scans. -/
structure ScanSettings where
  /-- Blocks that the queue between a shard's producer and its reader holds. -/
  queueDepth : Word .u64
  /-- The life of the session that a reader holds, in seconds. -/
  sessionSeconds : Word .u64
  /-- The time limit on a range read, in seconds. -/
  requestTimeoutSeconds : Word .u64
  /-- How often blocked offers and takes look again, in milliseconds. -/
  pollIntervalMillis : Word .u64
  /-- The pause between two drains of a queue that is being closed, in milliseconds. -/
  drainPauseMillis : Word .u64
  /-- Catalogs list the indexes of tables. -/
  listIndexes : Bool
deriving DecidableEq

/-- All settings. -/
structure Settings where
  logging : LoggingSettings
  scan : ScanSettings
deriving DecidableEq

namespace Settings

/-- The settings where nothing else is said. -/
def builtin : Settings where
  logging := ⟨"logs", "info", "debug"⟩
  scan :=
    { queueDepth := 3
      sessionSeconds := 30
      requestTimeoutSeconds := 28800
      pollIntervalMillis := 100
      drainPauseMillis := 20
      listIndexes := false }

end Settings

/-- The timings of one reader: two intervals in milliseconds and a limit in seconds. -/
structure ReaderTimings where
  pollIntervalMillis : Int
  drainPauseMillis : Int
  requestTimeoutSeconds : Word .u64

namespace ScanSettings

/-- The timings that settings ask for; an interval is a millisecond at least. -/
def timings (s : ScanSettings) : ReaderTimings where
  pollIntervalMillis := max s.pollIntervalMillis.val 1
  drainPauseMillis := max s.drainPauseMillis.val 1
  requestTimeoutSeconds := s.requestTimeoutSeconds

end ScanSettings
end ShardScan
