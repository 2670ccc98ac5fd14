/-!
Eight unsigned 64-bit counters shared by every reader and writer of one context; adding to one wraps
around.
-/

namespace TableSync

inductive Counter where
  | recordsRead
  | recordsWritten
  | recordsSkipped
  | pagesFetched
  | batchesSubmitted
  | batchRounds
  | batchRetries
  | failureCount
  deriving DecidableEq, Repr

namespace Counter

def all : List Counter :=
  [.recordsRead, .recordsWritten, .recordsSkipped, .pagesFetched, .batchesSubmitted, .batchRounds,
    .batchRetries, .failureCount]

def name : Counter → String
  | .recordsRead => "records_read"
  | .recordsWritten => "records_written"
  | .recordsSkipped => "records_skipped"
  | .pagesFetched => "pages_fetched"
  | .batchesSubmitted => "batches_submitted"
  | .batchRounds => "batch_rounds"
  | .batchRetries => "batch_retries"
  | .failureCount => "failure_count"

def ofName? (name : String) : Option Counter := all.find? (·.name == name)

end Counter

/-- The values of the counters. -/
structure Metrics where
  recordsRead : Nat
  recordsWritten : Nat
  recordsSkipped : Nat
  pagesFetched : Nat
  batchesSubmitted : Nat
  batchRounds : Nat
  batchRetries : Nat
  failureCount : Nat
  deriving DecidableEq, Repr

namespace Metrics

def zero : Metrics := ⟨0, 0, 0, 0, 0, 0, 0, 0⟩

def get (m : Metrics) : Counter → Nat
  | .recordsRead => m.recordsRead
  | .recordsWritten => m.recordsWritten
  | .recordsSkipped => m.recordsSkipped
  | .pagesFetched => m.pagesFetched
  | .batchesSubmitted => m.batchesSubmitted
  | .batchRounds => m.batchRounds
  | .batchRetries => m.batchRetries
  | .failureCount => m.failureCount

def wrappingAdd (a n : Nat) : Nat := (a + n) % Nat.pow 2 64

def add (m : Metrics) (c : Counter) (n : Nat) : Metrics :=
  match c with
  | .recordsRead => { m with recordsRead := wrappingAdd m.recordsRead n }
  | .recordsWritten => { m with recordsWritten := wrappingAdd m.recordsWritten n }
  | .recordsSkipped => { m with recordsSkipped := wrappingAdd m.recordsSkipped n }
  | .pagesFetched => { m with pagesFetched := wrappingAdd m.pagesFetched n }
  | .batchesSubmitted => { m with batchesSubmitted := wrappingAdd m.batchesSubmitted n }
  | .batchRounds => { m with batchRounds := wrappingAdd m.batchRounds n }
  | .batchRetries => { m with batchRetries := wrappingAdd m.batchRetries n }
  | .failureCount => { m with failureCount := wrappingAdd m.failureCount n }

def snapshot (m : Metrics) : List (String × Nat) := Counter.all.map fun c => (c.name, m.get c)

end Metrics

end TableSync
