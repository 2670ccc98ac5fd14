/-!
Retry policies: `maxAttempts` attempts, at least one, with a fixed or doubling delay capped at
`maxDelay`, in saturating nanoseconds. `RetryPolicy.run` stops at a success, at an error it stops
at, or at the last attempt.
-/

namespace TableSync

def nanosPerSecond : Nat := 1000000000

def maxDuration : Nat := (Nat.pow 2 64 - 1) * nanosPerSecond + (nanosPerSecond - 1)

def millis (n : Nat) : Nat := n * 1000000

def seconds (n : Nat) : Nat := n * nanosPerSecond

def saturatingMul (d k : Nat) : Nat := min (d * k) maxDuration

inductive Backoff where
  | fixed
  | exponential
  deriving DecidableEq, Repr

def Backoff.name : Backoff → String
  | .fixed => "fixed"
  | .exponential => "exponential"

def Backoff.debugName : Backoff → String
  | .fixed => "Fixed"
  | .exponential => "Exponential"

/-- A retry policy. -/
structure RetryPolicy where
  maxAttempts : Nat
  baseDelay : Nat
  maxDelay : Nat
  backoff : Backoff
  deriving DecidableEq, Repr

namespace RetryPolicy

def make (maxAttempts baseDelay maxDelay : Nat) (backoff : Backoff) : RetryPolicy :=
  { maxAttempts := max maxAttempts 1, baseDelay, maxDelay := max maxDelay baseDelay, backoff }

def fixed (maxAttempts delay : Nat) : RetryPolicy := make maxAttempts delay delay .fixed

def exponential (maxAttempts baseDelay : Nat) : RetryPolicy :=
  let shift := min (maxAttempts - 2) 16
  make maxAttempts baseDelay (saturatingMul baseDelay (Nat.pow 2 shift)) .exponential

def forAuth : RetryPolicy := fixed 5 (seconds 5)

def forPageFetch : RetryPolicy := exponential 5 (seconds 120)

def forBatch : RetryPolicy := fixed 5 (seconds 5)

def allowsRetry (p : RetryPolicy) (attempt : Nat) : Bool := attempt + 1 < p.maxAttempts

def backoffDelay (p : RetryPolicy) (attempt : Nat) : Nat :=
  if p.baseDelay == 0 then 0
  else
    match p.backoff with
    | .fixed => p.baseDelay
    | .exponential => min (saturatingMul p.baseDelay (Nat.pow 2 (min attempt 16))) p.maxDelay

end RetryPolicy

inductive Disposition where
  | retry
  | stop
  deriving DecidableEq, Repr

inductive RetryError (ε : Type) where
  | fatal (error : ε)
  | attemptsExceeded (attempts : Nat) (last : ε)
  deriving Repr

def RetryError.last {ε : Type} : RetryError ε → ε
  | .fatal e => e
  | .attemptsExceeded _ e => e

namespace RetryPolicy

/-- Attempts from the zero-based `attempt` on, with `spare` more allowed after this one;
`pause a` runs after the failed attempt `a`, before the next. -/
def runFrom {m : Type → Type} [Monad m] {ε α : Type} (op : m (Except ε α))
    (classify : ε → Disposition) (spare attempt : Nat) (pause : Nat → m Unit := fun _ => pure ()) :
    m (Except (RetryError ε) α) := do
  match ← op with
  | .ok v => pure (.ok v)
  | .error e =>
    match classify e with
    | .stop => pure (.error (.fatal e))
    | .retry =>
      match spare with
      | 0 => pure (.error (.attemptsExceeded (attempt + 1) e))
      | spare + 1 =>
        pause attempt
        runFrom op classify spare (attempt + 1) pause

def run {m : Type → Type} [Monad m] {ε α : Type} (p : RetryPolicy) (op : m (Except ε α))
    (classify : ε → Disposition) (sleep : Nat → m Unit := fun _ => pure ()) :
    m (Except (RetryError ε) α) :=
  runFrom op classify (p.maxAttempts - 1) 0 fun attempt => sleep (p.backoffDelay attempt)

end RetryPolicy

end TableSync
