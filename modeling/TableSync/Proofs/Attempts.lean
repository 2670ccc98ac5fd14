import TableSync.Proofs.PageRead

/-!
Runs of a retry policy over a fixed sequence of outcomes, with every call and sleep recorded: how
many calls a run makes, which delays it sleeps and how it ends.
-/

namespace TableSync

inductive Activity where
  | call
  | sleep (delay : Nat)
  deriving DecidableEq, Repr

abbrev Observed := StateM (List Activity)

def Observed.exec {β : Type} (x : Observed β) (log : List Activity) : β × List Activity :=
  (x.run log).run

namespace Observed

variable {β γ : Type}

@[simp] theorem exec_pure (b : β) (log : List Activity) : (pure b : Observed β).exec log = (b, log) := rfl

@[simp] theorem exec_bind (x : Observed β) (f : β → Observed γ) (log : List Activity) :
    (x >>= f).exec log = (f (x.exec log).1).exec (x.exec log).2 := rfl

end Observed

def answering {ε α : Type} (outcomes : Nat → Except ε α) : Observed (Except ε α) :=
  modifyGet fun log => (outcomes (log.count .call), log ++ [.call])

def sleeping (delay : Nat) : Observed Unit :=
  modify fun log => log ++ [.sleep delay]

@[simp] theorem answering_exec {ε α : Type} (outcomes : Nat → Except ε α) (log : List Activity) :
    (answering outcomes).exec log = (outcomes (log.count .call), log ++ [.call]) := rfl

@[simp] theorem sleeping_exec (delay : Nat) (log : List Activity) :
    (sleeping delay).exec log = ((), log ++ [.sleep delay]) := rfl

namespace RetryPolicy

def activities (p : RetryPolicy) : Nat → Nat → List Activity
  | _, 0 => [.call]
  | attempt, retried + 1 => .call :: .sleep (p.backoffDelay attempt) :: p.activities (attempt + 1) retried

section Steps

variable {ε α : Type} {op : Observed (Except ε α)} {classify : ε → Disposition}
  {pause : Nat → Observed Unit}

theorem runFrom_exec_final {spare attempt : Nat} {log log₁ : List Activity} {last : Except ε α}
    (ranOnce : op.exec log = (last, log₁)) (final : ∀ e, last = .error e → classify e = .stop) :
    (runFrom op classify spare attempt pause).exec log = (last.mapError .fatal, log₁) := by
  rw [runFrom]
  simp only [Observed.exec_bind, ranOnce]
  cases last with
  | ok v => rfl
  | error e =>
    simp only [final e rfl]
    rfl

theorem runFrom_exec_exhausted {attempt : Nat} {log log₁ : List Activity} {e : ε}
    (ranOnce : op.exec log = (.error e, log₁)) (retried : classify e = .retry) :
    (runFrom op classify 0 attempt pause).exec log = (.error (.attemptsExceeded (attempt + 1) e), log₁) := by
  rw [runFrom]
  simp only [Observed.exec_bind, ranOnce, retried]
  rfl

theorem runFrom_exec_retry {spare attempt : Nat} {log log₁ : List Activity} {e : ε}
    (ranOnce : op.exec log = (.error e, log₁)) (retried : classify e = .retry) :
    (runFrom op classify (spare + 1) attempt pause).exec log =
      (runFrom op classify spare (attempt + 1) pause).exec ((pause attempt).exec log₁).2 := by
  rw [runFrom]
  simp only [Observed.exec_bind, ranOnce, retried]

theorem Ends.spent {attempt : Nat} {e : ε} (retried : classify e = .retry) :
    Ends classify 0 attempt 0 (.error e) (.error (.attemptsExceeded (attempt + 1) e) : Except (RetryError ε) α) := by
  refine ⟨?_, ?_, ?_⟩
  · rintro v ⟨⟩
  · rintro e' ⟨⟩ stopped
    rw [retried] at stopped
    cases stopped
  · rintro e' ⟨⟩ -
    exact ⟨rfl, rfl⟩

end Steps

section Observation

variable {ε α : Type} (p : RetryPolicy) (classify : ε → Disposition) (outcomes : Nat → Except ε α)

/-- A run from `attempt`, with `spare` attempts to spare, that retried `retried` attempts and
recorded `observed` after `log`. -/
structure Observation (spare attempt retried : Nat) (log : List Activity)
    (observed : Except (RetryError ε) α × List Activity) : Prop where
  bound : retried ≤ spare
  failed : ∀ i, i < retried → ∃ e, outcomes (attempt + i) = .error e ∧ classify e = .retry
  stopped : retried < spare → ¬∃ e, outcomes (attempt + retried) = .error e ∧ classify e = .retry
  recorded : observed.2 = log ++ p.activities attempt retried
  ends : Ends classify spare attempt retried (outcomes (attempt + retried)) observed.1

abbrev observedFrom (spare attempt : Nat) : Observed (Except (RetryError ε) α) :=
  runFrom (answering outcomes) classify spare attempt fun a => sleeping (p.backoffDelay a)

theorem Observation.first {spare attempt : Nat} {log : List Activity}
    (counted : log.count .call = attempt)
    (retried : ¬∃ e, outcomes attempt = .error e ∧ classify e = .retry) :
    Observation p classify outcomes spare attempt 0 log ((observedFrom p classify outcomes spare attempt).exec log) := by
  have ranOnce : (answering outcomes).exec log = (outcomes attempt, log ++ [.call]) := by
    rw [answering_exec, counted]
  have final := final_of_not_retried retried
  rw [runFrom_exec_final ranOnce final]
  refine ⟨Nat.zero_le spare, fun i below => absurd below (Nat.not_lt_zero i), fun _ => retried, rfl, ?_⟩
  exact Ends.final final

theorem observedFrom_observation (spare : Nat) :
    ∀ attempt log, log.count .call = attempt →
      ∃ retried, Observation p classify outcomes spare attempt retried log
        ((observedFrom p classify outcomes spare attempt).exec log) := by
  induction spare with
  | zero =>
    intro attempt log counted
    by_cases retried : ∃ e, outcomes attempt = .error e ∧ classify e = .retry
    · obtain ⟨e, failed, retry⟩ := retried
      have ranOnce : (answering outcomes).exec log = (.error e, log ++ [.call]) := by
        rw [answering_exec, counted, failed]
      refine ⟨0, ?_⟩
      rw [observedFrom, runFrom_exec_exhausted ranOnce retry]
      refine ⟨Nat.le_refl 0, fun i below => absurd below (Nat.not_lt_zero i),
        fun below => absurd below (Nat.lt_irrefl 0), rfl, ?_⟩
      rw [Nat.add_zero, failed]
      exact Ends.spent retry
    · exact ⟨0, Observation.first p classify outcomes counted retried⟩
  | succ spare ih =>
    intro attempt log counted
    by_cases retried : ∃ e, outcomes attempt = .error e ∧ classify e = .retry
    · obtain ⟨e, failed, retry⟩ := retried
      have ranOnce : (answering outcomes).exec log = (.error e, log ++ [.call]) := by
        rw [answering_exec, counted, failed]
      have slept : log ++ [.call] ++ [.sleep (p.backoffDelay attempt)] =
          log ++ [.call, .sleep (p.backoffDelay attempt)] := by
        simp
      have counted' : (log ++ [Activity.call, .sleep (p.backoffDelay attempt)]).count .call = attempt + 1 := by
        simp [counted]
      obtain ⟨later, rest⟩ := ih (attempt + 1) _ counted'
      have bound := rest.bound
      -- the rest of the run counts its attempts from the next one
      have shift : ∀ i, attempt + 1 + i = attempt + (i + 1) := fun i => by omega
      refine ⟨later + 1, ?_⟩
      rw [observedFrom, runFrom_exec_retry ranOnce retry, sleeping_exec, slept]
      refine ⟨by omega, ?_, ?_, ?_, ?_⟩
      · intro i below
        cases i with
        | zero => exact ⟨e, failed, retry⟩
        | succ i =>
          rw [← shift]
          exact rest.failed i (by omega)
      · intro below
        rw [← shift]
        exact rest.stopped (by omega)
      · rw [rest.recorded, activities, List.append_assoc]
        rfl
      · rw [← shift]
        exact rest.ends.later
    · exact ⟨0, Observation.first p classify outcomes counted retried⟩

end Observation

variable {ε α : Type}

/-- A run calls once per outcome up to the first that stops it, sleeps between the calls, and
ends with the last outcome or a report of every attempt. -/
theorem run_calls_and_sleeps (p : RetryPolicy) (atLeastOne : 1 ≤ p.maxAttempts)
    (classify : ε → Disposition) (outcomes : Nat → Except ε α) :
    let observed := (p.run (answering outcomes) classify sleeping).exec []
    ∃ k, 1 ≤ k ∧ k ≤ p.maxAttempts ∧
      (∀ i, i + 1 < k → ∃ e, outcomes i = .error e ∧ classify e = .retry) ∧
      (k < p.maxAttempts → ¬∃ e, outcomes (k - 1) = .error e ∧ classify e = .retry) ∧
      observed.2 = p.activities 0 (k - 1) ∧
      (∀ v, outcomes (k - 1) = .ok v → observed.1 = .ok v) ∧
      (∀ e, outcomes (k - 1) = .error e → classify e = .stop → observed.1 = .error (.fatal e)) ∧
      (∀ e, outcomes (k - 1) = .error e → classify e = .retry →
        k = p.maxAttempts ∧ observed.1 = .error (.attemptsExceeded p.maxAttempts e)) := by
  intro observed
  obtain ⟨retried, run⟩ :=
    observedFrom_observation p classify outcomes (p.maxAttempts - 1) 0 [] List.count_nil
  have last : retried + 1 - 1 = retried := Nat.add_sub_cancel retried 1
  have bound := run.bound
  refine ⟨retried + 1, by omega, by omega, ?_, ?_, ?_, ?_, ?_, ?_⟩
  · intro i below
    rw [← Nat.zero_add i]
    exact run.failed i (by omega)
  · intro below
    rw [last, ← Nat.zero_add retried]
    exact run.stopped (by omega)
  · rw [last]
    exact run.recorded
  · intro v finished
    rw [last, ← Nat.zero_add retried] at finished
    exact run.ends.ok v finished
  · intro e failed stopped
    rw [last, ← Nat.zero_add retried] at failed
    exact run.ends.stop e failed stopped
  · intro e failed retry
    rw [last, ← Nat.zero_add retried] at failed
    obtain ⟨spent, exhausted⟩ := run.ends.exhausted e failed retry
    refine ⟨by omega, ?_⟩
    have reported : 0 + retried + 1 = p.maxAttempts := by omega
    rw [← reported]
    exact exhausted

example :
    let observed := ((RetryPolicy.exponential 4 (millis 100)).run
      (answering fun i => if i < 2 then .error "busy" else (.ok "done" : Except String String))
      (fun _ => .retry) sleeping).exec []
    observed.1.toOption = some "done" ∧
      observed.2 = [.call, .sleep (millis 100), .call, .sleep (millis 200), .call] := by
  decide +kernel

theorem busy_twice_then_done :
    let p := RetryPolicy.exponential 4 (millis 100)
    let classify : String → Disposition := fun _ => .retry
    let outcomes : Nat → Except String String := fun i => if i < 2 then .error "busy" else .ok "done"
    let observed := (p.run (answering outcomes) classify sleeping).exec []
    1 ≤ p.maxAttempts ∧
      ∃ k, 1 ≤ k ∧ k ≤ p.maxAttempts ∧
        (∀ i, i + 1 < k → ∃ e, outcomes i = .error e ∧ classify e = .retry) ∧
        (k < p.maxAttempts → ¬∃ e, outcomes (k - 1) = .error e ∧ classify e = .retry) ∧
        observed.2 = p.activities 0 (k - 1) ∧
        (∀ v, outcomes (k - 1) = .ok v → observed.1 = .ok v) ∧
        (∀ e, outcomes (k - 1) = .error e → classify e = .stop → observed.1 = .error (.fatal e)) ∧
        (∀ e, outcomes (k - 1) = .error e → classify e = .retry →
          k = p.maxAttempts ∧ observed.1 = .error (.attemptsExceeded p.maxAttempts e)) :=
  ⟨by decide, run_calls_and_sleeps _ (by decide) _ _⟩

end RetryPolicy

end TableSync
