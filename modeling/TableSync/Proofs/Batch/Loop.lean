import TableSync.Proofs.Batch.Round

/-!
The two loops of a batched write taken apart into their steps: every run of `roundsFrom` is some
`Rounds` then a `LoopEnd`, and every run of `submitFrom` some `Retries` then a last submission.
-/

namespace TableSync

namespace Coordinator

def cleared (c : Coordinator) : Coordinator :=
  { c with pending := [], order := [], resolved := [], skipped := [] }

theorem abort_exec (c : Coordinator) (ex : Exchange) : abort.exec c ex = (((), c.cleared), ex) := rfl

@[simp] theorem cleared_pending (c : Coordinator) : c.cleared.pending = [] := rfl

@[simp] theorem cleared_order (c : Coordinator) : c.cleared.order = [] := rfl

@[simp] theorem cleared_resolved (c : Coordinator) : c.cleared.resolved = [] := rfl

@[simp] theorem cleared_skipped (c : Coordinator) : c.cleared.skipped = [] := rfl

@[simp] theorem cleared_pendingIds (c : Coordinator) : c.cleared.pendingIds = [] := rfl

@[simp] theorem cleared_isComplete (c : Coordinator) : c.cleared.isComplete = true := rfl

/-- `Rounds n c ids ex c' ids' ex'`: the submission loop goes in `n` rounds from `c` about to
submit `ids` to `c'` about to submit `ids'`. -/
inductive Rounds : Nat → Coordinator → List String → Exchange → Coordinator → List String → Exchange → Prop
  | none (c : Coordinator) (ids : List String) (ex : Exchange) : Rounds 0 c ids ex c ids ex
  | round {n : Nat} {c c₁ c' : Coordinator} {ids next ids' : List String} {ex ex₁ ex' : Exchange} :
      ids ≠ [] →
      (runRound ids).exec { c with rounds := c.rounds + 1 } ex = ((.ok next, c₁), ex₁) →
      Rounds n c₁ next ex₁ c' ids' ex' → Rounds (n + 1) c ids ex c' ids' ex'

inductive LoopEnd : Nat → Coordinator → List String → Exchange → Except BatchError Unit →
    Coordinator → Exchange → Prop
  | finished {left : Nat} {c : Coordinator} {ex : Exchange} : LoopEnd left c [] ex (.ok ()) c ex
  | capped {c : Coordinator} {ids : List String} {ex : Exchange} : ids ≠ [] →
      LoopEnd 0 c ids ex (.error (.roundsExhausted c.table c.maxRounds ids.length)) c.cleared ex
  | interrupted {left : Nat} {c c₁ : Coordinator} {ids : List String} {ex ex₁ : Exchange}
      {e : BatchError} : ids ≠ [] →
      (runRound ids).exec { c with rounds := c.rounds + 1 } ex = ((.error e, c₁), ex₁) →
      e.isRetryable = true → LoopEnd (left + 1) c ids ex (.error e) c₁ ex₁
  | aborted {left : Nat} {c c₁ : Coordinator} {ids : List String} {ex ex₁ : Exchange}
      {e : BatchError} : ids ≠ [] →
      (runRound ids).exec { c with rounds := c.rounds + 1 } ex = ((.error e, c₁), ex₁) →
      e.isRetryable = false → LoopEnd (left + 1) c ids ex (.error e) c₁.cleared ex₁

theorem roundsFrom_cases (left : Nat) :
    ∀ (ids : List String) (c : Coordinator) (ex : Exchange) (result : Except BatchError Unit)
      (c'' : Coordinator) (ex'' : Exchange),
      (roundsFrom ids left).exec c ex = ((result, c''), ex'') →
      ∃ n c' ids' ex', Rounds n c ids ex c' ids' ex' ∧ n ≤ left ∧
        LoopEnd (left - n) c' ids' ex' result c'' ex'' := by
  induction left with
  | zero =>
    intro ids c ex result c'' ex'' ran
    refine ⟨0, c, ids, ex, Rounds.none c ids ex, Nat.le_refl 0, ?_⟩
    cases ids with
    | nil =>
      simp only [roundsFrom, BatchRun.exec_pure, Prod.mk.injEq] at ran
      obtain ⟨⟨rfl, rfl⟩, rfl⟩ := ran
      exact LoopEnd.finished
    | cons id rest =>
      simp only [roundsFrom, BatchRun.exec_bind, BatchRun.exec_get, abort_exec, BatchRun.exec_pure,
        Prod.mk.injEq] at ran
      obtain ⟨⟨rfl, rfl⟩, rfl⟩ := ran
      exact LoopEnd.capped (List.cons_ne_nil id rest)
  | succ left ih =>
    intro ids c ex result c'' ex'' ran
    cases ids with
    | nil =>
      simp only [roundsFrom, BatchRun.exec_pure, Prod.mk.injEq] at ran
      obtain ⟨⟨rfl, rfl⟩, rfl⟩ := ran
      exact ⟨0, c, [], ex, Rounds.none c [] ex, Nat.zero_le _, LoopEnd.finished⟩
    | cons id rest =>
      have nonempty : id :: rest ≠ [] := List.cons_ne_nil id rest
      simp only [roundsFrom, BatchRun.exec_bind, BatchRun.exec_modify] at ran
      rcases round : (runRound (id :: rest)).exec { c with rounds := c.rounds + 1 } ex with
        ⟨⟨roundResult, c₁⟩, ex₁⟩
      rw [round] at ran
      cases roundResult with
      | ok next =>
        obtain ⟨n, c', ids', ex', rounds, bound, finish⟩ := ih next c₁ ex₁ result c'' ex'' ran
        refine ⟨n + 1, c', ids', ex', Rounds.round nonempty round rounds, by omega, ?_⟩
        have sameLeft : left + 1 - (n + 1) = left - n := by omega
        rw [sameLeft]
        exact finish
      | error e =>
        refine ⟨0, c, id :: rest, ex, Rounds.none c (id :: rest) ex, Nat.zero_le _, ?_⟩
        cases retryable : e.isRetryable with
        | true =>
          simp only [retryable, Bool.not_true, Bool.false_eq_true, if_false, BatchRun.exec_pure,
            Prod.mk.injEq] at ran
          obtain ⟨⟨rfl, rfl⟩, rfl⟩ := ran
          exact LoopEnd.interrupted nonempty round retryable
        | false =>
          simp only [retryable, Bool.not_false, if_true, BatchRun.exec_bind, abort_exec,
            BatchRun.exec_pure, Prod.mk.injEq] at ran
          obtain ⟨⟨rfl, rfl⟩, rfl⟩ := ran
          exact LoopEnd.aborted nonempty round retryable

theorem submit_cases {c c'' : Coordinator} {ex ex'' : Exchange} {result : Except BatchError BatchReport}
    (submitted : submit.exec c ex = ((result, c''), ex'')) :
    ∃ loopResult c', (roundsFrom c.pendingIds c.maxRounds).exec c ex = ((loopResult, c'), ex'') ∧
      (loopResult = .ok () → c'' = { c' with resolved := [], skipped := [] } ∧
        result = .ok { table := c'.table, rounds := c'.rounds, attempts := 1, resolved := c'.resolved,
                       skipped := c'.skipped }) ∧
      ∀ e, loopResult = .error e → c'' = c' ∧ result = .error e := by
  simp only [submit, BatchRun.exec_bind, BatchRun.exec_get] at submitted
  rcases loop : (roundsFrom c.pendingIds c.maxRounds).exec c ex with ⟨⟨loopResult, c'⟩, ex'⟩
  rw [loop] at submitted
  refine ⟨loopResult, c', ?_, ?_, ?_⟩
  · cases loopResult with
    | error e =>
      simp only [BatchRun.exec_pure, Prod.mk.injEq] at submitted
      rw [submitted.2]
    | ok u =>
      simp only [BatchRun.exec_bind, BatchRun.exec_get, BatchRun.exec_set, BatchRun.exec_pure,
        Prod.mk.injEq] at submitted
      rw [submitted.2]
  · intro finished
    subst finished
    simp only [BatchRun.exec_bind, BatchRun.exec_get, BatchRun.exec_set, BatchRun.exec_pure,
      Prod.mk.injEq] at submitted
    exact ⟨submitted.1.2.symm, submitted.1.1.symm⟩
  · intro e failed
    subst failed
    simp only [BatchRun.exec_pure, Prod.mk.injEq] at submitted
    exact ⟨submitted.1.2.symm, submitted.1.1.symm⟩

theorem submit_failed {c c'' : Coordinator} {ex ex'' : Exchange} {e : BatchError}
    (submitted : submit.exec c ex = ((.error e, c''), ex'')) :
    (e.isRetryable = true → ∃ n c' ids' ex', Rounds n c c.pendingIds ex c' ids' ex' ∧ ids' ≠ [] ∧
      (runRound ids').exec { c' with rounds := c'.rounds + 1 } ex' = ((.error e, c''), ex'') ∧
      c'' = { c' with rounds := c'.rounds + 1 }) ∧
    (e.isRetryable = false → ∃ c' : Coordinator, c'' = c'.cleared) := by
  obtain ⟨loopResult, c₀, loop, finished, failed⟩ := submit_cases submitted
  cases loopResult with
  | ok u =>
    obtain ⟨-, reported⟩ := finished rfl
    cases reported
  | error e' =>
    obtain ⟨rfl, same⟩ := failed e' rfl
    cases same
    obtain ⟨n, c', ids', ex', rounds, -, finish⟩ := roundsFrom_cases _ _ _ _ _ _ _ loop
    generalize c.maxRounds - n = rest at finish
    cases finish with
    | capped nonempty =>
      exact ⟨(fun retryable => by cases retryable), fun _ => ⟨c', rfl⟩⟩
    | interrupted nonempty round retryable =>
      obtain ⟨-, unchanged, -⟩ := runRound_spec round
      refine ⟨fun _ => ⟨n, c', ids', ex', rounds, nonempty, round, unchanged e rfl retryable⟩, ?_⟩
      intro notRetryable
      rw [retryable] at notRetryable
      cases notRetryable
    | aborted nonempty round notRetryable =>
      refine ⟨?_, fun _ => ⟨_, rfl⟩⟩
      intro retryable
      rw [notRetryable] at retryable
      cases retryable

inductive Retries : Nat → Coordinator → Exchange → Coordinator → Exchange → Prop
  | none (c : Coordinator) (ex : Exchange) : Retries 0 c ex c ex
  | retry {k : Nat} {c c₁ c' : Coordinator} {ex ex₁ ex' : Exchange} {e : BatchError} :
      submit.exec c ex = ((.error e, c₁), ex₁) → e.isRetryable = true →
      Retries k c₁ ex₁ c' ex' → Retries (k + 1) c ex c' ex'

theorem submitWithRetry_exec (c : Coordinator) (ex : Exchange) :
    submitWithRetry.exec c ex = (submitFrom 0 (c.retry.maxAttempts - 1)).exec c ex := rfl

theorem giveUp_final {e : BatchError} (final : e.isRetryable = false) (attempt : Nat) (c : Coordinator)
    (ex : Exchange) : (giveUp attempt e).exec c ex = ((.error e, c), ex) := by
  simp only [giveUp, final, Bool.not_false, if_true, BatchRun.exec_pure]

theorem giveUp_exhausted {e : BatchError} (retryable : e.isRetryable = true) (attempt : Nat)
    (c : Coordinator) (ex : Exchange) :
    (giveUp attempt e).exec c ex = ((.error (.retriesExhausted c.table (attempt + 1) e), c.cleared), ex) := by
  simp only [giveUp, retryable, Bool.not_true, Bool.false_eq_true, if_false, BatchRun.exec_bind,
    BatchRun.exec_get, abort_exec, BatchRun.exec_pure]

theorem submitFrom_cases (left : Nat) :
    ∀ (attempt : Nat) (c : Coordinator) (ex : Exchange) (result : Except BatchError BatchReport)
      (c'' : Coordinator) (ex'' : Exchange),
      (submitFrom attempt left).exec c ex = ((result, c''), ex'') →
      ∃ k c' ex', Retries k c ex c' ex' ∧ k ≤ left ∧
        ∃ last c₁, submit.exec c' ex' = ((last, c₁), ex'') ∧
          (∀ report, last = .ok report →
            c'' = c₁ ∧ result = .ok { report with attempts := attempt + k + 1 }) ∧
          (∀ e, last = .error e → e.isRetryable = false → c'' = c₁ ∧ result = .error e) ∧
          (∀ e, last = .error e → e.isRetryable = true → k = left ∧ c'' = c₁.cleared ∧
            result = .error (.retriesExhausted c₁.table (attempt + k + 1) e)) := by
  induction left with
  | zero =>
    intro attempt c ex result c'' ex'' ran
    refine ⟨0, c, ex, Retries.none c ex, Nat.le_refl 0, ?_⟩
    simp only [submitFrom, BatchRun.exec_bind] at ran
    rcases submitted : submit.exec c ex with ⟨⟨last, c₁⟩, ex₁⟩
    rw [submitted] at ran
    refine ⟨last, c₁, ?_, ?_, ?_, ?_⟩
    · cases last with
      | ok report =>
        simp only [BatchRun.exec_pure, Prod.mk.injEq] at ran
        rw [ran.2]
      | error e =>
        cases retryable : e.isRetryable with
        | true =>
          simp only [giveUp_exhausted retryable, Prod.mk.injEq] at ran
          rw [ran.2]
        | false =>
          simp only [giveUp_final retryable, Prod.mk.injEq] at ran
          rw [ran.2]
    · intro report finished
      subst finished
      simp only [BatchRun.exec_pure, Prod.mk.injEq] at ran
      exact ⟨ran.1.2.symm, by rw [← ran.1.1]⟩
    · intro e failed retryable
      subst failed
      simp only [giveUp_final retryable, Prod.mk.injEq] at ran
      exact ⟨ran.1.2.symm, ran.1.1.symm⟩
    · intro e failed retryable
      subst failed
      simp only [giveUp_exhausted retryable, Prod.mk.injEq] at ran
      exact ⟨rfl, ran.1.2.symm, ran.1.1.symm⟩
  | succ left ih =>
    intro attempt c ex result c'' ex'' ran
    simp only [submitFrom, BatchRun.exec_bind] at ran
    rcases submitted : submit.exec c ex with ⟨⟨first, c₁⟩, ex₁⟩
    rw [submitted] at ran
    cases first with
    | ok report =>
      simp only [BatchRun.exec_pure, Prod.mk.injEq] at ran
      obtain ⟨⟨rfl, rfl⟩, rfl⟩ := ran
      refine ⟨0, c, ex, Retries.none c ex, Nat.zero_le _, .ok report, c₁, submitted, ?_, ?_, ?_⟩
      · intro report' same
        cases same
        exact ⟨rfl, rfl⟩
      · intro e failed
        cases failed
      · intro e failed
        cases failed
    | error e =>
      cases retryable : e.isRetryable with
      | true =>
        simp only [retryable, if_true] at ran
        obtain ⟨k, c', ex', retries, bound, last, c₂, final, reported, passed, exhausted⟩ :=
          ih (attempt + 1) c₁ ex₁ result c'' ex'' ran
        refine ⟨k + 1, c', ex', Retries.retry submitted retryable retries, by omega, last, c₂, final,
          ?_, ?_, ?_⟩
        · intro report finished
          obtain ⟨same, reportedEq⟩ := reported report finished
          exact ⟨same, by rw [reportedEq, Nat.add_assoc attempt 1 k, Nat.add_comm 1 k]⟩
        · exact passed
        · intro e' failed retryable'
          obtain ⟨sameLeft, same, exhaustedEq⟩ := exhausted e' failed retryable'
          exact ⟨by omega, same, by rw [exhaustedEq, Nat.add_assoc attempt 1 k, Nat.add_comm 1 k]⟩
      | false =>
        simp only [retryable, Bool.false_eq_true, if_false, BatchRun.exec_pure, Prod.mk.injEq] at ran
        obtain ⟨⟨rfl, rfl⟩, rfl⟩ := ran
        refine ⟨0, c, ex, Retries.none c ex, Nat.zero_le _, .error e, c₁, submitted, ?_, ?_, ?_⟩
        · intro report failed
          cases failed
        · intro e' same _
          cases same
          exact ⟨rfl, rfl⟩
        · intro e' same retryable'
          cases same
          rw [retryable] at retryable'
          cases retryable'

end Coordinator

end TableSync
