import TableSync.Proofs.Batch.Loop

/-!
How a failed submission leaves the coordinator: a retryable failure changes nothing, so the next
submission resumes, and every other failure discards everything.
-/

namespace TableSync

namespace Coordinator

theorem submitWithRetry_failed {c c'' : Coordinator} {ex ex'' : Exchange} {e : BatchError}
    (ran : submitWithRetry.exec c ex = ((.error e, c''), ex'')) : ∃ c' : Coordinator, c'' = c'.cleared := by
  rw [submitWithRetry_exec] at ran
  obtain ⟨k, c', ex', -, -, last, c₁, submitted, reported, passed, exhausted⟩ :=
    submitFrom_cases _ _ _ _ _ _ _ ran
  cases last with
  | ok report =>
    obtain ⟨-, wrong⟩ := reported report rfl
    cases wrong
  | error e' =>
    cases retryable : e'.isRetryable with
    | true =>
      obtain ⟨-, rfl, -⟩ := exhausted e' rfl retryable
      exact ⟨c₁, rfl⟩
    | false =>
      obtain ⟨rfl, -⟩ := passed e' rfl retryable
      exact (submit_failed submitted).2 retryable

/-- A failed submission leaves the coordinator resumable after a retryable failure and empty
after any other. -/
theorem failed_submission_resumes_or_discards (c : Coordinator) (ex : Exchange) (e : BatchError)
    (c'' : Coordinator) (ex'' : Exchange) :
    (submit.exec c ex = ((.error e, c''), ex'') → e.isRetryable = true →
      ∃ n c' ids' ex', Rounds n c c.pendingIds ex c' ids' ex' ∧ ids' ≠ [] ∧
        (runRound ids').exec { c' with rounds := c'.rounds + 1 } ex' = ((.error e, c''), ex'') ∧
        c'' = { c' with rounds := c'.rounds + 1 }) ∧
    (submit.exec c ex = ((.error e, c''), ex'') → e.isRetryable = false →
      c''.pending = [] ∧ c''.order = [] ∧ c''.resolved = [] ∧ c''.skipped = []) ∧
    (submitWithRetry.exec c ex = ((.error e, c''), ex'') →
      c''.pending = [] ∧ c''.order = [] ∧ c''.resolved = [] ∧ c''.skipped = [] ∧
        c''.pendingIds = [] ∧ c''.isComplete = true) := by
  refine ⟨fun submitted retryable => (submit_failed submitted).1 retryable, ?_, ?_⟩
  · intro submitted notRetryable
    obtain ⟨c', rfl⟩ := (submit_failed submitted).2 notRetryable
    simp
  · intro ran
    obtain ⟨c', rfl⟩ := submitWithRetry_failed ran
    simp

theorem unreachable_resumes_refused_discards :
    let c : Coordinator :=
      { client := ServiceClient.make (Endpoint.make "dev") ⟨"client", "secret", "user", "password"⟩
          RetryPolicy.forAuth,
        table := "incident", retry := RetryPolicy.forBatch, maxRounds := defaultMaxRounds,
        order := ["r1"], pending := [("r1", ⟨"r1", "/api/now/table/incident", .post, [], "first", true⟩)],
        resolved := [], skipped := [], rounds := 0 }
    let unreachable := Exchange.make [] []
    let refused := Exchange.make [.ok (HttpResponse.make 401 "denied")] []
    (∃ e c'' ex'', submit.exec c unreachable = ((.error e, c''), ex'') ∧ e.isRetryable = true ∧
      ∃ n c' ids' ex', Rounds n c c.pendingIds unreachable c' ids' ex' ∧ ids' ≠ [] ∧
        (runRound ids').exec { c' with rounds := c'.rounds + 1 } ex' = ((.error e, c''), ex'') ∧
        c'' = { c' with rounds := c'.rounds + 1 }) ∧
    (∃ e c'' ex'', submit.exec c refused = ((.error e, c''), ex'') ∧ e.isRetryable = false ∧
      c''.pending = [] ∧ c''.order = [] ∧ c''.resolved = [] ∧ c''.skipped = []) ∧
    (∃ e c'' ex'', submitWithRetry.exec c unreachable = ((.error e, c''), ex'') ∧
      c''.pending = [] ∧ c''.order = [] ∧ c''.resolved = [] ∧ c''.skipped = [] ∧
        c''.pendingIds = [] ∧ c''.isComplete = true) := by
  intro c unreachable refused
  have lost : (match (submit.exec c unreachable).1.1 with
      | .error e => e.isRetryable
      | .ok _ => false) = true := by decide +kernel
  have denied : (match (submit.exec c refused).1.1 with
      | .error e => !e.isRetryable
      | .ok _ => false) = true := by decide +kernel
  have gaveUp : (submitWithRetry.exec c unreachable).1.1.isOk = false := by decide +kernel
  refine ⟨?_, ?_, ?_⟩
  · rcases first : submit.exec c unreachable with ⟨⟨result, c''⟩, ex''⟩
    rw [first] at lost
    cases result with
    | ok report => cases lost
    | error e =>
      exact ⟨e, c'', ex'', rfl, lost,
        (failed_submission_resumes_or_discards c unreachable e c'' ex'').1 first lost⟩
  · rcases first : submit.exec c refused with ⟨⟨result, c''⟩, ex''⟩
    rw [first] at denied
    cases result with
    | ok report => cases denied
    | error e =>
      have notRetryable : e.isRetryable = false := by simpa using denied
      exact ⟨e, c'', ex'', rfl, notRetryable,
        (failed_submission_resumes_or_discards c refused e c'' ex'').2.1 first notRetryable⟩
  · rcases first : submitWithRetry.exec c unreachable with ⟨⟨result, c''⟩, ex''⟩
    rw [first] at gaveUp
    cases result with
    | ok report => cases gaveUp
    | error e =>
      exact ⟨e, c'', ex'', rfl, (failed_submission_resumes_or_discards c unreachable e c'' ex'').2.2 first⟩

end Coordinator

end TableSync
