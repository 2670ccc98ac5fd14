import TableSync.Proofs.Batch.Accounting
import TableSync.Proofs.Batch.Bounds

/-!
A submission with retry that succeeds: its first batch request carries every pending write, and it
settles every write of its batch once.
-/

namespace TableSync

namespace Coordinator

variable {input : List WriteEnvelope}

theorem Retries.between {k : Nat} {c c' : Coordinator} {ex ex' : Exchange}
    (retries : Retries k c ex c' ex') (between : Between input c c.pendingIds) :
    Between input c' c'.pendingIds := by
  induction retries with
  | none => exact between
  | retry submitted retryable _ ih => exact ih (Between.resumed between submitted retryable)

theorem Retries.sent {k : Nat} {c c' : Coordinator} {ex ex' : Exchange} (retries : Retries k c ex c' ex') :
    ∃ new, ex'.sent.toList = ex.sent.toList ++ new := by
  obtain ⟨r, spent, -⟩ := retries.spent
  obtain ⟨new, sent, -⟩ := spent.sent
  exact ⟨new, sent⟩

theorem submit_sent {c c'' : Coordinator} {ex ex'' : Exchange} {result : Except BatchError BatchReport}
    (submitted : submit.exec c ex = ((result, c''), ex'')) : ∃ new, ex''.sent.toList = ex.sent.toList ++ new := by
  obtain ⟨r, b, spent, -⟩ := submit_spent submitted
  obtain ⟨new, sent, -⟩ := spent.sent
  exact ⟨new, sent⟩

theorem submitWithRetry_sent {c c'' : Coordinator} {ex ex'' : Exchange} {result : Except BatchError BatchReport}
    (ran : submitWithRetry.exec c ex = ((result, c''), ex'')) : ∃ new, ex''.sent.toList = ex.sent.toList ++ new := by
  obtain ⟨r, b, spent, -⟩ := submitWithRetry_spent ran
  obtain ⟨new, sent, -⟩ := spent.sent
  exact ⟨new, sent⟩

theorem Ready.pendingIds_nil {c : Coordinator} (ready : Ready input c []) : c.pendingIds = [] := by
  obtain ⟨keep, nothing, covers⟩ := ready.chosen
  rw [pendingIds, List.filter_eq_nil_iff]
  intro id member pending
  have kept : id ∈ c.order.filter keep := List.mem_filter.mpr ⟨member, covers id member pending⟩
  rw [← nothing] at kept
  cases kept

theorem submitWithRetry_ok {c c'' : Coordinator} {ex ex'' : Exchange} {report : BatchReport}
    (ran : submitWithRetry.exec c ex = ((.ok report, c''), ex'')) :
    ∃ k c' ex' report', Retries k c ex c' ex' ∧ submit.exec c' ex' = ((.ok report', c''), ex'') ∧
      report = { report' with attempts := k + 1 } := by
  rw [submitWithRetry_exec] at ran
  obtain ⟨k, c', ex', retries, -, last, c₁, submitted, reported, passed, exhausted⟩ :=
    submitFrom_cases _ _ _ _ _ _ _ ran
  cases last with
  | ok report' =>
    obtain ⟨rfl, same⟩ := reported report' rfl
    cases same
    exact ⟨k, c', ex', report', retries, submitted, by rw [Nat.zero_add]⟩
  | error e =>
    -- a failed last submission fails the whole, whether or not it was retryable
    cases retryable : e.isRetryable with
    | true =>
      obtain ⟨-, -, wrong⟩ := exhausted e rfl retryable
      cases wrong
    | false =>
      obtain ⟨-, wrong⟩ := passed e rfl retryable
      cases wrong

/-- A submission with retry that succeeds settles every write of its batch: the ids it
reports resolved or skipped are the batch's ids, each once. -/
theorem submitWithRetry_settles {c c'' : Coordinator} {ex ex'' : Exchange} {report : BatchReport}
    (between : Between input c c.pendingIds) (ran : submitWithRetry.exec c ex = ((.ok report, c''), ex'')) :
    (report.resolved ++ report.skipped.map (·.requestId)).Perm (input.map (·.id)) := by
  obtain ⟨k, c', ex', report', retries, submitted, rfl⟩ := submitWithRetry_ok ran
  have resumed := retries.between between
  obtain ⟨loopResult, c₁, loop, finished, failed⟩ := submit_cases submitted
  cases loopResult with
  | error e =>
    obtain ⟨-, wrong⟩ := failed e rfl
    cases wrong
  | ok u =>
    obtain ⟨-, same⟩ := finished rfl
    cases same
    obtain ⟨n, c₂, ids, ex₂, rounds, -, finish⟩ := roundsFrom_cases _ _ _ _ _ _ _ loop
    generalize c'.maxRounds - n = rest at finish
    -- a loop that finished stands with nothing left to submit
    cases finish with
    | finished =>
      have ready := resumed.ready.rounds rounds
      obtain ⟨-, partition⟩ := ready.accounts.partition
      rw [ready.pendingIds_nil, List.nil_append, settledIds] at partition
      exact partition

theorem runRound_posted {ids : List String} {c c' : Coordinator} {ex ex' : Exchange}
    {result : Except BatchError (List String)} (ran : (runRound ids).exec c ex = ((result, c'), ex'))
    (answered : (∃ next, result = .ok next) ∨ ∃ e, result = .error e ∧ e.isRetryable = true) :
    ∃ k req, ex'.sent.toList = ex.sent.toList ++ List.replicate k c.client.tokens.grantRequest ++ [req] ∧
      req.url = c.client.endpoint.batchUrl ∧
      ∃ batchId, req.body = .json (BatchEnvelope.toJson ⟨batchId, c.envelopesOf ids⟩) := by
  obtain ⟨k, batch, -, -, sent, single, carries, unauthorized⟩ := runRound_traffic ran
  cases batch with
  | nil =>
    -- a round posts nothing only when it is refused a token, and that failure is final
    obtain ⟨e, rfl⟩ := unauthorized rfl
    rcases answered with ⟨next, wrong⟩ | ⟨e', failed, retryable⟩
    · cases wrong
    · cases failed
      cases retryable
  | cons req rest =>
    have alone : rest = [] := List.eq_nil_of_length_eq_zero (by simpa using single)
    subst alone
    obtain ⟨url, body⟩ := carries req List.mem_cons_self
    exact ⟨k, req, sent, url, body⟩

theorem submit_first_post {c c'' : Coordinator} {ex ex'' : Exchange} {result : Except BatchError BatchReport}
    (pending : c.pendingIds ≠ []) (allowed : 0 < c.maxRounds)
    (submitted : submit.exec c ex = ((result, c''), ex''))
    (answered : (∃ report, result = .ok report) ∨ ∃ e, result = .error e ∧ e.isRetryable = true) :
    ∃ k req rest, ex''.sent.toList = ex.sent.toList ++ List.replicate k c.client.tokens.grantRequest ++ req :: rest ∧
      req.url = c.client.endpoint.batchUrl ∧
      ∃ batchId, req.body = .json (BatchEnvelope.toJson ⟨batchId, c.envelopesOf c.pendingIds⟩) := by
  obtain ⟨loopResult, c₁, loop, finished, failed⟩ := submit_cases submitted
  have loopAnswered : loopResult = .ok () ∨ ∃ e, loopResult = .error e ∧ e.isRetryable = true := by
    cases loopResult with
    | ok u => exact Or.inl rfl
    | error e =>
      obtain ⟨-, rfl⟩ := failed e rfl
      rcases answered with ⟨report, wrong⟩ | ⟨e', same, retryable⟩
      · cases wrong
      · cases same
        exact Or.inr ⟨e, rfl, retryable⟩
  -- the pending ids and the round bound make the loop run a first round
  obtain ⟨id, ids, idsEq⟩ := List.exists_cons_of_ne_nil pending
  obtain ⟨left, leftEq⟩ := Nat.exists_eq_add_of_lt allowed
  rw [idsEq, leftEq, Nat.zero_add] at loop
  simp only [roundsFrom, BatchRun.exec_bind, BatchRun.exec_modify] at loop
  rcases round : (runRound (id :: ids)).exec { c with rounds := c.rounds + 1 } ex with
    ⟨⟨roundResult, c₂⟩, ex₂⟩
  rw [round] at loop
  -- the first round answered or failed retryably, and the log only grows after it
  have afterRound : ((∃ next, roundResult = .ok next) ∨ ∃ e, roundResult = .error e ∧ e.isRetryable = true) ∧
      ∃ more, ex''.sent.toList = ex₂.sent.toList ++ more := by
    cases roundResult with
    | ok next =>
      obtain ⟨r, b, spent, -⟩ := roundsFrom_spent loop
      obtain ⟨more, grows, -⟩ := spent.sent
      exact ⟨Or.inl ⟨next, rfl⟩, more, grows⟩
    | error e =>
      cases retryable : e.isRetryable with
      | true =>
        simp only [retryable, Bool.not_true, Bool.false_eq_true, if_false, BatchRun.exec_pure,
          Prod.mk.injEq] at loop
        obtain ⟨⟨rfl, -⟩, rfl⟩ := loop
        exact ⟨Or.inr ⟨e, rfl, retryable⟩, [], by rw [List.append_nil]⟩
      | false =>
        simp only [retryable, Bool.not_false, if_true, BatchRun.exec_bind, abort_exec,
          BatchRun.exec_pure, Prod.mk.injEq] at loop
        obtain ⟨⟨rfl, -⟩, -⟩ := loop
        rcases loopAnswered with wrong | ⟨e', same, retried⟩
        · cases wrong
        · cases same
          rw [retryable] at retried
          cases retried
  obtain ⟨answeredRound, more, grows⟩ := afterRound
  obtain ⟨k, req, sent, url, batchId, body⟩ := runRound_posted round answeredRound
  refine ⟨k, req, more, ?_, url, batchId, ?_⟩
  · rw [grows, sent, List.append_assoc, List.singleton_append]
  · rw [body, idsEq]
    rfl

theorem submitWithRetry_first_post {c c'' : Coordinator} {ex ex'' : Exchange} {report : BatchReport}
    (pending : c.pendingIds ≠ []) (allowed : 0 < c.maxRounds)
    (ran : submitWithRetry.exec c ex = ((.ok report, c''), ex'')) :
    ∃ k req rest, ex''.sent.toList = ex.sent.toList ++ List.replicate k c.client.tokens.grantRequest ++ req :: rest ∧
      req.url = c.client.endpoint.batchUrl ∧
      ∃ batchId, req.body = .json (BatchEnvelope.toJson ⟨batchId, c.envelopesOf c.pendingIds⟩) := by
  obtain ⟨k, c', ex', report', retries, submitted, -⟩ := submitWithRetry_ok ran
  -- the first submission is either the one that succeeded or the first retried one
  cases retries with
  | none => exact submit_first_post pending allowed submitted (Or.inl ⟨report', rfl⟩)
  | retry first retryable rest =>
    obtain ⟨k₁, req, more, sent, url, body⟩ :=
      submit_first_post pending allowed first (Or.inr ⟨_, rfl, retryable⟩)
    obtain ⟨more₁, grows₁⟩ := rest.sent
    obtain ⟨more₂, grows₂⟩ := submit_sent submitted
    refine ⟨k₁, req, more ++ more₁ ++ more₂, ?_, url, body⟩
    rw [grows₂, grows₁, sent]
    simp only [List.append_assoc, List.cons_append]

end Coordinator

end TableSync
