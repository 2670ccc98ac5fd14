import TableSync.Proofs.Batch.Loop

/-!
What a batched write spends: `Spent` counts rounds, batch requests and token requests, holds of one
round and composes along the loops.
-/

namespace TableSync

namespace Coordinator

def countTo (url : String) (reqs : List HttpRequest) : Nat := reqs.countP (·.url == url)

@[simp] theorem countTo_nil (url : String) : countTo url [] = 0 := rfl

@[simp] theorem countTo_append (url : String) (reqs reqs' : List HttpRequest) :
    countTo url (reqs ++ reqs') = countTo url reqs + countTo url reqs' :=
  List.countP_append

theorem countTo_replicate (url : String) (n : Nat) (req : HttpRequest) :
    countTo url (List.replicate n req) = if req.url = url then n else 0 := by
  simp [countTo, List.countP_replicate]

/-- The rounds, batch requests and token requests spent between two coordinators; the client
and the policies stay. -/
structure Spent (c : Coordinator) (ex : Exchange) (c' : Coordinator) (ex' : Exchange)
    (rounds batches : Nat) : Prop where
  client : c'.client = c.client
  retry : c'.retry = c.retry
  maxRounds : c'.maxRounds = c.maxRounds
  counted : c'.rounds = c.rounds + rounds
  batchesLe : batches ≤ rounds
  sent : ∃ new, ex'.sent.toList = ex.sent.toList ++ new ∧
    countTo c.client.endpoint.batchUrl new = batches ∧
    countTo c.client.tokens.endpoint.tokenUrl new ≤ rounds * (c.client.tokens.retry.maxAttempts - 1 + 1)

theorem Spent.refl (c : Coordinator) (ex : Exchange) : Spent c ex c ex 0 0 :=
  ⟨rfl, rfl, rfl, rfl, Nat.le_refl 0, [], by simp, rfl, by simp⟩

theorem Spent.trans {c c' c'' : Coordinator} {ex ex' ex'' : Exchange} {r₁ b₁ r₂ b₂ : Nat}
    (first : Spent c ex c' ex' r₁ b₁) (second : Spent c' ex' c'' ex'' r₂ b₂) :
    Spent c ex c'' ex'' (r₁ + r₂) (b₁ + b₂) := by
  obtain ⟨new₁, sent₁, batches₁, tokens₁⟩ := first.sent
  obtain ⟨new₂, sent₂, batches₂, tokens₂⟩ := second.sent
  rw [first.client] at batches₂ tokens₂
  refine ⟨second.client.trans first.client, second.retry.trans first.retry,
    second.maxRounds.trans first.maxRounds, by rw [second.counted, first.counted, Nat.add_assoc],
    Nat.add_le_add first.batchesLe second.batchesLe, new₁ ++ new₂, ?_, ?_, ?_⟩
  · rw [sent₂, sent₁, List.append_assoc]
  · rw [countTo_append, batches₁, batches₂]
  · rw [countTo_append, Nat.add_mul]
    exact Nat.add_le_add tokens₁ tokens₂

theorem Spent.congr {c c' c'' : Coordinator} {ex ex' : Exchange} {r b : Nat} (spent : Spent c ex c' ex' r b)
    (client : c''.client = c'.client) (retry : c''.retry = c'.retry) (maxRounds : c''.maxRounds = c'.maxRounds)
    (rounds : c''.rounds = c'.rounds) : Spent c ex c'' ex' r b :=
  ⟨client.trans spent.client, retry.trans spent.retry, maxRounds.trans spent.maxRounds,
    rounds.trans spent.counted, spent.batchesLe, spent.sent⟩

theorem runRound_spent {ids : List String} {c c' : Coordinator} {ex ex' : Exchange}
    {result : Except BatchError (List String)}
    (ran : (runRound ids).exec { c with rounds := c.rounds + 1 } ex = ((result, c'), ex')) :
    ∃ b, Spent c ex c' ex' 1 b ∧
      ((∃ next, result = .ok next) ∨ (∃ e, result = .error e ∧ e.isRetryable = true) → b = 1) := by
  obtain ⟨settles, -, -⟩ := runRound_spec ran
  obtain ⟨k, batch, -, atMost, sent, single, carries, unauthorized⟩ := runRound_traffic ran
  obtain ⟨-, sameRounds, -, sameMaxRounds, sameClient, sameRetry⟩ := settles.frame
  have batchCount : countTo c.client.endpoint.batchUrl batch = batch.length := by
    rw [countTo, List.countP_eq_length]
    intro req member
    simp [(carries req member).1]
  have tokenCount : countTo c.client.tokens.endpoint.tokenUrl batch = 0 := by
    rw [countTo, List.countP_eq_zero]
    intro req member
    simpa [(carries req member).1] using (Endpoint.tokenUrl_ne_batchUrl _ _).symm
  have grantUrl : c.client.tokens.grantRequest.url = c.client.tokens.endpoint.tokenUrl := rfl
  have grantNotBatch : c.client.tokens.grantRequest.url ≠ c.client.endpoint.batchUrl := by
    rw [grantUrl]
    exact Endpoint.tokenUrl_ne_batchUrl _ _
  refine ⟨batch.length, ⟨sameClient, sameRetry, sameMaxRounds, sameRounds, single,
    List.replicate k c.client.tokens.grantRequest ++ batch, ?_, ?_, ?_⟩, ?_⟩
  · rw [sent, List.append_assoc]
  · rw [countTo_append, countTo_replicate, if_neg grantNotBatch, batchCount, Nat.zero_add]
  · rw [countTo_append, countTo_replicate, if_pos grantUrl, tokenCount, Nat.add_zero, Nat.one_mul]
    exact atMost
  · intro answered
    -- a round posts no batch only when it is refused a token, and that failure is final
    cases batch with
    | nil =>
      obtain ⟨e, rfl⟩ := unauthorized rfl
      rcases answered with ⟨next, wrong⟩ | ⟨e', failed, retryable⟩
      · cases wrong
      · cases failed
        cases retryable
    | cons req rest =>
      simp only [List.length_cons] at single ⊢
      omega

theorem Rounds.spent {n : Nat} {c c' : Coordinator} {ids ids' : List String} {ex ex' : Exchange}
    (rounds : Rounds n c ids ex c' ids' ex') : Spent c ex c' ex' n n := by
  induction rounds with
  | none c ids ex => exact Spent.refl c ex
  | round _ ran _ ih =>
    obtain ⟨b, spent, answered⟩ := runRound_spent ran
    have sent : b = 1 := answered (Or.inl ⟨_, rfl⟩)
    subst sent
    rw [Nat.add_comm]
    exact spent.trans ih

theorem LoopEnd.spent {left : Nat} {c c'' : Coordinator} {ids : List String} {ex ex'' : Exchange}
    {result : Except BatchError Unit} (finish : LoopEnd left c ids ex result c'' ex'') :
    ∃ r b, Spent c ex c'' ex'' r b ∧ r ≤ left ∧
      (result = .ok () ∨ (∃ e, result = .error e ∧ e.isRetryable = true) → b = r) := by
  cases finish with
  | finished => exact ⟨0, 0, Spent.refl c ex, Nat.zero_le _, fun _ => rfl⟩
  | capped nonempty =>
    have spent : Spent c ex c.cleared ex 0 0 := (Spent.refl c ex).congr rfl rfl rfl rfl
    refine ⟨0, 0, spent, Nat.le_refl 0, fun _ => rfl⟩
  | interrupted nonempty ran retryable =>
    obtain ⟨b, spent, answered⟩ := runRound_spent ran
    exact ⟨1, b, spent, by omega, fun _ => answered (Or.inr ⟨_, rfl, retryable⟩)⟩
  | aborted nonempty ran notRetryable =>
    obtain ⟨b, spent, -⟩ := runRound_spent ran
    refine ⟨1, b, spent.congr rfl rfl rfl rfl, by omega, ?_⟩
    rintro (wrong | ⟨e, failed, retryable⟩)
    · cases wrong
    · cases failed
      rw [notRetryable] at retryable
      cases retryable

theorem roundsFrom_spent {ids : List String} {left : Nat} {c c'' : Coordinator} {ex ex'' : Exchange}
    {result : Except BatchError Unit} (ran : (roundsFrom ids left).exec c ex = ((result, c''), ex'')) :
    ∃ r b, Spent c ex c'' ex'' r b ∧ r ≤ left ∧
      (result = .ok () ∨ (∃ e, result = .error e ∧ e.isRetryable = true) → b = r) := by
  obtain ⟨n, c', ids', ex', rounds, bound, finish⟩ := roundsFrom_cases left ids c ex result c'' ex'' ran
  obtain ⟨r, b, spent, rest, answered⟩ := finish.spent
  refine ⟨n + r, n + b, rounds.spent.trans spent, by omega, ?_⟩
  intro settled
  rw [answered settled]

theorem submit_spent {c c'' : Coordinator} {ex ex'' : Exchange} {result : Except BatchError BatchReport}
    (submitted : submit.exec c ex = ((result, c''), ex'')) :
    ∃ r b, Spent c ex c'' ex'' r b ∧ r ≤ c.maxRounds ∧
      (∀ report, result = .ok report → b = r ∧ report.rounds = c''.rounds ∧ report.attempts = 1) ∧
      (∀ e, result = .error e → e.isRetryable = true → b = r) := by
  obtain ⟨loopResult, c', loop, finished, failed⟩ := submit_cases submitted
  obtain ⟨r, b, spent, bound, answered⟩ := roundsFrom_spent loop
  cases loopResult with
  | ok u =>
    obtain ⟨rfl, rfl⟩ := finished rfl
    refine ⟨r, b, spent.congr rfl rfl rfl rfl, bound, ?_, ?_⟩
    · intro report reported
      cases reported
      exact ⟨answered (Or.inl rfl), rfl, rfl⟩
    · intro e wrong
      cases wrong
  | error e =>
    obtain ⟨rfl, rfl⟩ := failed e rfl
    refine ⟨r, b, spent, bound, (fun report wrong => nomatch wrong), ?_⟩
    intro e' same retryable
    cases same
    exact answered (Or.inr ⟨e, rfl, retryable⟩)

theorem Retries.spent {k : Nat} {c c' : Coordinator} {ex ex' : Exchange} (retries : Retries k c ex c' ex') :
    ∃ r, Spent c ex c' ex' r r ∧ r ≤ k * c.maxRounds := by
  induction retries with
  | none c ex => exact ⟨0, Spent.refl c ex, Nat.zero_le _⟩
  | @retry k c c₁ c' ex ex₁ ex' e submitted retryable _ ih =>
    obtain ⟨r₁, b₁, first, bound₁, -, failed⟩ := submit_spent submitted
    obtain ⟨r₂, rest, bound₂⟩ := ih
    -- each failed attempt was retryable, so it posted a batch for every round it counted
    have sent : b₁ = r₁ := failed e rfl retryable
    subst sent
    refine ⟨b₁ + r₂, first.trans rest, ?_⟩
    rw [first.maxRounds] at bound₂
    rw [Nat.add_mul, Nat.one_mul, Nat.add_comm (k * c.maxRounds)]
    exact Nat.add_le_add bound₁ bound₂

theorem Retries.resume_submitFrom {k : Nat} {c c' : Coordinator} {ex ex' : Exchange}
    (retries : Retries k c ex c' ex') :
    ∀ attempt left, k ≤ left →
      (submitFrom attempt left).exec c ex = (submitFrom (attempt + k) (left - k)).exec c' ex' := by
  induction retries with
  | none c ex =>
    intro attempt left _
    rfl
  | @retry k c c₁ c' ex ex₁ ex' e submitted retryable _ ih =>
    intro attempt left bound
    obtain ⟨left, rfl⟩ : ∃ rest, left = rest + 1 := ⟨left - 1, by omega⟩
    have resumed := ih (attempt + 1) left (by omega)
    have sameAttempt : attempt + 1 + k = attempt + (k + 1) := by omega
    have sameLeft : left - k = left + 1 - (k + 1) := by omega
    simp only [submitFrom, BatchRun.exec_bind, submitted, retryable, if_true]
    rw [resumed, sameAttempt, sameLeft]

theorem submitWithRetry_spent {c c'' : Coordinator} {ex ex'' : Exchange}
    {result : Except BatchError BatchReport}
    (ran : submitWithRetry.exec c ex = ((result, c''), ex'')) :
    ∃ r b, Spent c ex c'' ex'' r b ∧ r ≤ (c.retry.maxAttempts - 1 + 1) * c.maxRounds ∧
      ∀ report, result = .ok report → b = r ∧ report.rounds = c''.rounds ∧
        ∃ k c' ex', Retries k c ex c' ex' ∧ report.attempts = k + 1 ∧ k + 1 ≤ c.retry.maxAttempts - 1 + 1 := by
  rw [submitWithRetry_exec] at ran
  obtain ⟨k, c', ex', retries, bound, last, c₁, submitted, reported, passed, exhausted⟩ :=
    submitFrom_cases _ _ _ _ _ _ _ ran
  obtain ⟨r₁, before, bound₁⟩ := retries.spent
  obtain ⟨r₂, b₂, spent, bound₂, succeeded, failed⟩ := submit_spent submitted
  rw [before.maxRounds] at bound₂
  have total : r₁ + r₂ ≤ (c.retry.maxAttempts - 1 + 1) * c.maxRounds := by
    have retriesBound : k * c.maxRounds ≤ (c.retry.maxAttempts - 1) * c.maxRounds :=
      Nat.mul_le_mul_right _ bound
    rw [Nat.add_mul, Nat.one_mul]
    omega
  cases last with
  | ok report =>
    obtain ⟨rfl, rfl⟩ := reported report rfl
    obtain ⟨sent, rounds, -⟩ := succeeded report rfl
    refine ⟨r₁ + r₂, r₁ + b₂, before.trans spent, total, ?_⟩
    intro report' same
    cases same
    refine ⟨by rw [sent], rounds, k, c', ex', retries, ?_, by omega⟩
    dsimp only
    omega
  | error e =>
    refine ⟨r₁ + r₂, r₁ + b₂, ?_, total, ?_⟩
    · cases retryable : e.isRetryable with
      | true =>
        obtain ⟨-, rfl, -⟩ := exhausted e rfl retryable
        exact (before.trans spent).congr rfl rfl rfl rfl
      | false =>
        obtain ⟨rfl, -⟩ := passed e rfl retryable
        exact before.trans spent
    · intro report wrong
      cases retryable : e.isRetryable with
      | true =>
        obtain ⟨-, -, exhaustedEq⟩ := exhausted e rfl retryable
        rw [exhaustedEq] at wrong
        cases wrong
      | false =>
        obtain ⟨-, passedEq⟩ := passed e rfl retryable
        rw [passedEq] at wrong
        cases wrong

/-- Submissions send at most their caps of batch and token requests, and the report counts the
attempts and rounds spent. -/
theorem rounds_and_attempts_bounded (c : Coordinator) (ex : Exchange)
    (attemptsPositive : 0 < c.retry.maxAttempts)
    (authAttemptsPositive : 0 < c.client.tokens.retry.maxAttempts) :
    (∀ result c'' ex'', submit.exec c ex = ((result, c''), ex'') →
      ∃ new, ex''.sent.toList = ex.sent.toList ++ new ∧
        countTo c.client.endpoint.batchUrl new ≤ c.maxRounds ∧
        countTo c.client.tokens.endpoint.tokenUrl new ≤ c.maxRounds * c.client.tokens.retry.maxAttempts) ∧
    (∀ result c'' ex'', submitWithRetry.exec c ex = ((result, c''), ex'') →
      ∃ new, ex''.sent.toList = ex.sent.toList ++ new ∧
        countTo c.client.endpoint.batchUrl new ≤ c.maxRounds * c.retry.maxAttempts ∧
        countTo c.client.tokens.endpoint.tokenUrl new ≤
          c.maxRounds * c.retry.maxAttempts * c.client.tokens.retry.maxAttempts ∧
        ∀ report, result = .ok report → c.rounds = 0 →
          (∃ k c' ex', Retries k c ex c' ex' ∧ report.attempts = k + 1) ∧
          report.attempts ≤ c.retry.maxAttempts ∧
          report.rounds = countTo c.client.endpoint.batchUrl new) ∧
    (∀ c' ex' e c₁ ex₁, Retries (c.retry.maxAttempts - 1) c ex c' ex' →
      submit.exec c' ex' = ((.error e, c₁), ex₁) → e.isRetryable = true →
      submitWithRetry.exec c ex =
        ((.error (.retriesExhausted c₁.table c.retry.maxAttempts e), c₁.cleared), ex₁)) := by
  have attempts : c.retry.maxAttempts - 1 + 1 = c.retry.maxAttempts := by omega
  have authAttempts : c.client.tokens.retry.maxAttempts - 1 + 1 = c.client.tokens.retry.maxAttempts := by
    omega
  refine ⟨?_, ?_, ?_⟩
  · intro result c'' ex'' submitted
    obtain ⟨r, b, spent, bound, -, -⟩ := submit_spent submitted
    obtain ⟨new, sent, batches, tokens⟩ := spent.sent
    rw [authAttempts] at tokens
    refine ⟨new, sent, by rw [batches]; exact Nat.le_trans spent.batchesLe bound, ?_⟩
    exact Nat.le_trans tokens (Nat.mul_le_mul_right _ bound)
  · intro result c'' ex'' ran
    obtain ⟨r, b, spent, bound, reported⟩ := submitWithRetry_spent ran
    obtain ⟨new, sent, batches, tokens⟩ := spent.sent
    rw [attempts, Nat.mul_comm] at bound
    rw [authAttempts] at tokens
    refine ⟨new, sent, by rw [batches]; exact Nat.le_trans spent.batchesLe bound,
      Nat.le_trans tokens (Nat.mul_le_mul_right _ bound), ?_⟩
    intro report finished fresh
    obtain ⟨everyRound, rounds, k, c', ex', retries, attemptsEq, attemptsLe⟩ := reported report finished
    refine ⟨⟨k, c', ex', retries, attemptsEq⟩, by omega, ?_⟩
    rw [rounds, spent.counted, fresh, Nat.zero_add, batches, everyRound]
  · intro c' ex' e c₁ ex₁ retries submitted retryable
    rw [submitWithRetry_exec, retries.resume_submitFrom 0 _ (Nat.le_refl _), Nat.sub_self, Nat.zero_add]
    simp only [submitFrom, BatchRun.exec_bind, submitted, giveUp_exhausted retryable, attempts]

theorem unreachable_endpoint_within_bounds :
    let c : Coordinator :=
      { client := ServiceClient.make (Endpoint.make "dev") ⟨"client", "secret", "user", "password"⟩
          RetryPolicy.forAuth,
        table := "incident", retry := RetryPolicy.forBatch, maxRounds := defaultMaxRounds,
        order := ["r1"], pending := [("r1", ⟨"r1", "/api/now/table/incident", .post, [], "first", true⟩)],
        resolved := [], skipped := [], rounds := 0 }
    let unreachable := Exchange.make [] []
    0 < c.retry.maxAttempts ∧ 0 < c.client.tokens.retry.maxAttempts ∧
      ∃ new, (submitWithRetry.exec c unreachable).2.sent.toList = unreachable.sent.toList ++ new ∧
        countTo c.client.endpoint.batchUrl new ≤ c.maxRounds * c.retry.maxAttempts ∧
        countTo c.client.tokens.endpoint.tokenUrl new ≤
          c.maxRounds * c.retry.maxAttempts * c.client.tokens.retry.maxAttempts := by
  intro c unreachable
  have attemptsPositive : 0 < c.retry.maxAttempts := by decide
  have authAttemptsPositive : 0 < c.client.tokens.retry.maxAttempts := by decide
  obtain ⟨new, sent, batches, tokens, -⟩ :=
    (rounds_and_attempts_bounded c unreachable attemptsPositive authAttemptsPositive).2.1 _ _ _ rfl
  exact ⟨attemptsPositive, authAttemptsPositive, new, sent, batches, tokens⟩

end Coordinator

end TableSync
