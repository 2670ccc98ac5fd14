import TableSync.Proofs.Traffic

/-!
One round of a batched write. `Settles c c'` says what settling can do, pending writes leaving one
at a time; a round either fails before settling anything or settles and answers a filter of the
submission order.
-/

namespace TableSync

namespace Coordinator

/-- `c'` is `c` with some pending writes settled one at a time, each resolved, or skipped
with a record naming it. -/
inductive Settles : Coordinator → Coordinator → Prop
  | refl (c : Coordinator) : Settles c c
  | resolve {c c' : Coordinator} {id : String} : c.isPending id →
      Settles { c with pending := c.pending.filter (·.1 != id), resolved := c.resolved ++ [id] } c' →
      Settles c c'
  | skip {c c' : Coordinator} {id : String} (record : SkippedRecord) : c.isPending id →
      record.requestId = id →
      Settles { c with pending := c.pending.filter (·.1 != id), skipped := c.skipped ++ [record] } c' →
      Settles c c'

theorem Settles.frame {c c' : Coordinator} (settles : Settles c c') :
    c'.order = c.order ∧ c'.rounds = c.rounds ∧ c'.table = c.table ∧ c'.maxRounds = c.maxRounds ∧
      c'.client = c.client ∧ c'.retry = c.retry := by
  induction settles with
  | refl => exact ⟨rfl, rfl, rfl, rfl, rfl, rfl⟩
  | resolve _ _ ih => exact ih
  | skip _ _ _ _ ih => exact ih

theorem isPending_of_filter {c : Coordinator} {keep : String × WriteEnvelope → Bool} {id : String}
    (pending : (c.pending.filter keep).any (·.1 == id) = true) : c.isPending id = true := by
  simp only [List.any_eq_true, List.mem_filter] at pending
  obtain ⟨entry, ⟨member, _⟩, named⟩ := pending
  exact List.any_eq_true.mpr ⟨entry, member, named⟩

theorem Settles.isPending {c c' : Coordinator} (settles : Settles c c') {id : String}
    (pending : c'.isPending id = true) : c.isPending id = true := by
  induction settles with
  | refl => exact pending
  | resolve _ _ ih => exact isPending_of_filter (ih pending)
  | skip _ _ _ _ ih => exact isPending_of_filter (ih pending)

theorem post_coordinator (env : BatchEnvelope) (c : Coordinator) (ex : Exchange) :
    ((post env).exec c ex).1.2 = c := by
  simp only [post, BatchRun.exec_bind, BatchRun.exec_get, BatchRun.exec_liftM]
  split
  · rfl
  · simp only [BatchRun.exec_bind, BatchRun.exec_liftM]
    split
    · rfl
    · split
      · rfl
      · split <;> rfl

theorem post_traffic (env : BatchEnvelope) (c : Coordinator) (ex : Exchange) :
    ∃ k batch, 1 ≤ k ∧ k ≤ c.client.tokens.retry.maxAttempts - 1 + 1 ∧
      ((post env).exec c ex).2.sent.toList =
        ex.sent.toList ++ List.replicate k c.client.tokens.grantRequest ++ batch ∧
      batch.length ≤ 1 ∧
      (∀ req ∈ batch, req.url = c.client.endpoint.batchUrl ∧ req.body = .json env.toJson) ∧
      (batch = [] → ∃ e, ((post env).exec c ex).1.1 = .error (.auth e)) := by
  obtain ⟨⟨k, atLeastOne, atMost, tokens⟩, authorized⟩ :=
    c.client.authorize_spec (HttpRequest.postJson c.client.endpoint.batchUrl env.toJson) ex
  simp only [post, BatchRun.exec_bind, BatchRun.exec_get, BatchRun.exec_liftM]
  split
  · next e authFailed =>
    exact ⟨k, [], atLeastOne, atMost, by simpa using tokens, by simp, by simp, fun _ => ⟨e, rfl⟩⟩
  · next signed authOk =>
    obtain ⟨token, rfl⟩ := authorized signed authOk
    have sent := Exchange.answer_sent
      ((c.client.authorize (HttpRequest.postJson c.client.endpoint.batchUrl env.toJson)).exec ex).2
      ((HttpRequest.postJson c.client.endpoint.batchUrl env.toJson).withBearer token)
    refine ⟨k, [(HttpRequest.postJson c.client.endpoint.batchUrl env.toJson).withBearer token],
      atLeastOne, atMost, ?_, by simp, ?_, by simp⟩
    · simp only [BatchRun.exec_bind, BatchRun.exec_liftM, send_exec]
      split
      · simp [sent, tokens]
      · split
        · simp [sent, tokens]
        · split <;> simp [sent, tokens]
    · intro req member
      simp only [List.mem_singleton] at member
      subst member
      exact ⟨rfl, rfl⟩

theorem settle_spec (serviced : List ServicedRequest) :
    ∀ (retry : List String) (c : Coordinator) (ex : Exchange) (result : Except BatchError (List String))
      (c' : Coordinator) (ex' : Exchange),
      (settle serviced retry).exec c ex = ((result, c'), ex') →
      ex' = ex ∧ Settles c c' ∧ ∀ e, result = .error e → e.isRetryable = false := by
  induction serviced with
  | nil =>
    intro retry c ex result c' ex' settled
    simp only [settle, BatchRun.exec_pure, Prod.mk.injEq] at settled
    obtain ⟨⟨rfl, rfl⟩, rfl⟩ := settled
    exact ⟨rfl, Settles.refl c, fun e failed => nomatch failed⟩
  | cons s rest ih =>
    intro retry c ex result c' ex' settled
    simp only [settle, BatchRun.exec_bind, BatchRun.exec_get] at settled
    by_cases pending : c.isPending s.id = true
    · simp only [pending, Bool.not_true, Bool.false_eq_true, if_false] at settled
      generalize s.classify = outcome at settled
      cases outcome with
      | success =>
        simp only [BatchRun.exec_bind, BatchRun.exec_set] at settled
        obtain ⟨same, settles, terminal⟩ := ih _ _ _ result c' ex' settled
        exact ⟨same, Settles.resolve pending settles, terminal⟩
      | dropped reason failure =>
        simp only [BatchRun.exec_bind, BatchRun.exec_set] at settled
        obtain ⟨same, settles, terminal⟩ := ih _ _ _ result c' ex' settled
        exact ⟨same, Settles.skip _ pending rfl settles, terminal⟩
      | retryable failure => exact ih _ c ex result c' ex' settled
      | terminal kind detail =>
        simp only [BatchRun.exec_pure, Prod.mk.injEq] at settled
        obtain ⟨⟨rfl, rfl⟩, rfl⟩ := settled
        refine ⟨rfl, Settles.refl c, ?_⟩
        intro e failed
        cases failed
        rfl
    · simp only [pending, Bool.not_false, if_true] at settled
      exact ih retry c ex result c' ex' settled

theorem settleOutcome_spec {ids : List String} {outcome : BatchOutcome} {c c' : Coordinator}
    {ex ex' : Exchange} {result : Except BatchError (List String)}
    (settled : (settleOutcome ids outcome).exec c ex = ((result, c'), ex')) :
    ex' = ex ∧ Settles c c' ∧ (∀ e, result = .error e → e.isRetryable = false) ∧
      ∀ next, result = .ok next → ∃ chosen : String → Bool, next = c'.order.filter chosen ∧
        ∀ id ∈ ids, c'.isPending id = true → chosen id = true := by
  simp only [settleOutcome, BatchRun.exec_bind] at settled
  rcases first : (settle outcome.serviced []).exec c ex with ⟨⟨firstResult, c₁⟩, ex₁⟩
  obtain ⟨same, settles, terminal⟩ := settle_spec outcome.serviced [] c ex _ _ _ first
  rw [first] at settled
  cases firstResult with
  | error e =>
    simp only [BatchRun.exec_pure, Prod.mk.injEq] at settled
    obtain ⟨⟨rfl, rfl⟩, rfl⟩ := settled
    refine ⟨same, settles, fun e' failed => ?_, (fun next failed => nomatch failed)⟩
    cases failed
    exact terminal e rfl
  | ok retry =>
    simp only [BatchRun.exec_bind, BatchRun.exec_get, BatchRun.exec_pure, Prod.mk.injEq] at settled
    obtain ⟨⟨rfl, rfl⟩, rfl⟩ := settled
    refine ⟨same, settles, (fun e failed => nomatch failed), ?_⟩
    intro next nextEq
    cases nextEq
    refine ⟨_, rfl, ?_⟩
    intro id member pending
    simp only [List.contains_append, Bool.or_eq_true, List.contains_iff_mem, List.mem_filter,
      Bool.and_eq_true, Bool.not_eq_true']
    -- an id of the round still pending is retried by the serviced list, by the unserviced
    -- list, or else as one the outcome did not report
    by_cases earlier : (retry ++ List.filter c₁.isPending outcome.unserviced).contains id = true
    · exact Or.inl (by simpa using earlier)
    · exact Or.inr ⟨member, pending, by simpa using earlier⟩

theorem runRound_exec (ids : List String) (c : Coordinator) (ex : Exchange) :
    (runRound ids).exec c ex =
      let posted := (post ⟨uuidOf (ex.issued + 1), c.envelopesOf ids⟩).exec c
        { ex with issued := ex.issued + 1 }
      match posted.1.1 with
      | .error e => ((.error e, c), posted.2)
      | .ok outcome => (settleOutcome ids outcome).exec c posted.2 := by
  have unchanged := post_coordinator ⟨uuidOf (ex.issued + 1), c.envelopesOf ids⟩ c
    { ex with issued := ex.issued + 1 }
  simp only [runRound, BatchRun.exec_bind, BatchRun.exec_get, BatchRun.exec_liftM,
    BatchEnvelope.make_exec]
  rw [unchanged]
  rcases (post ⟨uuidOf (ex.issued + 1), c.envelopesOf ids⟩).exec c { ex with issued := ex.issued + 1 } with
    ⟨⟨result, c₁⟩, ex₁⟩
  cases result <;> rfl

/-- What a round does to the coordinator: it settles pending writes, and a retryable failure
changes nothing. -/
theorem runRound_spec {ids : List String} {c c' : Coordinator} {ex ex' : Exchange}
    {result : Except BatchError (List String)}
    (ran : (runRound ids).exec c ex = ((result, c'), ex')) :
    Settles c c' ∧ (∀ e, result = .error e → e.isRetryable = true → c' = c) ∧
      ∀ next, result = .ok next → ∃ chosen : String → Bool, next = c'.order.filter chosen ∧
        ∀ id ∈ ids, c'.isPending id = true → chosen id = true := by
  rw [runRound_exec] at ran
  dsimp only at ran
  split at ran
  · simp only [Prod.mk.injEq] at ran
    obtain ⟨⟨rfl, rfl⟩, rfl⟩ := ran
    exact ⟨Settles.refl c, fun _ _ _ => rfl, fun next failed => nomatch failed⟩
  · obtain ⟨_, settles, terminal, next⟩ := settleOutcome_spec ran
    refine ⟨settles, ?_, next⟩
    intro e failed retryable
    rw [terminal e failed] at retryable
    cases retryable

theorem runRound_traffic {ids : List String} {c c' : Coordinator} {ex ex' : Exchange}
    {result : Except BatchError (List String)}
    (ran : (runRound ids).exec c ex = ((result, c'), ex')) :
    ∃ k batch, 1 ≤ k ∧ k ≤ c.client.tokens.retry.maxAttempts - 1 + 1 ∧
      ex'.sent.toList = ex.sent.toList ++ List.replicate k c.client.tokens.grantRequest ++ batch ∧
      batch.length ≤ 1 ∧
      (∀ req ∈ batch, req.url = c.client.endpoint.batchUrl ∧
        ∃ batchId, req.body = .json (BatchEnvelope.toJson ⟨batchId, c.envelopesOf ids⟩)) ∧
      (batch = [] → ∃ e, result = .error (.auth e)) := by
  let env : BatchEnvelope := ⟨uuidOf (ex.issued + 1), c.envelopesOf ids⟩
  obtain ⟨k, batch, atLeastOne, atMost, sent, single, carries, unauthorized⟩ :=
    post_traffic env c { ex with issued := ex.issued + 1 }
  have carriesEnvelopes : ∀ req ∈ batch, req.url = c.client.endpoint.batchUrl ∧
      ∃ batchId, req.body = .json (BatchEnvelope.toJson ⟨batchId, c.envelopesOf ids⟩) := by
    intro req member
    obtain ⟨url, body⟩ := carries req member
    exact ⟨url, env.batchRequestId, body⟩
  rw [runRound_exec] at ran
  dsimp only at ran
  split at ran
  · next e failed =>
    simp only [Prod.mk.injEq] at ran
    obtain ⟨⟨rfl, rfl⟩, rfl⟩ := ran
    refine ⟨k, batch, atLeastOne, atMost, sent, single, carriesEnvelopes, ?_⟩
    intro noBatch
    obtain ⟨e', authFailed⟩ := unauthorized noBatch
    rw [failed] at authFailed
    cases authFailed
    exact ⟨e', rfl⟩
  · next outcome posted =>
    obtain ⟨same, -, -, -⟩ := settleOutcome_spec ran
    refine ⟨k, batch, atLeastOne, atMost, by rw [same]; exact sent, single, carriesEnvelopes, ?_⟩
    intro noBatch
    obtain ⟨e', authFailed⟩ := unauthorized noBatch
    rw [posted] at authFailed
    cases authFailed

end Coordinator

end TableSync
