import TableSync.Service.Batch

/-!
Runs of service computations against a scripted exchange. The `@[simp]` lemmas of `Net.exec` and
`BatchRun.exec` take binds, reads and writes apart, so later proofs never unfold the monads.
-/

namespace TableSync

def Net.exec {α : Type} (y : Net α) (ex : Exchange) : α × Exchange := (y.run ex).run

def BatchRun.exec {α : Type} (x : BatchRun α) (c : Coordinator) (ex : Exchange) :
    (α × Coordinator) × Exchange :=
  ((x.run c).run ex).run

namespace Net

variable {α β : Type}

@[simp] theorem exec_pure (a : α) (ex : Exchange) : (pure a : Net α).exec ex = (a, ex) := rfl

@[simp] theorem exec_bind (y : Net α) (f : α → Net β) (ex : Exchange) :
    (y >>= f).exec ex = (f (y.exec ex).1).exec (y.exec ex).2 := rfl

@[simp] theorem exec_map (f : α → β) (y : Net α) (ex : Exchange) :
    (f <$> y).exec ex = (f (y.exec ex).1, (y.exec ex).2) := rfl

end Net

namespace BatchRun

variable {α β : Type}

@[simp] theorem exec_pure (a : α) (c : Coordinator) (ex : Exchange) :
    (pure a : BatchRun α).exec c ex = ((a, c), ex) := rfl

@[simp] theorem exec_bind (x : BatchRun α) (f : α → BatchRun β) (c : Coordinator) (ex : Exchange) :
    (x >>= f).exec c ex = (f (x.exec c ex).1.1).exec (x.exec c ex).1.2 (x.exec c ex).2 := rfl

@[simp] theorem exec_get (c : Coordinator) (ex : Exchange) :
    (get : BatchRun Coordinator).exec c ex = ((c, c), ex) := rfl

@[simp] theorem exec_set (c c' : Coordinator) (ex : Exchange) :
    (set c' : BatchRun PUnit).exec c ex = (((), c'), ex) := rfl

@[simp] theorem exec_modify (f : Coordinator → Coordinator) (c : Coordinator) (ex : Exchange) :
    (modify f : BatchRun PUnit).exec c ex = (((), f c), ex) := rfl

@[simp] theorem exec_liftM (y : Net α) (c : Coordinator) (ex : Exchange) :
    (liftM y : BatchRun α).exec c ex = (((y.exec ex).1, c), (y.exec ex).2) := rfl

end BatchRun

theorem Exchange.answer_sent (ex : Exchange) (req : HttpRequest) :
    (ex.answer req).2.sent = ex.sent.push req := by
  unfold Exchange.answer
  split <;> dsimp only <;> split <;> rfl

@[simp] theorem send_exec (req : HttpRequest) (ex : Exchange) :
    (send req).exec ex = ex.answer req := rfl

@[simp] theorem freshId_exec (ex : Exchange) :
    freshId.exec ex = (uuidOf (ex.issued + 1), { ex with issued := ex.issued + 1 }) := rfl

@[simp] theorem BatchEnvelope.make_exec (restRequests : List WriteEnvelope) (ex : Exchange) :
    (BatchEnvelope.make restRequests).exec ex =
      ({ batchRequestId := uuidOf (ex.issued + 1), restRequests }, { ex with issued := ex.issued + 1 }) :=
  rfl

theorem Endpoint.tokenUrl_ne_batchUrl (a b : Endpoint) : a.tokenUrl ≠ b.batchUrl := by
  intro same
  have lastChar := congrArg (fun s : String => s.toList.getLast?) same
  have tokenLast : tokenPath.toList.getLast? = some 'o' := by decide
  have batchLast : batchApiPath.toList.getLast? = some 'h' := by decide
  simp only [Endpoint.tokenUrl, Endpoint.batchUrl, String.toList_append, List.getLast?_append,
    tokenLast, batchLast, Option.some_or, Option.some.injEq] at lastChar
  exact absurd lastChar (by decide)

theorem TokenProvider.acquire_sent (p : TokenProvider) (ex : Exchange) :
    (p.acquire.exec ex).2.sent = ex.sent.push p.grantRequest := by
  simp only [TokenProvider.acquire, Net.exec_bind, send_exec]
  split <;> simp [Exchange.answer_sent]

theorem RetryPolicy.runFrom_sent {ε α : Type} (op : Net (Except ε α)) (classify : ε → Disposition)
    (req : HttpRequest) (sendsOne : ∀ ex, (op.exec ex).2.sent = ex.sent.push req) :
    ∀ spare attempt ex, ∃ k, 1 ≤ k ∧ k ≤ spare + 1 ∧
      ((RetryPolicy.runFrom op classify spare attempt).exec ex).2.sent.toList =
        ex.sent.toList ++ List.replicate k req := by
  intro spare
  induction spare with
  | zero =>
    intro attempt ex
    refine ⟨1, Nat.le_refl 1, Nat.le_refl 1, ?_⟩
    rw [RetryPolicy.runFrom]
    simp only [Net.exec_bind]
    split <;> (try split) <;> simp [sendsOne]
  | succ spare ih =>
    intro attempt ex
    rw [RetryPolicy.runFrom]
    simp only [Net.exec_bind]
    split
    · exact ⟨1, Nat.le_refl 1, by omega, by simp [sendsOne]⟩
    · split
      · exact ⟨1, Nat.le_refl 1, by omega, by simp [sendsOne]⟩
      · obtain ⟨k, atLeastOne, atMost, sent⟩ := ih (attempt + 1) (op.exec ex).2
        refine ⟨k + 1, by omega, by omega, ?_⟩
        rw [pure_bind, sent, sendsOne, Array.toList_push, List.replicate_succ, List.append_assoc]
        rfl

theorem TokenProvider.acquireWithRetry_sent (p : TokenProvider) (ex : Exchange) :
    ∃ k, 1 ≤ k ∧ k ≤ p.retry.maxAttempts - 1 + 1 ∧
      (p.acquireWithRetry.exec ex).2.sent.toList = ex.sent.toList ++ List.replicate k p.grantRequest := by
  obtain ⟨k, atLeastOne, atMost, sent⟩ :=
    RetryPolicy.runFrom_sent p.acquire (fun e => if e.isTransient then .retry else .stop) p.grantRequest
      (p.acquire_sent) (p.retry.maxAttempts - 1) 0 ex
  exact ⟨k, atLeastOne, atMost, by simpa [TokenProvider.acquireWithRetry, RetryPolicy.run] using sent⟩

/-- Authorizing a request sends only token requests, and an authorized request is the
request itself with a bearer token. -/
theorem ServiceClient.authorize_spec (client : ServiceClient) (req : HttpRequest) (ex : Exchange) :
    (∃ k, 1 ≤ k ∧ k ≤ client.tokens.retry.maxAttempts - 1 + 1 ∧
      ((client.authorize req).exec ex).2.sent.toList =
        ex.sent.toList ++ List.replicate k client.tokens.grantRequest) ∧
    ∀ authorized, ((client.authorize req).exec ex).1 = .ok authorized →
      ∃ token, authorized = req.withBearer token := by
  obtain ⟨k, atLeastOne, atMost, sent⟩ := client.tokens.acquireWithRetry_sent ex
  simp only [ServiceClient.authorize, Net.exec_bind]
  refine ⟨⟨k, atLeastOne, atMost, ?_⟩, ?_⟩
  · split <;> simpa using sent
  · intro authorized authorizedEq
    split at authorizedEq
    · exact ⟨_, (Except.ok.inj authorizedEq).symm⟩
    · cases authorizedEq

end TableSync
