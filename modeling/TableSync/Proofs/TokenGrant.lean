import TableSync.Proofs.PageRead

/-!
Token acquisition with retry: one grant ends in one of five ways decided by its reply, and grants
are sent while they fail transiently, as the auth policy allows.
-/

namespace TableSync

theorem Endpoint.isTokenUrl_tokenUrl (e : Endpoint) : isTokenUrl e.tokenUrl = true := by
  rw [isTokenUrl, Endpoint.tokenUrl, String.endsWith_eq_endsWith_toSlice, String.Slice.endsWith_string_iff]
  simp

def Exchange.tokenReply (ex : Exchange) (i : Nat) : Except TransportError HttpResponse :=
  ex.tokenReplies.getD i (.ok defaultTokenReply)

theorem Exchange.tokenReply_of_drop {ex ex' : Exchange} {k : Nat} (dropped : ex'.tokenReplies = ex.tokenReplies.drop k)
    (i : Nat) : ex'.tokenReply i = ex.tokenReply (k + i) := by
  simp [Exchange.tokenReply, List.getD_eq_getElem?_getD, dropped]

theorem Exchange.answer_token {ex : Exchange} {req : HttpRequest} (token : isTokenUrl req.url = true) :
    ex.answer req = (ex.tokenReply 0, { ex with sent := ex.sent.push req, tokenReplies := ex.tokenReplies.drop 1 }) := by
  unfold Exchange.answer
  cases replies : ex.tokenReplies with
  | nil => simp [token, replies, Exchange.tokenReply]
  | cons r rest => simp [token, replies, Exchange.tokenReply]

section Reply

def GrantsToken (body t : String) : Prop :=
  ∃ v, tokenResponseShape.readText body = .ok v ∧ v.field? "access_token" = some (.string t) ∧ t ≠ ""

def refusalText (body key : String) : Option String :=
  match tokenRefusalShape.readText body with
  | .ok v => (v.field? key).bind Json.str?
  | .error _ => none

def TransientReply : Except TransportError HttpResponse → Prop
  | .error _ => True
  | .ok r => r.status = 429 ∨ 500 ≤ r.status

variable {r : HttpResponse}

theorem readTokenReply_of_success (success : r.isSuccess = true) :
    (∃ t, GrantsToken r.body t ∧ readTokenReply r = .ok ⟨t⟩) ∨
      ((∀ t, ¬GrantsToken r.body t) ∧ ∃ message, readTokenReply r = .error (.invalidResponse message)) := by
  unfold readTokenReply
  rw [if_pos success]
  cases read : tokenResponseShape.readText r.body with
  | error e =>
    refine .inr ⟨fun t ⟨v, readOk, _⟩ => ?_, e.text, rfl⟩
    rw [read] at readOk
    cases readOk
  | ok v =>
    dsimp only
    -- a body that reads gives a token only as a non-empty string under `access_token`
    have noToken : (∀ t, v.field? "access_token" ≠ some (.string t) ∨ t = "") → ∀ t, ¬GrantsToken r.body t := by
      rintro none t ⟨v', readOk, found, nonempty⟩
      rw [read] at readOk
      cases readOk
      rcases none t with absent | empty
      · exact absent found
      · exact nonempty empty
    cases token : v.field? "access_token" with
    | some j =>
      cases j with
      | string t =>
        by_cases empty : t = ""
        · refine .inr ⟨noToken fun t' => ?_, "response carries no access_token", by simp [empty]⟩
          by_cases same : t' = t
          · exact .inr (same.trans empty)
          · exact .inl (by simp [token, Ne.symm same])
        · exact .inl ⟨t, ⟨v, read, token, empty⟩, by simp [empty]⟩
      | _ => exact .inr ⟨noToken fun t => .inl (by simp [token]), "response carries no access_token", rfl⟩
    | none => exact .inr ⟨noToken fun t => .inl (by simp [token]), "response carries no access_token", rfl⟩

theorem isSuccess_of_unavailable (unavailable : r.status = 429 ∨ 500 ≤ r.status) : r.isSuccess = false := by
  rcases unavailable with throttled | down <;> simp [HttpResponse.isSuccess] <;> omega

theorem readTokenReply_of_unavailable (unavailable : r.status = 429 ∨ 500 ≤ r.status) :
    readTokenReply r = .error (.unavailable r.status r.body) := by
  have failed := isSuccess_of_unavailable unavailable
  unfold readTokenReply
  have flagged : (r.status == 429 || decide (r.status ≥ 500)) = true := by
    rcases unavailable with throttled | down
    · simp [throttled]
    · simp [down]
  rw [if_neg (by simp [failed]), if_pos flagged]

theorem readTokenReply_of_refused (failed : r.isSuccess = false) (notThrottled : r.status ≠ 429)
    (belowServerErrors : r.status < 500) :
    readTokenReply r = .error (.rejected r.status ((refusalText r.body "error").getD "unknown_error")
      ((refusalText r.body "error_description").getD "")) := by
  unfold readTokenReply
  have unflagged : (r.status == 429 || decide (r.status ≥ 500)) = false := by
    simp [notThrottled, Nat.not_le.mpr belowServerErrors]
  rw [if_neg (by simp [failed]), if_neg (by simp [unflagged])]
  cases read : tokenRefusalShape.readText r.body with
  | error e => simp [refusalText, read, Json.field?]
  | ok v => simp [refusalText, read]

end Reply

namespace TokenProvider

def grantOutcome : Except TransportError HttpResponse → Except AuthError AccessToken
  | .error e => .error (.transport e)
  | .ok r => readTokenReply r

theorem grantOutcome_transient_iff (reply : Except TransportError HttpResponse) :
    (∃ e, grantOutcome reply = .error e ∧ e.isTransient = true) ↔ TransientReply reply := by
  cases reply with
  | error e => exact ⟨fun _ => trivial, fun _ => ⟨.transport e, rfl, rfl⟩⟩
  | ok r =>
    constructor
    · rintro ⟨e, failed, transient⟩
      cases success : r.isSuccess with
      | true =>
        -- a success grants a token or is an invalid response, neither of them transient
        rcases readTokenReply_of_success success with ⟨t, -, granted⟩ | ⟨-, message, invalid⟩
        · rw [grantOutcome, granted] at failed
          cases failed
        · rw [grantOutcome, invalid] at failed
          cases failed
          cases transient
      | false =>
        by_cases unavailable : r.status = 429 ∨ 500 ≤ r.status
        · exact unavailable
        · rw [grantOutcome, readTokenReply_of_refused success (by omega) (by omega)] at failed
          cases failed
          cases transient
    · intro unavailable
      exact ⟨_, readTokenReply_of_unavailable unavailable, rfl⟩

def disposition (e : AuthError) : Disposition := if e.isTransient then .retry else .stop

theorem retried_iff (reply : Except TransportError HttpResponse) :
    (∃ e, grantOutcome reply = .error e ∧ disposition e = .retry) ↔ TransientReply reply := by
  rw [← grantOutcome_transient_iff]
  constructor
  · rintro ⟨e, failed, retried⟩
    refine ⟨e, failed, ?_⟩
    cases transient : e.isTransient
    · simp [disposition, transient] at retried
    · rfl
  · rintro ⟨e, failed, transient⟩
    exact ⟨e, failed, by simp [disposition, transient]⟩

variable (p : TokenProvider)

theorem acquire_exec (ex : Exchange) :
    p.acquire.exec ex = (grantOutcome (ex.tokenReply 0),
      { ex with sent := ex.sent.push p.grantRequest, tokenReplies := ex.tokenReplies.drop 1 }) := by
  have token : isTokenUrl p.grantRequest.url = true := p.endpoint.isTokenUrl_tokenUrl
  simp only [acquire, Net.exec_bind, send_exec, Exchange.answer_token token]
  cases ex.tokenReply 0 <;> rfl

theorem Tries.grants {k : Nat} {ex ex' : Exchange} (tries : RetryPolicy.Tries p.acquire disposition k ex ex') :
    ex'.tokenReplies = ex.tokenReplies.drop k ∧
      ex'.sent.toList = ex.sent.toList ++ List.replicate k p.grantRequest ∧
      ∀ i, i < k → TransientReply (ex.tokenReply i) := by
  induction tries with
  | none ex => exact ⟨rfl, by simp, fun i below => absurd below (Nat.not_lt_zero i)⟩
  | @retry k ex ex₁ ex' e ranOnce retried rest ih =>
    rw [acquire_exec] at ranOnce
    obtain ⟨failed, next⟩ := Prod.mk.inj ranOnce
    subst next
    obtain ⟨replies, sent, transient⟩ := ih
    refine ⟨by rw [replies, List.drop_drop, Nat.add_comm], ?_, ?_⟩
    · rw [sent, Array.toList_push, List.replicate_succ, List.append_assoc]
      rfl
    · intro i below
      cases i with
      | zero => exact (retried_iff _).mp ⟨e, failed, retried⟩
      | succ i =>
        have later := transient i (by omega)
        rwa [Exchange.tokenReply_of_drop rfl, Nat.add_comm] at later

def settle : Except (RetryError AuthError) AccessToken → Except AuthError AccessToken
  | .ok t => .ok t
  | .error (.fatal e) => .error e
  | .error (.attemptsExceeded attempts last) => .error (.exhausted attempts last)

theorem acquireWithRetry_exec (ex : Exchange) :
    p.acquireWithRetry.exec ex =
      (settle ((RetryPolicy.runFrom p.acquire disposition (p.retry.maxAttempts - 1) 0).exec ex).1,
       ((RetryPolicy.runFrom p.acquire disposition (p.retry.maxAttempts - 1) 0).exec ex).2) := by
  rfl

structure Acquired (k : Nat) (ex : Exchange) (acquired : Except AuthError AccessToken × Exchange) : Prop where
  atLeastOne : 1 ≤ k
  withinPolicy : k ≤ p.retry.maxAttempts
  retriedTransient : ∀ i, i + 1 < k → TransientReply (ex.tokenReply i)
  stoppedEarly : k < p.retry.maxAttempts → ¬TransientReply (ex.tokenReply (k - 1))
  sent : acquired.2.sent.toList = ex.sent.toList ++ List.replicate k p.grantRequest
  taken : acquired.2.tokenReplies = ex.tokenReplies.drop k
  steady : ¬TransientReply (ex.tokenReply (k - 1)) → acquired.1 = grantOutcome (ex.tokenReply (k - 1))
  exhausted : TransientReply (ex.tokenReply (k - 1)) → k = p.retry.maxAttempts ∧
    ∃ last, grantOutcome (ex.tokenReply (k - 1)) = .error last ∧
      acquired.1 = .error (.exhausted p.retry.maxAttempts last)

theorem acquireWithRetry_acquired (atLeastOne : 1 ≤ p.retry.maxAttempts) (ex : Exchange) :
    ∃ k, Acquired p k ex (p.acquireWithRetry.exec ex) := by
  generalize acquiredEq : p.acquireWithRetry.exec ex = acquired
  rcases ran : (RetryPolicy.runFrom p.acquire disposition (p.retry.maxAttempts - 1) 0).exec ex
    with ⟨result, ex''⟩
  obtain ⟨k, ex', tries, bound, last, ranLast, ends⟩ :=
    RetryPolicy.runFrom_cases p.acquire disposition (p.retry.maxAttempts - 1) 0 ex result ex'' ran
  obtain ⟨replies, sent, transient⟩ := Tries.grants p tries
  have settled : acquired = (settle result, ex'') := by
    rw [← acquiredEq, acquireWithRetry_exec, ran]
  -- the last grant takes the reply after the `k` retried ones
  have lastReply : ex'.tokenReply 0 = ex.tokenReply k := Exchange.tokenReply_of_drop replies 0
  rw [acquire_exec, lastReply] at ranLast
  obtain ⟨lastIs, lastEx⟩ := Prod.mk.inj ranLast
  subst lastIs lastEx
  have index : k + 1 - 1 = k := Nat.add_sub_cancel k 1
  refine ⟨k + 1, by omega, by omega, fun i below => transient i (by omega), ?_, ?_, ?_, ?_, ?_⟩
  · intro below retried
    rw [index] at retried
    obtain ⟨e, failed, retry⟩ := (retried_iff _).mpr retried
    have := (ends.exhausted e failed retry).1
    omega
  · rw [settled, Array.toList_push, sent, List.replicate_succ', List.append_assoc]
  · rw [settled, replies, List.drop_drop, Nat.add_comm]
  · intro steady
    rw [index] at steady ⊢
    have final := RetryPolicy.final_of_not_retried fun retried => steady ((retried_iff _).mp retried)
    rw [settled]
    cases outcome : grantOutcome (ex.tokenReply k) with
    | ok t =>
      rw [outcome] at ends
      rw [ends.ok t rfl]
      rfl
    | error e =>
      rw [outcome] at ends final
      rw [ends.stop e rfl (final e rfl)]
      rfl
  · intro retried
    rw [index] at retried ⊢
    obtain ⟨e, failed, retry⟩ := (retried_iff _).mpr retried
    obtain ⟨spent, exhausted⟩ := ends.exhausted e failed retry
    refine ⟨by omega, e, failed, ?_⟩
    have reported : 0 + k + 1 = p.retry.maxAttempts := by omega
    rw [settled, exhausted, reported]
    rfl

/-- The five ways one grant ends, by its reply. -/
structure GrantClasses (reply : Except TransportError HttpResponse) : Prop where
  transient : TransientReply reply ↔ ∃ e, grantOutcome reply = .error e ∧ e.isTransient = true
  unreachable : ∀ e, reply = .error e → grantOutcome reply = .error (.transport e)
  unavailable : ∀ r, reply = .ok r → (r.status = 429 ∨ 500 ≤ r.status) →
    grantOutcome reply = .error (.unavailable r.status r.body)
  success : ∀ r, reply = .ok r → r.isSuccess = true →
    (∃ t, GrantsToken r.body t ∧ grantOutcome reply = .ok ⟨t⟩) ∨
      ((∀ t, ¬GrantsToken r.body t) ∧ ∃ message, grantOutcome reply = .error (.invalidResponse message))
  rejected : ∀ r, reply = .ok r → r.isSuccess = false → r.status ≠ 429 → r.status < 500 →
    grantOutcome reply = .error (.rejected r.status ((refusalText r.body "error").getD "unknown_error")
      ((refusalText r.body "error_description").getD ""))

theorem grantClasses (reply : Except TransportError HttpResponse) : GrantClasses reply := by
  refine ⟨(grantOutcome_transient_iff reply).symm, ?_, ?_, ?_, ?_⟩
  · rintro e rfl
    rfl
  · rintro r rfl unavailable
    exact readTokenReply_of_unavailable unavailable
  · rintro r rfl success
    exact readTokenReply_of_success success
  · rintro r rfl failed notThrottled belowServerErrors
    exact readTokenReply_of_refused failed notThrottled belowServerErrors

/-- Token acquisition retries transient failures only, at most as often as the auth policy
allows. -/
theorem acquisition_retries_only_transient_failures (atLeastOne : 1 ≤ p.retry.maxAttempts) (ex : Exchange) :
    (∃ k, Acquired p k ex (p.acquireWithRetry.exec ex)) ∧ ∀ reply, GrantClasses reply :=
  ⟨p.acquireWithRetry_acquired atLeastOne ex, grantClasses⟩

theorem reset_and_maintenance_then_granted :
    let p : TokenProvider :=
      ⟨Endpoint.make "https://dev.service-now.com", ⟨"client", "s3cret", "integration", "hunter2"⟩,
        RetryPolicy.fixed 3 0⟩
    let ex := Exchange.make [.error (.connection "reset"), .ok (HttpResponse.make 503 "maintenance")] []
    1 ≤ p.retry.maxAttempts ∧ (∃ k, Acquired p k ex (p.acquireWithRetry.exec ex)) ∧ ∀ reply, GrantClasses reply :=
  ⟨by decide, acquisition_retries_only_transient_failures _ (by decide) _⟩

/-- A success whose body is a token response in its positional form, an array holding the token,
has no member named `access_token`, yet it grants the token. -/
theorem positional_token_response_grants :
    let p : TokenProvider :=
      ⟨Endpoint.make "https://dev.service-now.com", ⟨"client", "s3cret", "integration", "hunter2"⟩,
        RetryPolicy.fixed 5 0⟩
    let body := "[\"tok\"]"
    ((Json.parse body).toOption.bind (·.field? "access_token")).isNone = true ∧
      (p.acquireWithRetry.exec (Exchange.make [.ok (HttpResponse.make 200 body)] [])).1.toOption.map
        (·.token) = some "tok" := by
  decide +kernel

end TokenProvider

end TableSync
