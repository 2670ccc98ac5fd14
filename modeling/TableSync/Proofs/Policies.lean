import TableSync.Service.Classify

/-!
The read and write policies agree on a failure status; a write departs from a read only where it can
recover, by dropping a record or asking for a retry.
-/

namespace TableSync

theorem isSuccessStatus_eq_false {status : Nat} (outside : status < 200 ∨ 300 ≤ status) :
    isSuccessStatus status = false := by
  simp only [isSuccessStatus, Bool.and_eq_false_iff, decide_eq_false_iff_not]
  omega

theorem isSuccessStatus_eq_true {status : Nat} (atLeast : 200 ≤ status) (below : status < 300) :
    isSuccessStatus status = true := by
  simp [isSuccessStatus, atLeast, below]

theorem classifyRead_of_reported {status : Nat} {body : String} {failure : ServiceFailure}
    (failed : isSuccessStatus status = false) (reported : embeddedFailure body = some failure) :
    classifyRead status body =
      .terminal (if failure.mentions aclDenialSignature then .permissionDenied else .unrecognized)
        (failure.describe status) := by
  simp [classifyRead, reported, failed]

theorem classifyWrite_of_reported {status : Nat} {body : String} {failure : ServiceFailure}
    (failed : isSuccessStatus status = false) (reported : embeddedFailure body = some failure) :
    classifyWrite status body =
      if failure.mentions aclDenialSignature then .terminal .permissionDenied (failure.describe status)
      else if failure.mentions duplicateInsertSignature then .dropped .duplicateInsert failure
      else if failure.mentions missingTargetSignature then .dropped .missingUpdateTarget failure
      else if failure.exceededExecutionBudget then .retryable failure
      else .terminal .unrecognized (failure.describe status) := by
  simp only [classifyWrite, failed, reported, Option.getD_some, Bool.false_eq_true, if_false]

theorem classifyWrite_of_success {status : Nat} (body : String) (atLeast : 200 ≤ status)
    (below : status < 300) : classifyWrite status body = .success := by
  simp [classifyWrite, isSuccessStatus_eq_true atLeast below]

def reportedWriteFailure (body : String) : ServiceFailure :=
  (embeddedFailure body).getD
    { message := none, detail := if (trimText body).isEmpty then none else some (snippet body) }

theorem classifyWrite_eq_terminal {status : Nat} {body : String} {kind : TerminalKind} {detail : String}
    (stopped : classifyWrite status body = .terminal kind detail) :
    (kind = .permissionDenied ↔ (reportedWriteFailure body).mentions aclDenialSignature = true) ∧
      detail = (reportedWriteFailure body).describe status := by
  unfold classifyWrite at stopped
  rw [← reportedWriteFailure] at stopped
  generalize reportedWriteFailure body = failure at stopped ⊢
  -- only the access-control branch and the last one are terminal
  split at stopped
  · cases stopped
  · by_cases denied : failure.mentions aclDenialSignature = true
    · simp only [denied, if_true, Classification.terminal.injEq] at stopped
      obtain ⟨rfl, rfl⟩ := stopped
      exact ⟨by simp [denied], rfl⟩
    · simp only [denied, Bool.false_eq_true, if_false] at stopped
      split at stopped
      · cases stopped
      · split at stopped
        · cases stopped
        · split at stopped
          · cases stopped
          · simp only [Classification.terminal.injEq] at stopped
            obtain ⟨rfl, rfl⟩ := stopped
            exact ⟨by simp [denied], rfl⟩

/-- A write is judged as a read is, except where it can recover by dropping a record or asking
for a retry. -/
theorem write_policy_refines_read_policy :
    (∀ (status : Nat) (body : String) (failure : ServiceFailure),
      (status < 200 ∨ 300 ≤ status) → embeddedFailure body = some failure →
      (∃ kind, classifyRead status body = .terminal kind (failure.describe status) ∧
        (kind = .permissionDenied ↔ failure.mentions aclDenialSignature = true)) ∧
      classifyWrite status body =
        if failure.mentions aclDenialSignature then classifyRead status body
        else if failure.mentions duplicateInsertSignature then .dropped .duplicateInsert failure
        else if failure.mentions missingTargetSignature then .dropped .missingUpdateTarget failure
        else if failure.exceededExecutionBudget then .retryable failure
        else classifyRead status body) ∧
    ∀ (status : Nat) (body : String), 200 ≤ status → status < 300 →
      classifyWrite status body = .success := by
  refine ⟨fun status body failure outside reported => ?_,
    fun status body atLeast below => classifyWrite_of_success body atLeast below⟩
  have failed := isSuccessStatus_eq_false outside
  rw [classifyWrite_of_reported failed reported, classifyRead_of_reported failed reported]
  -- the two policies part only on failures that name no access-control denial
  cases denied : failure.mentions aclDenialSignature with
  | true => exact ⟨⟨.permissionDenied, rfl, by simp⟩, rfl⟩
  | false => exact ⟨⟨.unrecognized, rfl, by simp⟩, rfl⟩

theorem missing_target_dropped_by_write_only :
    let body := "\x7b\"status\":\"failure\",\"error\":\x7b\"message\":\"No Record found\",\"detail\":\"gone\"\x7d\x7d"
    let failure : ServiceFailure := ⟨some "No Record found", some "gone"⟩
    (404 < 200 ∨ 300 ≤ 404) ∧ embeddedFailure body = some failure ∧
      classifyRead 404 body = .terminal .unrecognized "No Record found: gone" ∧
      classifyWrite 404 body = .dropped .missingUpdateTarget failure := by
  intro body failure
  have reported : embeddedFailure body = some failure := by decide +kernel
  obtain ⟨⟨kind, read, permission⟩, write⟩ :=
    write_policy_refines_read_policy.1 404 body failure (Or.inr (by decide)) reported
  have noDenial : failure.mentions aclDenialSignature = false := by decide
  have noDuplicate : failure.mentions duplicateInsertSignature = false := by decide
  have missing : failure.mentions missingTargetSignature = true := by decide
  have unrecognized : kind = .unrecognized := by
    cases kind with
    | permissionDenied => simp [noDenial] at permission
    | unrecognized => rfl
  refine ⟨Or.inr (by decide), reported, ?_, ?_⟩
  · rw [read, unrecognized]
    rfl
  · simp only [write, noDenial, noDuplicate, missing, Bool.false_eq_true, if_false, if_true]

end TableSync
