import TableSync.Proofs.PageRead

/-!
How a read's response is classified: by its status and the failure its body reports, a body
reporting one exactly when the envelope reader accepts it and it marks a failure.
-/

namespace TableSync

section Occurrence

theorem startsWithChars_iff : ∀ (hay needle : List Char), startsWithChars hay needle = true ↔ needle <+: hay
  | _, [] => by simp [startsWithChars]
  | [], _ :: _ => by simp [startsWithChars]
  | h :: hs, n :: ns => by
    rw [startsWithChars, Bool.and_eq_true, beq_iff_eq, startsWithChars_iff hs ns, List.cons_prefix_cons, eq_comm]

theorem occursIn_iff (needle : List Char) : ∀ hay, occursIn needle hay = true ↔ needle <:+: hay
  | [] => by simp [occursIn, List.infix_nil]
  | h :: hs => by
    rw [occursIn, Bool.or_eq_true, startsWithChars_iff, occursIn_iff needle hs, List.infix_cons_iff]

end Occurrence

def ContainsIgnoringAsciiCase (text needle : String) : Prop :=
  needle.toList.map asciiLowerChar <:+: text.toList.map asciiLowerChar

theorem containsText_asciiLower_iff (text needle : String) :
    containsText (asciiLower text) (asciiLower needle) = true ↔ ContainsIgnoringAsciiCase text needle := by
  rw [containsText, asciiLower, asciiLower, String.toList_ofList, String.toList_ofList, occursIn_iff]
  rfl

namespace ServiceFailure

def Mentions (f : ServiceFailure) (signature : String) : Prop :=
  ∃ text, (f.message = some text ∨ f.detail = some text) ∧ ContainsIgnoringAsciiCase text signature

theorem mentions_iff (f : ServiceFailure) (signature : String) :
    f.mentions signature = true ↔ f.Mentions signature := by
  obtain ⟨message, detail⟩ := f
  cases message <;> cases detail <;>
    simp [mentions, Mentions, containsText_asciiLower_iff, or_and_right, exists_or]

end ServiceFailure

theorem not_within_of_isSuccessStatus_eq_false {status : Nat} (failed : isSuccessStatus status = false) :
    ¬(200 ≤ status ∧ status < 300) := by
  rw [← isSuccessStatus_iff, failed]
  exact Bool.false_ne_true

theorem classifyRead_of_silent {status : Nat} {body : String} (silent : embeddedFailure body = none) :
    classifyRead status body =
      if isSuccessStatus status then .success
      else .terminal .unrecognized ("HTTP " ++ toString status ++ ": " ++ snippet body) := by
  simp only [classifyRead, silent]

theorem classifyRead_of_embedded {status : Nat} {body : String} {failure : ServiceFailure}
    (reported : embeddedFailure body = some failure) :
    classifyRead status body =
      if isSuccessStatus status && failure.exceededExecutionBudget then .retryable failure
      else .terminal (if failure.mentions aclDenialSignature then .permissionDenied else .unrecognized)
        (failure.describe status) := by
  simp only [classifyRead, reported]

/-- An envelope marks a failure: its status is the text `failure` in any ASCII case, or its error
is set to anything but `null`. -/
def FailureMarked (envelope : Json) : Prop :=
  (∃ s, envelope.field? "status" = some (.string s) ∧ asciiLower s = "failure") ∨
    ∃ e, envelope.field? "error" = some e ∧ e ≠ .null

theorem sameIgnoringAsciiCase_failure (s : String) :
    sameIgnoringAsciiCase s "failure" = true ↔ asciiLower s = "failure" := by
  have lowered : asciiLower "failure" = "failure" := by decide
  simp [sameIgnoringAsciiCase, lowered]

theorem embeddedFailure_isSome_iff (body : String) :
    (∃ f, embeddedFailure body = some f) ↔
      ∃ envelope, failureEnvelopeShape.readText body = .ok envelope ∧ FailureMarked envelope := by
  unfold embeddedFailure
  cases read : failureEnvelopeShape.readText body with
  | error e => simp
  | ok envelope =>
    simp only [Except.ok.injEq, exists_eq_left', FailureMarked]
    split
    case h_3 _ e notNull set =>
      -- an error set to anything but `null` is reported, whatever the status says
      exact ⟨fun _ => Or.inr ⟨e, set, notNull⟩, fun _ => ⟨_, rfl⟩⟩
    all_goals
      -- no error, or a `null` one: only the status can report a failure
      have noError : ¬∃ e, envelope.field? "error" = some e ∧ e ≠ .null := by simp_all
      rw [or_iff_left noError]
      split
      next s status => simp [status, sameIgnoringAsciiCase_failure]
      next notText => simp_all

theorem classifyRead_cases (status : Nat) (body : String) :
    (isSuccessStatus status = true ∧ embeddedFailure body = none ∧ classifyRead status body = .success) ∨
    (∃ f, isSuccessStatus status = true ∧ embeddedFailure body = some f ∧ f.exceededExecutionBudget = true ∧
      classifyRead status body = .retryable f) ∨
    (isSuccessStatus status = false ∧ embeddedFailure body = none ∧
      ∃ detail, classifyRead status body = .terminal .unrecognized detail) ∨
    (∃ f, embeddedFailure body = some f ∧ (isSuccessStatus status = false ∨ f.exceededExecutionBudget = false) ∧
      ∃ detail, classifyRead status body =
        .terminal (if f.mentions aclDenialSignature then .permissionDenied else .unrecognized) detail) := by
  cases reported : embeddedFailure body with
  | none =>
    rw [classifyRead_of_silent reported]
    cases success : isSuccessStatus status with
    | true => exact Or.inl ⟨rfl, rfl, rfl⟩
    | false => exact Or.inr (Or.inr (Or.inl ⟨rfl, rfl, _, rfl⟩))
  | some f =>
    rw [classifyRead_of_embedded reported]
    by_cases retried : isSuccessStatus status = true ∧ f.exceededExecutionBudget = true
    · obtain ⟨success, exceeded⟩ := retried
      rw [if_pos (by rw [success, exceeded]; rfl)]
      exact Or.inr (Or.inl ⟨f, success, rfl, exceeded, rfl⟩)
    · have notRetried : isSuccessStatus status = false ∨ f.exceededExecutionBudget = false := by
        cases success : isSuccessStatus status <;> cases exceeded : f.exceededExecutionBudget <;> simp_all
      have guard : (isSuccessStatus status && f.exceededExecutionBudget) = false := by
        rcases notRetried with failed | notExceeded
        · simp [failed]
        · simp [notExceeded]
      rw [guard, if_neg Bool.false_ne_true]
      exact Or.inr (Or.inr (Or.inr ⟨f, rfl, notRetried, _, rfl⟩))

/-- A read is judged by its status and the failure its body reports, and by nothing else. -/
theorem read_classification_follows_reported_failure (status : Nat) (body : String) :
    ((∃ f, embeddedFailure body = some f) ↔
      ∃ envelope, failureEnvelopeShape.readText body = .ok envelope ∧ FailureMarked envelope) ∧
    (classifyRead status body = .success ↔ 200 ≤ status ∧ status < 300 ∧ embeddedFailure body = none) ∧
    (∀ f, classifyRead status body = .retryable f ↔
      200 ≤ status ∧ status < 300 ∧ embeddedFailure body = some f ∧ f.Mentions executionBudgetSignature) ∧
    (∀ reason f, classifyRead status body ≠ .dropped reason f) ∧
    (classifyRead status body = .success ∨ (∃ f, classifyRead status body = .retryable f) ∨
      ∃ kind detail, classifyRead status body = .terminal kind detail ∧
        (kind = .permissionDenied ↔ ∃ f, embeddedFailure body = some f ∧ f.Mentions aclDenialSignature)) := by
  refine ⟨embeddedFailure_isSome_iff body, ?_⟩
  simp only [← ServiceFailure.mentions_iff]
  rcases classifyRead_cases status body with
    ⟨success, silent, read⟩ | ⟨f, success, reported, exceeded, read⟩ | ⟨failed, silent, detail, read⟩ |
      ⟨f, reported, notRetried, detail, read⟩
  · obtain ⟨atLeast, below⟩ := (isSuccessStatus_iff status).mp success
    simp [read, silent, atLeast, below]
  · obtain ⟨atLeast, below⟩ := (isSuccessStatus_iff status).mp success
    have budget : f.mentions executionBudgetSignature = true := exceeded
    refine ⟨by simp [read, reported], fun g => ?_, by simp [read], Or.inr (Or.inl ⟨f, read⟩)⟩
    rw [read, reported]
    constructor
    · rintro ⟨⟩
      exact ⟨atLeast, below, rfl, budget⟩
    · rintro ⟨-, -, ⟨⟩, -⟩
      rfl
  · simpa [read, silent] using not_within_of_isSuccessStatus_eq_false failed
  · refine ⟨by simp [read, reported], fun g => ?_, by simp [read], Or.inr (Or.inr ⟨_, detail, read, ?_⟩)⟩
    · simp only [read, reduceCtorEq, false_iff, reported, Option.some.injEq]
      rintro ⟨atLeast, below, rfl, budget⟩
      -- a retry needs both a success status and the budget named
      rcases notRetried with failed | notExceeded
      · exact not_within_of_isSuccessStatus_eq_false failed ⟨atLeast, below⟩
      · rw [ServiceFailure.exceededExecutionBudget, budget] at notExceeded
        cases notExceeded
    · cases denied : f.mentions aclDenialSignature <;> simp [reported, denied]

/-- A body repeating its error member reports no failure, so a read of it on status 200 succeeds. -/
theorem repeated_error_member_reads_as_success :
    let body := "\x7b\"status\":\"failure\",\"error\":\"boom\",\"error\":\"boom\"\x7d"
    ((Json.parse body).toOption.bind (·.field? "status")).bind Json.str? = some "failure" ∧
      ((Json.parse body).toOption.bind (·.field? "error")).bind Json.str? = some "boom" ∧
      embeddedFailure body = none ∧ classifyRead 200 body = .success := by
  decide +kernel

end TableSync
