import Mathlib.Data.List.Forall2
import TableSync.Engine.Context
import TableSync.Proofs.SplitPlan

/-!
Twelve rules decide whether settings can be used. Validation reports the broken ones in order, and a
context built on settings that pass meets no guard of its own.
-/

namespace TableSync

/-- A rule settings must follow. -/
inductive SettingsRule where
  | endpoint
  | clientId
  | clientSecret
  | username
  | password
  | pageSize
  | batchSize
  | maxBatchRounds
  | requestTimeout
  | retryAuth
  | retryFetch
  | retryBatch
  deriving DecidableEq, Repr

namespace SettingsRule

def all : List SettingsRule :=
  [endpoint, clientId, clientSecret, username, password, pageSize, batchSize, maxBatchRounds,
    requestTimeout, retryAuth, retryFetch, retryBatch]

theorem mem_all (r : SettingsRule) : r ∈ all := by
  cases r <;> decide

def field : SettingsRule → String
  | endpoint => "endpoint"
  | clientId => "client_id"
  | clientSecret => "client_secret"
  | username => "username"
  | password => "password"
  | pageSize => "page_size"
  | batchSize => "batch_size"
  | maxBatchRounds => "max_batch_rounds"
  | requestTimeout => "request_timeout_secs"
  | retryAuth => "retry.auth"
  | retryFetch => "retry.fetch"
  | retryBatch => "retry.batch"

def Holds (s : ServiceSettings) : SettingsRule → Prop
  | endpoint => trimText s.endpoint ≠ "" ∧
      ((urlScheme (trimText s.endpoint)).toOption = some "http" ∨
        (urlScheme (trimText s.endpoint)).toOption = some "https")
  | clientId => trimText s.clientId ≠ ""
  | clientSecret => trimText s.clientSecret ≠ ""
  | username => trimText s.username ≠ ""
  | password => trimText s.password ≠ ""
  | pageSize => 1 ≤ s.pageSize ∧ s.pageSize ≤ maxPageSize
  | batchSize => 1 ≤ s.batchSize
  | maxBatchRounds => 1 ≤ s.maxBatchRounds
  | requestTimeout => 1 ≤ s.requestTimeoutSecs
  | retryAuth => 1 ≤ s.retry.auth.maxAttempts
  | retryFetch => 1 ≤ s.retry.fetch.maxAttempts
  | retryBatch => 1 ≤ s.retry.batch.maxAttempts

instance (s : ServiceSettings) : DecidablePred (Holds s) := fun r =>
  match r with
  | endpoint => inferInstanceAs (Decidable (_ ∧ (_ ∨ _)))
  | clientId | clientSecret | username | password => inferInstanceAs (Decidable (¬_ = _))
  | pageSize => inferInstanceAs (Decidable (_ ∧ _))
  | batchSize | maxBatchRounds | requestTimeout | retryAuth | retryFetch | retryBatch =>
    inferInstanceAs (Decidable (_ ≤ _))

def Names (r : SettingsRule) (message : String) : Prop := r.field.toList <+: message.toList

instance (r : SettingsRule) (message : String) : Decidable (r.Names message) :=
  inferInstanceAs (Decidable (r.field.toList <+: message.toList))

end SettingsRule

open SettingsRule

section Reports

variable {s : ServiceSettings}

def Reported (s : ServiceSettings) (r : SettingsRule) (part : List String) : Prop :=
  (r.Holds s ∧ part = []) ∨ (¬r.Holds s ∧ ∃ message, part = [message] ∧ r.Names message)

theorem Reported.forall₂_cons {r : SettingsRule} {rs : List SettingsRule} {part parts : List String}
    (head : Reported s r part) (rest : List.Forall₂ Names (rs.filter fun r => ¬r.Holds s) parts) :
    List.Forall₂ Names ((r :: rs).filter fun r => ¬r.Holds s) (part ++ parts) := by
  rcases head with ⟨holds, rfl⟩ | ⟨broken, message, rfl, names⟩
  · simpa [List.filter_cons, holds] using rest
  · simpa [List.filter_cons, broken] using List.Forall₂.cons names rest

theorem reported_of_iff (r : SettingsRule) {broken : Bool} {message : String} (names : r.Names message)
    (holds : r.Holds s ↔ broken = false) : Reported s r (if broken then [message] else []) := by
  cases broken
  · exact .inl ⟨holds.mpr rfl, rfl⟩
  · exact .inr ⟨fun follows => by simpa using holds.mp follows, message, rfl, names⟩

theorem reported_of_iff_option (r : SettingsRule) {broken : Bool} {message : String} (names : r.Names message)
    (holds : r.Holds s ↔ broken = false) : Reported s r (if broken then some message else none).toList := by
  rw [apply_ite Option.toList]
  exact reported_of_iff r names holds

theorem forall₂_filterMap {β : Type} {check : β → Option String} :
    ∀ {rules : List SettingsRule} {items : List β},
      List.Forall₂ (fun r item => Reported s r (check item).toList) rules items →
        List.Forall₂ Names (rules.filter fun r => ¬r.Holds s) (items.filterMap check)
  | [], [], .nil => .nil
  | r :: rules, item :: items, .cons head rest => by
    have split : (item :: items).filterMap check = (check item).toList ++ items.filterMap check := by
      rw [List.filterMap_cons]
      cases check item <;> rfl
    rw [split]
    exact Reported.forall₂_cons head (forall₂_filterMap rest)

theorem names_append {r : SettingsRule} {lead : String} (starts : r.Names lead) (rest : String) :
    r.Names (lead ++ rest) := by
  rw [Names, String.toList_append]
  exact starts.trans (List.prefix_append _ _)

theorem names_field (r : SettingsRule) (wording : String) : r.Names (r.field ++ wording) :=
  names_append (List.prefix_refl _) wording

theorem required_iff {value : String} : trimText value ≠ "" ↔ (trimText value).isEmpty = false := by
  rw [ne_eq, ← String.isEmpty_iff, Bool.not_eq_true]

theorem atLeastOne_iff {n : Nat} : 1 ≤ n ↔ (n == 0) = false := by
  rw [beq_eq_false_iff_ne]
  omega

theorem endpoint_reported : Reported s .endpoint s.endpointViolations := by
  unfold ServiceSettings.endpointViolations
  dsimp only
  by_cases blank : (trimText s.endpoint).isEmpty
  · rw [if_pos blank]
    exact .inr ⟨fun holds => holds.1 (String.isEmpty_iff.mp blank), _, rfl, by decide⟩
  · rw [if_neg blank]
    have present : trimText s.endpoint ≠ "" := fun empty => blank (String.isEmpty_iff.mpr empty)
    split
    · next scheme parsed =>
      have option : (urlScheme (trimText s.endpoint)).toOption = some scheme := by rw [parsed]; rfl
      by_cases web : (scheme == "http" || scheme == "https") = true
      · rw [if_pos web]
        refine .inl ⟨⟨present, ?_⟩, rfl⟩
        rw [option]
        simpa using web
      · rw [if_neg web]
        refine .inr ⟨fun holds => web ?_, _, rfl, names_append (names_append (by decide) scheme) "'"⟩
        rw [Holds, option] at holds
        simpa using holds.2
    · next problem failed =>
      have option : (urlScheme (trimText s.endpoint)).toOption = none := by rw [failed]; rfl
      refine .inr ⟨fun holds => ?_, _, rfl,
        names_append (names_append (names_append (by decide) (trimText s.endpoint)) _) problem.text⟩
      rw [Holds, option] at holds
      simp at holds

theorem credentials_reported :
    List.Forall₂ Names ([clientId, clientSecret, username, password].filter fun r => ¬r.Holds s)
      s.credentialViolations :=
  forall₂_filterMap <|
    .cons (reported_of_iff_option .clientId (names_field _ _) required_iff) <|
    .cons (reported_of_iff_option .clientSecret (names_field _ _) required_iff) <|
    .cons (reported_of_iff_option .username (names_field _ _) required_iff) <|
    .cons (reported_of_iff_option .password (names_field _ _) required_iff) .nil

theorem validatePageSize_eq_ok {n : Nat} (atLeast : 1 ≤ n) (atMost : n ≤ maxPageSize) :
    validatePageSize n = .ok () := by
  have inside : (n == 0 || decide (n > maxPageSize)) = false := by
    simp only [Bool.or_eq_false_iff, beq_eq_false_iff_ne, decide_eq_false_iff_not]
    omega
  simp only [validatePageSize, inside, Bool.false_eq_true, if_false]

theorem validatePageSize_eq_error {n : Nat} (outside : ¬(1 ≤ n ∧ n ≤ maxPageSize)) :
    validatePageSize n = .error (.invalidPageSize n) := by
  have refused : (n == 0 || decide (n > maxPageSize)) = true := by
    simp only [Bool.or_eq_true, beq_iff_eq, decide_eq_true_eq]
    omega
  simp only [validatePageSize, refused, if_true]

theorem pageSize_reported :
    Reported s .pageSize (match validatePageSize s.pageSize with
      | .error e => ["page_size: " ++ e.text]
      | .ok () => []) := by
  by_cases inside : 1 ≤ s.pageSize ∧ s.pageSize ≤ maxPageSize
  · rw [validatePageSize_eq_ok inside.1 inside.2]
    exact .inl ⟨inside, rfl⟩
  · rw [validatePageSize_eq_error inside]
    exact .inr ⟨inside, _, rfl, names_append (by decide) _⟩

theorem sizes_reported :
    List.Forall₂ Names ([pageSize, batchSize, maxBatchRounds, requestTimeout].filter fun r => ¬r.Holds s)
      s.sizeViolations := by
  unfold ServiceSettings.sizeViolations
  rw [List.append_assoc, List.append_assoc, ← List.append_nil (if s.requestTimeoutSecs == 0 then _ else _)]
  exact pageSize_reported.forall₂_cons <|
    (reported_of_iff .batchSize (by decide) atLeastOne_iff).forall₂_cons <|
    (reported_of_iff .maxBatchRounds (by decide) atLeastOne_iff).forall₂_cons <|
    (reported_of_iff .requestTimeout (by decide) atLeastOne_iff).forall₂_cons .nil

theorem retries_reported :
    List.Forall₂ Names ([retryAuth, retryFetch, retryBatch].filter fun r => ¬r.Holds s) s.retryViolations :=
  forall₂_filterMap <|
    .cons (reported_of_iff_option .retryAuth (names_field _ _) atLeastOne_iff) <|
    .cons (reported_of_iff_option .retryFetch (names_field _ _) atLeastOne_iff) <|
    .cons (reported_of_iff_option .retryBatch (names_field _ _) atLeastOne_iff) .nil

theorem violations_name_broken_rules (s : ServiceSettings) :
    List.Forall₂ Names (all.filter fun r => ¬r.Holds s) s.violations := by
  have rules : all = endpoint :: ([clientId, clientSecret, username, password] ++
      [pageSize, batchSize, maxBatchRounds, requestTimeout] ++ [retryAuth, retryFetch, retryBatch]) := rfl
  rw [ServiceSettings.violations, List.append_assoc, List.append_assoc, rules]
  refine endpoint_reported.forall₂_cons ?_
  rw [List.filter_append, List.filter_append, List.append_assoc]
  exact List.rel_append credentials_reported (List.rel_append sizes_reported retries_reported)

theorem violations_eq_nil_iff (s : ServiceSettings) : s.violations = [] ↔ ∀ r : SettingsRule, r.Holds s := by
  have same := (violations_name_broken_rules s).length_eq
  rw [← List.length_eq_zero_iff, ← same, List.length_eq_zero_iff, List.filter_eq_nil_iff]
  simp only [decide_not, Bool.not_eq_true', decide_eq_false_iff_not, not_not]
  exact ⟨fun holds r => holds r (mem_all r), fun holds r _ => holds r⟩

theorem validate_eq_ok_iff (s : ServiceSettings) : s.validate = .ok () ↔ ∀ r : SettingsRule, r.Holds s := by
  rw [← violations_eq_nil_iff, ServiceSettings.validate]
  split
  · next none => exact ⟨fun _ => none, fun _ => rfl⟩
  · next messages some => exact ⟨fun refused => (by cases refused), fun none => absurd none some⟩

theorem validate_of_broken {s : ServiceSettings} (broken : ¬∀ r : SettingsRule, r.Holds s) :
    s.validate = .error (.validationFailed s.violations) := by
  have some : s.violations ≠ [] := fun none => broken ((violations_eq_nil_iff s).mp none)
  rw [ServiceSettings.validate]
  split
  · next none => exact absurd none some
  · rfl

end Reports

section Context

/-- What a context's parts keep of its settings: the clamps to at least one leave them as they
are. -/
structure ServiceContext.Unclamped (ctx : ServiceContext) : Prop where
  plans : ∀ table range recordCount,
    ∃ splits, planSplits table recordCount (ctx.reader table range).pageSize = .ok splits
  batchSize : ∀ table mode, (ctx.writer table mode).batchSize = ctx.settings.batchSize
  coordinator : ∀ table envelopes, ctx.coordinator table envelopes =
    (Coordinator.make ctx.client table envelopes).map fun c =>
      { c with retry := ctx.settings.retry.batch.policy, maxRounds := ctx.settings.maxBatchRounds }
  authAttempts : ctx.client.tokens.retry.maxAttempts = ctx.settings.retry.auth.maxAttempts
  fetchAttempts : ctx.fetcher.retry.maxAttempts = ctx.settings.retry.fetch.maxAttempts
  batchAttempts : ctx.settings.retry.batch.policy.maxAttempts = ctx.settings.retry.batch.maxAttempts

theorem RetryConfig.policy_maxAttempts (c : RetryConfig) : c.policy.maxAttempts = max c.maxAttempts 1 := by
  unfold RetryConfig.policy
  split <;> rfl

theorem ServiceContext.unclamped {settings : ServiceSettings} (client : ServiceClient)
    (follows : ∀ r : SettingsRule, r.Holds settings) (authRetry : client.tokens.retry = settings.retry.auth.policy) :
    ServiceContext.Unclamped { settings, client } := by
  have atLeastOne : ∀ {n : Nat}, 1 ≤ n → max n 1 = n := fun bound => Nat.max_eq_left bound
  refine ⟨fun table range recordCount => ?_, fun table mode => ?_, fun table envelopes => ?_, ?_, ?_, ?_⟩
  · have page := follows .pageSize
    exact ⟨_, planSplits_eq_ok page.1 page.2⟩
  · exact atLeastOne (follows .batchSize)
  · simp only [ServiceContext.coordinator, Coordinator.withRetry, Coordinator.withMaxRounds,
      atLeastOne (follows .maxBatchRounds)]
  · rw [authRetry, RetryConfig.policy_maxAttempts, atLeastOne (follows .retryAuth)]
  · exact (RetryConfig.policy_maxAttempts _).trans (atLeastOne (follows .retryFetch))
  · exact (RetryConfig.policy_maxAttempts _).trans (atLeastOne (follows .retryBatch))

theorem ServiceContext.make_of_follows {s : ServiceSettings} (follows : ∀ r : SettingsRule, r.Holds s) :
    ∃ ctx, ServiceContext.make s = .ok ctx ∧ ctx.settings = s ∧ ctx.Unclamped := by
  have passed := (validate_eq_ok_iff s).mpr follows
  refine ⟨_, by rw [ServiceContext.make, passed], rfl, ?_⟩
  exact ServiceContext.unclamped _ follows rfl

theorem ServiceContext.make_of_broken {s : ServiceSettings} (broken : ¬∀ r : SettingsRule, r.Holds s) :
    ServiceContext.make s = .error (.settings (.validationFailed s.violations)) := by
  rw [ServiceContext.make, validate_of_broken broken]

end Context

/-- Validation reports one message per broken rule, in order; a context is built exactly on
settings that pass. -/
theorem settings_validation_reports_every_broken_rule (s : ServiceSettings) :
    (s.validate = .ok () ↔ ∀ r : SettingsRule, r.Holds s) ∧
      ((∀ r : SettingsRule, r.Holds s) ∨ s.validate = .error (.validationFailed s.violations)) ∧
      List.Forall₂ SettingsRule.Names (SettingsRule.all.filter fun r => ¬r.Holds s) s.violations ∧
      (((∃ r : SettingsRule, ¬r.Holds s) ∧ ∃ e, ServiceContext.make s = .error e) ∨
        ∃ ctx, ServiceContext.make s = .ok ctx ∧ ctx.settings = s ∧ ctx.Unclamped) := by
  refine ⟨validate_eq_ok_iff s, ?_, violations_name_broken_rules s, ?_⟩
  · by_cases follows : ∀ r : SettingsRule, r.Holds s
    · exact .inl follows
    · exact .inr (validate_of_broken follows)
  · by_cases follows : ∀ r : SettingsRule, r.Holds s
    · exact .inr (ServiceContext.make_of_follows follows)
    · exact .inl ⟨not_forall.mp follows, _, ServiceContext.make_of_broken follows⟩

end TableSync
