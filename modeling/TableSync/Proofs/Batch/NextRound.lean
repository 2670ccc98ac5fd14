import TableSync.Proofs.Batch.Accounting

/-!
Which ids a round answers for the next one: the pending ids, unless the reply asks again for a
pending write and also settles it.
-/

namespace TableSync

def Classification.settles : Classification → Bool
  | .success | .dropped .. => true
  | .retryable _ | .terminal .. => false

def Classification.asksAgain : Classification → Bool
  | .retryable _ => true
  | _ => false

namespace Coordinator

def AskedAgain (id : String) (serviced : List ServicedRequest) : Prop :=
  ∃ before s after, serviced = before ++ s :: after ∧ s.id = id ∧ s.classify.asksAgain = true ∧
    ∀ r ∈ before, r.id = id → r.classify.settles = false

/-- The serviced entries ask again for the write `id` and also settle it. -/
def RetriedThenSettled (id : String) (serviced : List ServicedRequest) : Prop :=
  AskedAgain id serviced ∧ ∃ s ∈ serviced, s.id = id ∧ s.classify.settles = true

theorem askedAgain_cons_other {id : String} {s : ServicedRequest} {rest : List ServicedRequest}
    (other : s.id ≠ id) : AskedAgain id (s :: rest) ↔ AskedAgain id rest := by
  constructor
  · rintro ⟨before, r, after, split, named, asks, earlier⟩
    cases before with
    | nil =>
      cases split
      exact absurd named other
    | cons b before =>
      cases split
      exact ⟨before, r, after, rfl, named, asks, fun r' member => earlier r' (List.mem_cons_of_mem _ member)⟩
  · rintro ⟨before, r, after, split, named, asks, earlier⟩
    refine ⟨s :: before, r, after, by rw [split]; rfl, named, asks, ?_⟩
    intro r' member same
    rcases List.mem_cons.mp member with rfl | inBefore
    · exact absurd same other
    · exact earlier r' inBefore same

theorem askedAgain_cons_settles {s : ServicedRequest} {rest : List ServicedRequest}
    (settles : s.classify.settles = true) : ¬AskedAgain s.id (s :: rest) := by
  rintro ⟨before, r, after, split, named, asks, earlier⟩
  cases before with
  | nil =>
    cases split
    cases outcome : s.classify <;> simp [outcome, Classification.settles, Classification.asksAgain] at settles asks
  | cons b before =>
    cases split
    rw [earlier s List.mem_cons_self rfl] at settles
    cases settles

theorem askedAgain_cons_asks {s : ServicedRequest} {rest : List ServicedRequest}
    (asks : s.classify.asksAgain = true) : AskedAgain s.id (s :: rest) :=
  ⟨[], s, rest, rfl, rfl, asks, fun _ member => nomatch member⟩

theorem isPending_settled (c : Coordinator) (pending : List (String × WriteEnvelope)) (x id : String)
    (removed : pending = c.pending.filter (·.1 != x)) :
    pending.any (·.1 == id) = (c.isPending id && id != x) := by
  rw [removed, isPending]
  by_cases same : id = x
  · subst same
    simp
  · have differs : (id != x) = true := by simpa using same
    rw [differs, Bool.and_true, List.any_filter]
    refine List.any_congr rfl fun entry => ?_
    by_cases named : entry.1 = id
    · simp [named, same]
    · simp [named]

theorem Classification.settles_of_asksAgain {outcome : Classification} (asks : outcome.asksAgain = true) :
    outcome.settles = false := by
  cases outcome <;> simp_all [Classification.asksAgain, Classification.settles]

structure SettledAs (serviced : List ServicedRequest) (retry : List String) (c : Coordinator)
    (retry' : List String) (c' : Coordinator) : Prop where
  pending : ∀ id, c'.isPending id = true ↔
    c.isPending id = true ∧ ∀ s ∈ serviced, s.id = id → s.classify.settles = false
  gathered : ∀ id, id ∈ retry' ↔ id ∈ retry ∨ (c.isPending id = true ∧ AskedAgain id serviced)

theorem SettledAs.nil (retry : List String) (c : Coordinator) : SettledAs [] retry c retry c := by
  refine ⟨fun id => by simp, fun id => ⟨Or.inl, ?_⟩⟩
  rintro (member | ⟨-, before, s, after, split, -⟩)
  · exact member
  · exact absurd split (by simp)

theorem SettledAs.passOver {s : ServicedRequest} {rest : List ServicedRequest} {retry retry' : List String}
    {c c' : Coordinator} (settled : SettledAs rest retry c retry' c') (notPending : c.isPending s.id = false) :
    SettledAs (s :: rest) retry c retry' c' := by
  refine ⟨fun id => ?_, fun id => ?_⟩
  · rw [settled.pending id]
    by_cases named : s.id = id
    · subst named
      simp [notPending]
    · simp [named]
  · rw [settled.gathered id]
    by_cases named : s.id = id
    · subst named
      simp [notPending]
    · rw [askedAgain_cons_other named]

theorem SettledAs.settle {s : ServicedRequest} {rest : List ServicedRequest} {retry retry' : List String}
    {c c₁ c' : Coordinator} (settled : SettledAs rest retry c₁ retry' c')
    (removed : ∀ id, c₁.isPending id = (c.isPending id && id != s.id)) (settles : s.classify.settles = true) :
    SettledAs (s :: rest) retry c retry' c' := by
  refine ⟨fun id => ?_, fun id => ?_⟩
  · rw [settled.pending id, removed id]
    by_cases named : s.id = id
    · subst named
      simp [settles]
    · have differs : id ≠ s.id := Ne.symm named
      simp [named, differs]
  · rw [settled.gathered id, removed id]
    by_cases named : s.id = id
    · subst named
      simp [askedAgain_cons_settles settles]
    · have differs : id ≠ s.id := Ne.symm named
      simp [differs, askedAgain_cons_other named]

theorem SettledAs.askAgain {s : ServicedRequest} {rest : List ServicedRequest} {retry retry' : List String}
    {c c' : Coordinator} (settled : SettledAs rest (retry ++ [s.id]) c retry' c')
    (pending : c.isPending s.id = true) (asks : s.classify.asksAgain = true) :
    SettledAs (s :: rest) retry c retry' c' := by
  refine ⟨fun id => ?_, fun id => ?_⟩
  · rw [settled.pending id]
    by_cases named : s.id = id
    · subst named
      simp [Classification.settles_of_asksAgain asks]
    · simp [named]
  · rw [settled.gathered id]
    by_cases named : s.id = id
    · subst named
      simp [pending, askedAgain_cons_asks asks]
    · have differs : id ≠ s.id := Ne.symm named
      simp [differs, askedAgain_cons_other named]

theorem SettledAs.not_pending {serviced : List ServicedRequest} {retry retry' : List String}
    {c c' : Coordinator} (settled : SettledAs serviced retry c retry' c') {id : String} {s : ServicedRequest}
    (member : s ∈ serviced) (named : s.id = id) (settles : s.classify.settles = true) :
    c'.isPending id = false := by
  cases now : c'.isPending id with
  | false => rfl
  | true =>
    rw [((settled.pending id).mp now).2 s member named] at settles
    cases settles

theorem SettledAs.settled_of_removed {serviced : List ServicedRequest} {retry retry' : List String}
    {c c' : Coordinator} (settled : SettledAs serviced retry c retry' c') {id : String}
    (pending : c.isPending id = true) (now : c'.isPending id = false) :
    ∃ s ∈ serviced, s.id = id ∧ s.classify.settles = true := by
  by_contra none
  have stillPending := (settled.pending id).mpr ⟨pending, fun s member named => by
    cases settles : s.classify.settles with
    | false => rfl
    | true => exact absurd ⟨s, member, named, settles⟩ none⟩
  rw [now] at stillPending
  cases stillPending

theorem settle_ok (serviced : List ServicedRequest) :
    ∀ retry c ex retry' c' ex', (settle serviced retry).exec c ex = ((.ok retry', c'), ex') →
      SettledAs serviced retry c retry' c' := by
  induction serviced with
  | nil =>
    intro retry c ex retry' c' ex' settled
    simp only [settle, BatchRun.exec_pure, Prod.mk.injEq, Except.ok.injEq] at settled
    obtain ⟨⟨rfl, rfl⟩, rfl⟩ := settled
    exact SettledAs.nil retry c
  | cons s rest ih =>
    intro retry c ex retry' c' ex' settled
    simp only [settle, BatchRun.exec_bind, BatchRun.exec_get] at settled
    by_cases pending : c.isPending s.id = true
    · simp only [pending, Bool.not_true, Bool.false_eq_true, if_false] at settled
      have removed : ∀ (resolved : List String) (skipped : List SkippedRecord) id,
          ({ c with pending := c.pending.filter (·.1 != s.id), resolved, skipped } : Coordinator).isPending id =
            (c.isPending id && id != s.id) :=
        fun _ _ id => isPending_settled c _ s.id id rfl
      cases outcome : s.classify with
      | success =>
        simp only [outcome, BatchRun.exec_bind, BatchRun.exec_set] at settled
        exact (ih _ _ _ _ _ _ settled).settle (removed _ c.skipped) (by rw [outcome]; rfl)
      | dropped reason failure =>
        simp only [outcome, BatchRun.exec_bind, BatchRun.exec_set] at settled
        exact (ih _ _ _ _ _ _ settled).settle (removed c.resolved _) (by rw [outcome]; rfl)
      | retryable failure =>
        simp only [outcome] at settled
        exact (ih _ _ _ _ _ _ settled).askAgain pending (by rw [outcome]; rfl)
      | terminal kind detail =>
        simp only [outcome, BatchRun.exec_pure, Prod.mk.injEq] at settled
        cases settled.1.1
    · simp only [pending, Bool.not_false, if_true] at settled
      exact (ih _ _ _ _ _ _ settled).passOver (by simpa using pending)

theorem filter_eq_filter_iff {α : Type} (l : List α) (p q : α → Bool) :
    l.filter p = l.filter q ↔ ∀ x ∈ l, p x = q x := by
  constructor
  · intro same x member
    cases kept : p x with
    | true =>
      have inQ : x ∈ l.filter q := same ▸ List.mem_filter.mpr ⟨member, kept⟩
      exact ((List.mem_filter.mp inQ).2).symm
    | false =>
      cases keptQ : q x with
      | false => rfl
      | true =>
        have inP : x ∈ l.filter p := same ▸ List.mem_filter.mpr ⟨member, keptQ⟩
        rw [(List.mem_filter.mp inP).2] at kept
        cases kept
  · exact List.filter_congr

theorem settleOutcome_ok {ids : List String} {outcome : BatchOutcome} {c c' : Coordinator}
    {ex ex' : Exchange} {next : List String}
    (settled : (settleOutcome ids outcome).exec c ex = ((.ok next, c'), ex')) :
    ∃ retry, (settle outcome.serviced []).exec c ex = ((.ok retry, c'), ex') ∧
      next = c'.order.filter fun x =>
        retry.contains x || (c'.isPending x && (outcome.unserviced.contains x || ids.contains x)) := by
  simp only [settleOutcome, BatchRun.exec_bind] at settled
  rcases first : (settle outcome.serviced []).exec c ex with ⟨⟨firstResult, c₁⟩, ex₁⟩
  rw [first] at settled
  cases firstResult with
  | error e =>
    simp only [BatchRun.exec_pure, Prod.mk.injEq] at settled
    cases settled.1.1
  | ok retry =>
    simp only [BatchRun.exec_bind, BatchRun.exec_get, BatchRun.exec_pure, Prod.mk.injEq,
      Except.ok.injEq] at settled
    obtain ⟨⟨rfl, rfl⟩, rfl⟩ := settled
    refine ⟨retry, rfl, List.filter_congr fun x _ => ?_⟩
    cases inRetry : retry.contains x <;> cases pending : c₁.isPending x <;>
      cases unserviced : outcome.unserviced.contains x <;> cases submitted : ids.contains x <;>
      simp_all

/-- The ids a round answers for the next one are the pending ids exactly when its reply does
not both ask again for a pending write and settle it. -/
theorem next_round_is_pending_iff {input : List WriteEnvelope} {c c' : Coordinator}
    {ids next : List String} {outcome : BatchOutcome} {ex ex' : Exchange} (between : Between input c ids)
    (settled : (settleOutcome ids outcome).exec { c with rounds := c.rounds + 1 } ex = ((.ok next, c'), ex')) :
    next = c'.pendingIds ↔ ∀ id, c.isPending id = true → ¬RetriedThenSettled id outcome.serviced := by
  have ready := between.ready
  obtain ⟨keep, idsEq, covers⟩ := ready.chosen
  obtain ⟨retry, first, nextEq⟩ := settleOutcome_ok settled
  have gathered : SettledAs outcome.serviced [] { c with rounds := c.rounds + 1 } retry c' :=
    settle_ok _ _ _ _ _ _ _ first
  obtain ⟨-, settles, -⟩ := settle_spec _ _ _ _ _ _ _ first
  have sameOrder : c'.order = c.order := settles.frame.1
  have inOrder : ∀ x, c.isPending x = true → x ∈ c.order := by
    intro x pending
    rw [ready.accounts.order]
    exact ((ready.accounts.isPending_iff x).mp pending).1
  have submitted : ∀ x, c'.isPending x = true → ids.contains x = true := by
    intro x pending
    have wasPending : c.isPending x = true := ((gathered.pending x).mp pending).1
    rw [idsEq, List.contains_iff_mem]
    exact List.mem_filter.mpr ⟨inOrder x wasPending, covers x (inOrder x wasPending) wasPending⟩
  rw [nextEq, pendingIds, filter_eq_filter_iff, sameOrder]
  -- the answer keeps an id gathered as asked again even when the reply settled it, and
  -- keeps a pending id only when the round submitted it
  constructor
  · rintro agree id pending ⟨asked, s, member, named, settlesNow⟩
    have inRetry : retry.contains id = true :=
      List.contains_iff_mem.mpr ((gathered.gathered id).mpr (Or.inr ⟨pending, asked⟩))
    have disagree := agree id (inOrder id pending)
    rw [inRetry, gathered.not_pending member named settlesNow] at disagree
    cases disagree
  · intro never x _
    cases now : c'.isPending x with
    | true => simp [List.contains_iff_mem.mp (submitted x now)]
    | false =>
      have notRetried : retry.contains x = false := by
        cases inRetry : retry.contains x with
        | false => rfl
        | true =>
          rcases (gathered.gathered x).mp (List.contains_iff_mem.mp inRetry) with nothing | ⟨pending, asked⟩
          · cases nothing
          · exact absurd ⟨asked, gathered.settled_of_removed pending now⟩ (never x pending)
      simpa using notRetried

theorem created_write_answers_pending :
    let write : WriteEnvelope := ⟨"r1", "/api/now/table/incident", .post, [], "first", true⟩
    let c : Coordinator :=
      { client := ServiceClient.make (Endpoint.make "dev") ⟨"client", "secret", "user", "password"⟩
          RetryPolicy.forAuth,
        table := "incident", retry := RetryPolicy.forBatch, maxRounds := defaultMaxRounds,
        order := ["r1"], pending := [("r1", write)], resolved := [], skipped := [], rounds := 0 }
    let outcome : BatchOutcome := ⟨[⟨"r1", 201, none⟩], []⟩
    ∃ next c' ex', Between [write] c c.pendingIds ∧
      (settleOutcome c.pendingIds outcome).exec { c with rounds := c.rounds + 1 } (Exchange.make [] []) =
        ((.ok next, c'), ex') ∧
      (next = c'.pendingIds ↔ ∀ id, c.isPending id = true → ¬RetriedThenSettled id outcome.serviced) := by
  intro write c outcome
  have made : make c.client "incident" [write] = .ok c := make_of_nodup c.client "incident" (by decide)
  have between : Between [write] c c.pendingIds := Between.made made
  have answered : ((settleOutcome c.pendingIds outcome).exec { c with rounds := c.rounds + 1 }
      (Exchange.make [] [])).1.1.isOk = true := by decide +kernel
  rcases run : (settleOutcome c.pendingIds outcome).exec { c with rounds := c.rounds + 1 }
    (Exchange.make [] []) with ⟨⟨result, c'⟩, ex'⟩
  rw [run] at answered
  cases result with
  | error e => cases answered
  | ok next => exact ⟨next, c', ex', between, rfl, next_round_is_pending_iff between run⟩

/-- A reply reporting a write out of execution time and then created answers it for another round
although nothing is pending. -/
theorem retried_then_created_write_answered_again :
    let c : Coordinator :=
      { client := ServiceClient.make (Endpoint.make "dev") ⟨"client", "secret", "user", "password"⟩
          RetryPolicy.forAuth,
        table := "incident", retry := RetryPolicy.forBatch, maxRounds := 1, order := ["r1"],
        pending := [("r1", ⟨"r1", "/api/now/table/incident", .post, [], "first", true⟩)],
        resolved := [], skipped := [], rounds := 0 }
    let timedOut : String :=
      "eyJzdGF0dXMiOiJmYWlsdXJlIiwiZXJyb3IiOnsibWVzc2FnZSI6IlRyYW5zYWN0aW9uIGNhbmNlbGxlZDogbWF4aW11bSBleGVjdXRpb24gdGltZSBleGNlZWRlZCIsImRldGFpbCI6IiJ9fQ=="
    let created : String := "eyJyZXN1bHQiOnsic3lzX2lkIjoibmV3In19"
    let outcome : BatchOutcome := ⟨[⟨"r1", 500, some timedOut⟩, ⟨"r1", 201, some created⟩], []⟩
    let run := (settleOutcome c.pendingIds outcome).exec { c with rounds := c.rounds + 1 } (Exchange.make [] [])
    run.1.1.toOption = some ["r1"] ∧ run.1.2.pendingIds = [] := by
  intro c timedOut created outcome run
  decide +kernel

end Coordinator

end TableSync
