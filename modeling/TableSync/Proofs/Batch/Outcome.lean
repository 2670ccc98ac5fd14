import TableSync.Proofs.Batch.NextRound
import TableSync.Proofs.Policies

/-!
What one round does with an accepted reply. Entries are judged in reply order while their write is
pending; the first terminal one fails the round, and otherwise the first settling entry of each
write records it once.
-/

namespace TableSync

def Classification.stops : Classification → Bool
  | .terminal .. => true
  | _ => false

def ServicedRequest.text (s : ServicedRequest) : String :=
  match s.body with
  | some encoded => (decodeText encoded).toOption.getD ""
  | none => ""

theorem ServicedRequest.classify_eq (s : ServicedRequest) :
    s.classify = classifyWrite s.statusCode s.text := rfl

namespace Coordinator

/-- The entries that settle a write pending when they are reached: for each pending id, the first
entry that settles it, in reply order. -/
def settlingEntries (pending : String → Bool) : List ServicedRequest → List ServicedRequest
  | [] => []
  | s :: rest =>
    if pending s.id && s.classify.settles then
      s :: settlingEntries (fun id => pending id && id != s.id) rest
    else settlingEntries pending rest

def skippedRecordOf (table : String) (s : ServicedRequest) : Option SkippedRecord :=
  match s.classify with
  | .dropped reason failure =>
    some { requestId := s.id, table, reason, statusCode := s.statusCode,
           message := failure.messageOrEmpty, detail := failure.detail }
  | _ => none

def PendingThrough (c : Coordinator) (before : List ServicedRequest) (id : String) : Prop :=
  c.isPending id = true ∧ ∀ r ∈ before, r.id = id → r.classify.settles = false

def StopsAt (c : Coordinator) (serviced before : List ServicedRequest) (s : ServicedRequest) : Prop :=
  (∃ after, serviced = before ++ s :: after) ∧ PendingThrough c before s.id ∧ s.classify.stops = true

section SettlingEntries

variable {pending : String → Bool} {s : ServicedRequest} {rest : List ServicedRequest}

theorem settlingEntries_cons_settles (kept : pending s.id = true) (settles : s.classify.settles = true) :
    settlingEntries pending (s :: rest) = s :: settlingEntries (fun id => pending id && id != s.id) rest := by
  simp [settlingEntries, kept, settles]

theorem settlingEntries_cons_passes (passes : (pending s.id && s.classify.settles) = false) :
    settlingEntries pending (s :: rest) = settlingEntries pending rest := by
  simp [settlingEntries, passes]

theorem settlingEntries_pending {serviced : List ServicedRequest} {r : ServicedRequest}
    (member : r ∈ settlingEntries pending serviced) : pending r.id = true ∧ r.classify.settles = true := by
  induction serviced generalizing pending with
  | nil => cases member
  | cons s rest ih =>
    by_cases kept : (pending s.id && s.classify.settles) = true
    · rw [Bool.and_eq_true] at kept
      rw [settlingEntries_cons_settles kept.1 kept.2] at member
      rcases List.mem_cons.mp member with rfl | later
      · exact kept
      · obtain ⟨stillPending, settles⟩ := ih later
        exact ⟨(Bool.and_eq_true _ _ ▸ stillPending).1, settles⟩
    · rw [settlingEntries_cons_passes (by simpa using kept)] at member
      exact ih member

theorem settlingEntries_ids_nodup (pending : String → Bool) (serviced : List ServicedRequest) :
    ((settlingEntries pending serviced).map (·.id)).Nodup := by
  induction serviced generalizing pending with
  | nil => exact List.nodup_nil
  | cons s rest ih =>
    by_cases kept : (pending s.id && s.classify.settles) = true
    · rw [Bool.and_eq_true] at kept
      rw [settlingEntries_cons_settles kept.1 kept.2, List.map_cons, List.nodup_cons]
      refine ⟨?_, ih _⟩
      -- the later entries settle writes still pending, and `s.id` no longer is
      intro again
      obtain ⟨r, member, named⟩ := List.mem_map.mp again
      have stillPending := (settlingEntries_pending member).1
      simp [named] at stillPending
    · rw [settlingEntries_cons_passes (by simpa using kept)]
      exact ih pending

theorem mem_settlingEntries_iff {serviced : List ServicedRequest} {r : ServicedRequest} :
    r ∈ settlingEntries pending serviced ↔
      ∃ before after, serviced = before ++ r :: after ∧ pending r.id = true ∧
        r.classify.settles = true ∧ ∀ b ∈ before, b.id = r.id → b.classify.settles = false := by
  induction serviced generalizing pending with
  | nil =>
    simp only [settlingEntries, List.not_mem_nil, false_iff, not_exists, not_and]
    intro before after split
    exact absurd split.symm (by simp)
  | cons s rest ih =>
    by_cases kept : (pending s.id && s.classify.settles) = true
    · rw [Bool.and_eq_true] at kept
      rw [settlingEntries_cons_settles kept.1 kept.2, List.mem_cons, ih]
      constructor
      · rintro (rfl | ⟨before, after, split, stillPending, settles, earlier⟩)
        · exact ⟨[], rest, rfl, kept.1, kept.2, fun _ member => absurd member List.not_mem_nil⟩
        · simp only [Bool.and_eq_true, bne_iff_ne, ne_eq] at stillPending
          obtain ⟨isPending, other⟩ := stillPending
          refine ⟨s :: before, after, by rw [split]; rfl, isPending, settles, ?_⟩
          intro b member same
          rcases List.mem_cons.mp member with rfl | inBefore
          · exact absurd same.symm other
          · exact earlier b inBefore same
      · rintro ⟨before, after, split, isPending, settles, earlier⟩
        cases before with
        | nil =>
          cases split
          exact Or.inl rfl
        | cons b before =>
          cases split
          -- `s` settles, so it settles another write than `r`
          have other : r.id ≠ s.id := fun same => by
            rw [earlier s List.mem_cons_self same.symm] at kept
            cases kept.2
          refine Or.inr ⟨before, after, rfl, by simp [isPending, other], settles, ?_⟩
          exact fun b' member same => earlier b' (List.mem_cons_of_mem _ member) same
    · rw [settlingEntries_cons_passes (by simpa using kept), ih]
      constructor
      · rintro ⟨before, after, split, isPending, settles, earlier⟩
        refine ⟨s :: before, after, by rw [split]; rfl, isPending, settles, ?_⟩
        intro b member same
        rcases List.mem_cons.mp member with rfl | inBefore
        · -- an entry for the same pending write that is passed over does not settle it
          rw [same, isPending] at kept
          simpa using kept
        · exact earlier b inBefore same
      · rintro ⟨before, after, split, isPending, settles, earlier⟩
        cases before with
        | nil =>
          cases split
          exact absurd (by simp [isPending, settles]) kept
        | cons b before =>
          cases split
          exact ⟨before, after, rfl, isPending, settles,
            fun b' member same => earlier b' (List.mem_cons_of_mem _ member) same⟩

end SettlingEntries

theorem mem_settlingEntries_iff_pendingThrough {c : Coordinator} {serviced : List ServicedRequest}
    {s : ServicedRequest} :
    s ∈ settlingEntries c.isPending serviced ↔
      ∃ before after, serviced = before ++ s :: after ∧ PendingThrough c before s.id ∧
        s.classify.settles = true := by
  rw [mem_settlingEntries_iff]
  constructor
  · rintro ⟨before, after, split, pending, settles, earlier⟩
    exact ⟨before, after, split, ⟨pending, earlier⟩, settles⟩
  · rintro ⟨before, after, split, ⟨pending, earlier⟩, settles⟩
    exact ⟨before, after, split, pending, settles, earlier⟩

theorem settle_records (serviced : List ServicedRequest) :
    ∀ retry c ex retry' c' ex', (settle serviced retry).exec c ex = ((.ok retry', c'), ex') →
      c'.resolved = c.resolved ++
          ((settlingEntries c.isPending serviced).filter (·.classify == .success)).map (·.id) ∧
        c'.skipped = c.skipped ++ (settlingEntries c.isPending serviced).filterMap (skippedRecordOf c.table) := by
  induction serviced with
  | nil =>
    intro retry c ex retry' c' ex' settled
    simp only [settle, BatchRun.exec_pure, Prod.mk.injEq, Except.ok.injEq] at settled
    obtain ⟨⟨rfl, rfl⟩, rfl⟩ := settled
    simp [settlingEntries]
  | cons s rest ih =>
    intro retry c ex retry' c' ex' settled
    simp only [settle, BatchRun.exec_bind, BatchRun.exec_get] at settled
    by_cases pending : c.isPending s.id = true
    · simp only [pending, Bool.not_true, Bool.false_eq_true, if_false] at settled
      have removed : ∀ (resolved : List String) (skipped : List SkippedRecord),
          ({ c with pending := c.pending.filter (·.1 != s.id), resolved, skipped } : Coordinator).isPending =
            fun id => c.isPending id && id != s.id :=
        fun _ _ => funext fun id => isPending_settled c _ s.id id rfl
      cases outcome : s.classify with
      | success =>
        simp only [outcome, BatchRun.exec_bind, BatchRun.exec_set] at settled
        obtain ⟨resolved, skipped⟩ := ih _ _ _ _ _ _ settled
        rw [settlingEntries_cons_settles pending (by rw [outcome]; rfl)]
        rw [removed] at resolved skipped
        simp [resolved, skipped, outcome, skippedRecordOf]
      | dropped reason failure =>
        simp only [outcome, BatchRun.exec_bind, BatchRun.exec_set] at settled
        obtain ⟨resolved, skipped⟩ := ih _ _ _ _ _ _ settled
        rw [settlingEntries_cons_settles pending (by rw [outcome]; rfl)]
        rw [removed] at resolved skipped
        simp [resolved, skipped, outcome, skippedRecordOf]
      | retryable failure =>
        simp only [outcome] at settled
        rw [settlingEntries_cons_passes (by simp [outcome, Classification.settles])]
        exact ih _ _ _ _ _ _ settled
      | terminal kind detail =>
        simp only [outcome, BatchRun.exec_pure, Prod.mk.injEq] at settled
        cases settled.1.1
    · simp only [pending, Bool.not_false, if_true] at settled
      rw [settlingEntries_cons_passes (by simp [pending])]
      exact ih _ _ _ _ _ _ settled

section Stops

variable {c c₁ : Coordinator} {s : ServicedRequest} {rest : List ServicedRequest}

def TakesOne (c : Coordinator) (s : ServicedRequest) (c₁ : Coordinator) : Prop :=
  ∀ id, c₁.isPending id = true ↔ PendingThrough c [s] id

theorem pendingThrough_cons (takes : TakesOne c s c₁) (before : List ServicedRequest) (id : String) :
    PendingThrough c (s :: before) id ↔ PendingThrough c₁ before id := by
  simp only [PendingThrough, takes id, List.mem_cons, List.not_mem_nil, or_false, forall_eq_or_imp,
    and_assoc, forall_eq]

theorem stopsAt_cons_cons (takes : TakesOne c s c₁) (before : List ServicedRequest) (r : ServicedRequest) :
    StopsAt c (s :: rest) (s :: before) r ↔ StopsAt c₁ rest before r := by
  simp only [StopsAt, pendingThrough_cons takes, List.cons_append, List.cons.injEq, true_and]

theorem stopsAt_cons_iff (takes : TakesOne c s c₁) (passes : ¬(c.isPending s.id = true ∧ s.classify.stops = true))
    (before : List ServicedRequest) (r : ServicedRequest) :
    StopsAt c (s :: rest) before r ↔ ∃ later, before = s :: later ∧ StopsAt c₁ rest later r := by
  cases before with
  | nil =>
    constructor
    · rintro ⟨⟨after, split⟩, ⟨isPending, -⟩, stops⟩
      obtain ⟨rfl, -⟩ := List.cons.inj split
      exact absurd ⟨isPending, stops⟩ passes
    · rintro ⟨later, split, -⟩
      cases split
  | cons b later =>
    constructor
    · intro stops
      have same : b = s := by
        obtain ⟨⟨after, split⟩, -⟩ := stops
        exact (List.cons.inj split).1.symm
      subst same
      exact ⟨later, rfl, (stopsAt_cons_cons takes later r).mp stops⟩
    · rintro ⟨rest', split, stops⟩
      rw [split]
      exact (stopsAt_cons_cons takes rest' r).mpr stops

theorem takesOne_passOver (notPending : c.isPending s.id = false) : TakesOne c s c := by
  intro id
  simp only [PendingThrough, List.mem_singleton, forall_eq]
  constructor
  · intro isPending
    refine ⟨isPending, fun same => ?_⟩
    rw [same, isPending] at notPending
    cases notPending
  · exact And.left

theorem takesOne_keep (keeps : s.classify.settles = false) : TakesOne c s c := by
  intro id
  simp [PendingThrough, keeps]

theorem takesOne_settle {resolved : List String} {skipped : List SkippedRecord}
    (settles : s.classify.settles = true) :
    TakesOne c s { c with pending := c.pending.filter (·.1 != s.id), resolved, skipped } := by
  intro id
  have removed : ({ c with pending := c.pending.filter (·.1 != s.id), resolved, skipped } : Coordinator).isPending id =
      (c.isPending id && id != s.id) := isPending_settled c _ s.id id rfl
  rw [removed]
  simp only [PendingThrough, List.mem_singleton, forall_eq, Bool.and_eq_true, bne_iff_ne, ne_eq]
  constructor
  · rintro ⟨isPending, other⟩
    exact ⟨isPending, fun same => absurd same.symm other⟩
  · rintro ⟨isPending, notSettled⟩
    refine ⟨isPending, fun same => ?_⟩
    have settledHere := notSettled same.symm
    rw [settles] at settledHere
    cases settledHere

theorem first_stop_of_cons (takes : TakesOne c s c₁) {later : List ServicedRequest}
    (first : ∀ b r', StopsAt c (s :: rest) b r' → (s :: later).length ≤ b.length) :
    ∀ b r', StopsAt c₁ rest b r' → later.length ≤ b.length := by
  intro b r' stops
  have bound := first (s :: b) r' ((stopsAt_cons_cons takes b r').mpr stops)
  simp only [List.length_cons] at bound
  omega

end Stops

theorem settle_stops (serviced : List ServicedRequest) :
    ∀ retry c ex result c' ex', (settle serviced retry).exec c ex = ((result, c'), ex') →
      (∀ before s, StopsAt c serviced before s →
        (∀ b r, StopsAt c serviced b r → before.length ≤ b.length) →
        ∃ kind detail, s.classify = .terminal kind detail ∧
          result = .error (.terminal c.table s.id s.statusCode kind detail)) ∧
      ((∀ before s, ¬StopsAt c serviced before s) → ∃ retry', result = .ok retry') := by
  induction serviced with
  | nil =>
    intro retry c ex result c' ex' settled
    simp only [settle, BatchRun.exec_pure, Prod.mk.injEq] at settled
    obtain ⟨⟨rfl, rfl⟩, rfl⟩ := settled
    refine ⟨?_, fun _ => ⟨retry, rfl⟩⟩
    rintro before s ⟨⟨after, split⟩, -⟩
    exact absurd split.symm (by simp)
  | cons s rest ih =>
    intro retry c ex result c' ex' settled
    -- a step that does not stop moves every stop one entry later
    have onward : ∀ {c₁ : Coordinator}, TakesOne c s c₁ → c₁.table = c.table →
        ¬(c.isPending s.id = true ∧ s.classify.stops = true) →
        ∀ {retry₁ : List String}, (settle rest retry₁).exec c₁ ex = ((result, c'), ex') →
        (∀ before r, StopsAt c (s :: rest) before r →
          (∀ b r', StopsAt c (s :: rest) b r' → before.length ≤ b.length) →
          ∃ kind detail, r.classify = .terminal kind detail ∧
            result = .error (.terminal c.table r.id r.statusCode kind detail)) ∧
        ((∀ before r, ¬StopsAt c (s :: rest) before r) → ∃ retry', result = .ok retry') := by
      intro c₁ takes sameTable passes retry₁ next
      obtain ⟨stopped, finished⟩ := ih retry₁ c₁ ex result c' ex' next
      refine ⟨?_, fun none => finished fun b r stops => none (s :: b) r ((stopsAt_cons_cons takes b r).mpr stops)⟩
      intro before r stops first
      obtain ⟨later, rfl, stopsLater⟩ := (stopsAt_cons_iff takes passes before r).mp stops
      rw [← sameTable]
      exact stopped later r stopsLater (first_stop_of_cons takes first)
    simp only [settle, BatchRun.exec_bind, BatchRun.exec_get] at settled
    by_cases pending : c.isPending s.id = true
    · simp only [pending, Bool.not_true, Bool.false_eq_true, if_false] at settled
      cases outcome : s.classify with
      | success =>
        simp only [outcome, BatchRun.exec_bind, BatchRun.exec_set] at settled
        exact onward (takesOne_settle (by rw [outcome]; rfl)) rfl (by simp [outcome, Classification.stops]) settled
      | dropped reason failure =>
        simp only [outcome, BatchRun.exec_bind, BatchRun.exec_set] at settled
        exact onward (takesOne_settle (by rw [outcome]; rfl)) rfl (by simp [outcome, Classification.stops]) settled
      | retryable failure =>
        simp only [outcome] at settled
        exact onward (takesOne_keep (by rw [outcome]; rfl)) rfl (by simp [outcome, Classification.stops]) settled
      | terminal kind detail =>
        simp only [outcome, BatchRun.exec_pure, Prod.mk.injEq] at settled
        obtain ⟨⟨rfl, rfl⟩, rfl⟩ := settled
        -- `s` itself stops the round, so it is the first stop
        have stopsHere : StopsAt c (s :: rest) [] s :=
          ⟨⟨rest, rfl⟩, ⟨pending, fun _ member => absurd member List.not_mem_nil⟩, by rw [outcome]; rfl⟩
        refine ⟨?_, fun none => absurd stopsHere (none [] s)⟩
        intro before r stops first
        have empty : before = [] := List.eq_nil_of_length_eq_zero (Nat.le_zero.mp (first [] s stopsHere))
        subst empty
        obtain ⟨⟨after, split⟩, -⟩ := stops
        cases split
        exact ⟨kind, detail, outcome, rfl⟩
    · simp only [pending, Bool.not_false, if_true] at settled
      exact onward (takesOne_passOver (by simpa using pending)) rfl (fun both => pending both.1) settled

/-- The outcome of one accepted round: the first terminal entry for a pending write fails it;
otherwise settled writes leave and the rest go to the next round. -/
theorem round_outcome (ids : List String) (outcome : BatchOutcome) (c : Coordinator) (ex : Exchange)
    (inOrder : ∀ id, c.isPending id = true → id ∈ c.order)
    (inRound : ∀ id, c.isPending id = true → id ∈ ids) :
    ∀ result c' ex', (settleOutcome ids outcome).exec c ex = ((result, c'), ex') →
      (∀ before s, StopsAt c outcome.serviced before s →
        (∀ b r, StopsAt c outcome.serviced b r → before.length ≤ b.length) →
        ∃ kind detail, s.classify = .terminal kind detail ∧
          (kind = .permissionDenied ↔ (reportedWriteFailure s.text).mentions aclDenialSignature = true) ∧
          detail = (reportedWriteFailure s.text).describe s.statusCode ∧
          result = .error (.terminal c.table s.id s.statusCode kind detail)) ∧
      ((∀ before s, ¬StopsAt c outcome.serviced before s) →
        ∃ next, result = .ok next ∧
          (∀ id, c'.isPending id = true ↔
            c.isPending id = true ∧ ∀ s ∈ outcome.serviced, s.id = id → s.classify.settles = false) ∧
          c'.resolved = c.resolved ++
            ((settlingEntries c.isPending outcome.serviced).filter (·.classify == .success)).map (·.id) ∧
          c'.skipped = c.skipped ++
            (settlingEntries c.isPending outcome.serviced).filterMap (skippedRecordOf c.table) ∧
          ((settlingEntries c.isPending outcome.serviced).map (·.id)).Nodup ∧
          (∀ s, s ∈ settlingEntries c.isPending outcome.serviced ↔
            ∃ before after, outcome.serviced = before ++ s :: after ∧ PendingThrough c before s.id ∧
              s.classify.settles = true) ∧
          c'.order = c.order ∧
          (∃ keep : String → Bool, next = c.order.filter keep ∧
            ∀ id, keep id = true ↔ c'.isPending id = true ∨ (c.isPending id = true ∧ AskedAgain id outcome.serviced)) ∧
          ∀ id, c.isPending id = true → (∀ s ∈ outcome.serviced, s.id = id → s.classify.settles = false) →
            c'.isPending id = true ∧ id ∈ next) := by
  intro result c' ex' ran
  rcases first : (settle outcome.serviced []).exec c ex with ⟨⟨firstResult, c₁⟩, ex₁⟩
  obtain ⟨stopped, finished⟩ := settle_stops outcome.serviced [] c ex _ _ _ first
  have passedOn : ∀ e, firstResult = .error e → result = .error e := by
    intro e failed
    subst failed
    simp only [settleOutcome, BatchRun.exec_bind, first, BatchRun.exec_pure, Prod.mk.injEq] at ran
    exact ran.1.1.symm
  refine ⟨?_, ?_⟩
  · intro before s stops firstStop
    obtain ⟨kind, detail, terminal, failed⟩ := stopped before s stops firstStop
    obtain ⟨kindIff, detailEq⟩ := classifyWrite_eq_terminal (s.classify_eq ▸ terminal)
    exact ⟨kind, detail, terminal, kindIff, detailEq, passedOn _ failed⟩
  · intro none
    obtain ⟨retry, rfl⟩ := finished none
    obtain ⟨next, answered⟩ : ∃ next, result = .ok next := by
      simp only [settleOutcome, BatchRun.exec_bind, first, BatchRun.exec_get, BatchRun.exec_pure,
        Prod.mk.injEq] at ran
      exact ⟨_, ran.1.1.symm⟩
    subst answered
    obtain ⟨retry', first', nextEq⟩ := settleOutcome_ok ran
    rw [first] at first'
    simp only [Prod.mk.injEq, Except.ok.injEq] at first'
    obtain ⟨⟨rfl, rfl⟩, rfl⟩ := first'
    -- from here on the coordinator after settling is `c₁`
    obtain ⟨resolved, skipped⟩ := settle_records outcome.serviced [] c ex retry c₁ ex₁ first
    have gathered : SettledAs outcome.serviced [] c retry c₁ := settle_ok _ _ _ _ _ _ _ first
    obtain ⟨-, settles, -⟩ := settle_spec _ _ _ _ _ _ _ first
    have sameOrder : c₁.order = c.order := settles.frame.1
    -- a write still pending was pending before, so the round submitted it
    have submitted : ∀ id, c₁.isPending id = true → id ∈ ids := fun id pending =>
      inRound id ((gathered.pending id).mp pending).1
    have keepIff : ∀ id, (retry.contains id || (c₁.isPending id && (outcome.unserviced.contains id ||
        ids.contains id))) = true ↔
          c₁.isPending id = true ∨ (c.isPending id = true ∧ AskedAgain id outcome.serviced) := by
      intro id
      rw [Bool.or_eq_true, List.contains_iff_mem, gathered.gathered id]
      cases now : c₁.isPending id with
      | true => simp [submitted id now]
      | false => simp
    refine ⟨next, rfl, gathered.pending, resolved, skipped, settlingEntries_ids_nodup _ _,
      fun s => mem_settlingEntries_iff_pendingThrough, sameOrder,
      ⟨_, by rw [nextEq, sameOrder], keepIff⟩, ?_⟩
    intro id pending untouched
    have stillPending : c₁.isPending id = true := (gathered.pending id).mpr ⟨pending, untouched⟩
    refine ⟨stillPending, ?_⟩
    rw [nextEq, sameOrder]
    exact List.mem_filter.mpr ⟨inOrder id pending, (keepIff id).mpr (Or.inl stillPending)⟩

theorem created_and_unserviced_round :
    let c : Coordinator :=
      { client := ServiceClient.make (Endpoint.make "dev") ⟨"client", "secret", "user", "password"⟩
          RetryPolicy.forAuth,
        table := "incident", retry := RetryPolicy.forBatch, maxRounds := defaultMaxRounds,
        order := ["r1", "r2"],
        pending := [("r1", ⟨"r1", "/api/now/table/incident", .post, [], "first", true⟩),
                    ("r2", ⟨"r2", "/api/now/table/incident", .post, [], "second", true⟩)],
        resolved := [], skipped := [], rounds := 0 }
    let outcome : BatchOutcome := ⟨[⟨"r1", 201, none⟩], ["r2"]⟩
    (∀ id, c.isPending id = true → id ∈ c.order) ∧ (∀ id, c.isPending id = true → id ∈ ["r1", "r2"]) ∧
    ∀ result c' ex', (settleOutcome ["r1", "r2"] outcome).exec c (Exchange.make [] []) = ((result, c'), ex') →
      (∀ before s, StopsAt c outcome.serviced before s →
        (∀ b r, StopsAt c outcome.serviced b r → before.length ≤ b.length) →
        ∃ kind detail, s.classify = .terminal kind detail ∧
          (kind = .permissionDenied ↔ (reportedWriteFailure s.text).mentions aclDenialSignature = true) ∧
          detail = (reportedWriteFailure s.text).describe s.statusCode ∧
          result = .error (.terminal c.table s.id s.statusCode kind detail)) ∧
      ((∀ before s, ¬StopsAt c outcome.serviced before s) →
        ∃ next, result = .ok next ∧
          (∀ id, c'.isPending id = true ↔
            c.isPending id = true ∧ ∀ s ∈ outcome.serviced, s.id = id → s.classify.settles = false) ∧
          c'.resolved = c.resolved ++
            ((settlingEntries c.isPending outcome.serviced).filter (·.classify == .success)).map (·.id) ∧
          c'.skipped = c.skipped ++
            (settlingEntries c.isPending outcome.serviced).filterMap (skippedRecordOf c.table) ∧
          ((settlingEntries c.isPending outcome.serviced).map (·.id)).Nodup ∧
          (∀ s, s ∈ settlingEntries c.isPending outcome.serviced ↔
            ∃ before after, outcome.serviced = before ++ s :: after ∧ PendingThrough c before s.id ∧
              s.classify.settles = true) ∧
          c'.order = c.order ∧
          (∃ keep : String → Bool, next = c.order.filter keep ∧
            ∀ id, keep id = true ↔ c'.isPending id = true ∨ (c.isPending id = true ∧ AskedAgain id outcome.serviced)) ∧
          ∀ id, c.isPending id = true → (∀ s ∈ outcome.serviced, s.id = id → s.classify.settles = false) →
            c'.isPending id = true ∧ id ∈ next) := by
  intro c outcome
  have named : ∀ id, c.isPending id = true → id = "r1" ∨ id = "r2" := by
    intro id pending
    simp only [isPending, c, List.any_cons, List.any_nil, Bool.or_false, Bool.or_eq_true, beq_iff_eq] at pending
    rcases pending with same | same <;> simp [← same]
  have inOrder : ∀ id, c.isPending id = true → id ∈ c.order := by
    intro id pending
    rcases named id pending with rfl | rfl <;> decide
  have inRound : ∀ id, c.isPending id = true → id ∈ ["r1", "r2"] := by
    intro id pending
    rcases named id pending with rfl | rfl <;> decide
  exact ⟨inOrder, inRound, round_outcome ["r1", "r2"] outcome c (Exchange.make [] []) inOrder inRound⟩

end Coordinator

end TableSync
