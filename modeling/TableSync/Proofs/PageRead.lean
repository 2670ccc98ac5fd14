import TableSync.Proofs.Traffic
import TableSync.Proofs.Policies
import TableSync.Service.Fetch

/-!
Reading a page with retry: a window out of bounds is refused before anything is sent; otherwise each
attempt gets a token and sends one GET, and `ReadOutcome` says what its reply makes of it.
-/

namespace TableSync

open Lexer

section TableResponse

def resultField : Field := .mk "result" [] (.list .value) none

theorem tableResponseShape_eq : tableResponseShape = .record "TableResponse" [resultField] := rfl

theorem decodeAt_list {src : ByteArray} {fuel depth : Nat} {item : Shape} {pos : Nat} {v : Json} {p : Nat}
    (read : decodeAt src fuel depth (.list item) pos = .ok (v, p)) : ∃ xs, v = .array xs := by
  cases fuel with
  | zero => simp [decodeAt] at read
  | succ fuel =>
    simp only [decodeAt] at read
    split at read
    · cases read
    · split at read
      · cases read
      · split at read
        · split at read
          · cases read
            exact ⟨_, rfl⟩
          · cases read
        · cases read
    · cases read

theorem decodeFieldItems_result {src : ByteArray} {fuel depth : Nat} {name : String} {arity pos : Nat}
    {values : List Json} {p : Nat}
    (read : decodeFieldItems src fuel depth name arity [resultField] pos 0 [] = .ok (.inr (values, p))) :
    ∃ xs, values = [.array xs] := by
  cases fuel with
  | zero => simp [decodeFieldItems] at read
  | succ fuel =>
    simp only [decodeFieldItems] at read
    split at read
    · cases read
    · -- an empty array lacks the field, which has no fallback
      simp [fillFallbacks, resultField, Field.fallback] at read
    · split at read
      · next v r item =>
        obtain ⟨xs, rfl⟩ := decodeAt_list item
        cases fuel with
        | zero => simp [decodeFieldItems] at read
        | succ fuel =>
          simp only [decodeFieldItems, List.reverse_cons, List.reverse_nil, List.nil_append,
            Except.ok.injEq, Sum.inr.injEq, Prod.mk.injEq] at read
          exact ⟨xs, read.1.symm⟩
      · cases read

def ArraySlots (slots : List (Option Json)) : Prop :=
  ∃ slot, slots = [slot] ∧ ∀ v, slot = some v → ∃ xs, v = .array xs

theorem decodeMembers_result {src : ByteArray} (fuel : Nat) :
    ∀ {depth pos : Nat} {first : Bool} {slots slots' : List (Option Json)} {stop : Nat},
      ArraySlots slots →
      decodeMembers src fuel depth [resultField] pos first slots = .ok (.inr (slots', stop)) →
      ArraySlots slots' := by
  -- every member named `result` is read as a list, into the one slot
  induction fuel with
  | zero =>
    intro depth pos first slots slots' stop _ read
    simp [decodeMembers] at read
  | succ fuel ih =>
    intro depth pos first slots slots' stop arrays read
    simp only [decodeMembers] at read
    split at read
    · cases read
    · simp only [Except.ok.injEq, Sum.inr.injEq, Prod.mk.injEq] at read
      rw [← read.1]
      exact arrays
    · split at read
      · cases read
      · split at read
        · next i found =>
          have first : i = 0 := by
            simp [fieldIndex, resultField] at found
            exact found.2.symm
          subst first
          split at read
          · cases read
          · split at read
            · cases read
            · split at read
              · next v q item =>
                obtain ⟨xs, rfl⟩ := decodeAt_list item
                obtain ⟨slot, rfl, _⟩ := arrays
                refine ih ⟨some (.array xs), rfl, ?_⟩ read
                intro v same
                cases same
                exact ⟨xs, rfl⟩
              · cases read
        · split at read
          · cases read
          · split at read
            · exact ih arrays read
            · cases read

theorem completeRecord_result {slots : List (Option Json)} {v : Json} (arrays : ArraySlots slots)
    (completed : completeRecord [resultField] slots = .ok v) : ∃ xs, v = .object [("result", .array xs)] := by
  obtain ⟨slot, rfl, isArray⟩ := arrays
  cases slot with
  | none =>
    simp [completeRecord, Field.whenAbsent, resultField, Field.fallback, Field.shape] at completed
    cases completed
  | some s =>
    obtain ⟨xs, rfl⟩ := isArray s rfl
    simp [completeRecord, resultField, Field.name] at completed
    exact ⟨xs, (Except.ok.inj completed).symm⟩

theorem decodeAt_tableResponse {src : ByteArray} {fuel depth pos : Nat} {v : Json} {p : Nat}
    (read : decodeAt src fuel depth tableResponseShape pos = .ok (v, p)) :
    ∃ xs, v = .object [("result", .array xs)] := by
  rw [tableResponseShape_eq] at read
  cases fuel with
  | zero => simp [decodeAt] at read
  | succ fuel =>
    simp only [decodeAt] at read
    split at read
    · cases read
    · -- the response written as an array of its one field
      split at read
      · cases read
      · split at read
        · cases read
        · cases read
        · next values q items =>
          split at read
          · obtain ⟨xs, rfl⟩ := decodeFieldItems_result items
            simp only [Except.ok.injEq, Prod.mk.injEq] at read
            exact ⟨xs, by rw [← read.1]; rfl⟩
          · cases read
    · -- the response written as an object
      split at read
      · cases read
      · split at read
        · cases read
        · cases read
        · next slots stop members =>
          split at read
          · next v' completed =>
            simp only [Except.ok.injEq, Prod.mk.injEq] at read
            rw [← read.1]
            have start : ArraySlots [none] := ⟨none, rfl, fun _ absent => absurd absent.symm (Option.some_ne_none _)⟩
            exact completeRecord_result (decodeMembers_result _ start members) completed
          · cases read
    · cases read

theorem tableResponseShape_readText {body : String} {v : Json}
    (read : tableResponseShape.readText body = .ok v) : ∃ xs, v = .object [("result", .array xs)] := by
  simp only [Shape.readText] at read
  split at read
  · cases read
  · next v' p decoded =>
    split at read
    · cases read
      exact decodeAt_tableResponse decoded
    · cases read

end TableResponse

section Reply

theorem isSuccessStatus_iff (status : Nat) : isSuccessStatus status = true ↔ 200 ≤ status ∧ status < 300 := by
  simp [isSuccessStatus]

theorem mapM_cons_eq_ok {α β ε : Type} {g : α → Except ε β} {a : α} {l : List α} {rows : List β} :
    (a :: l).mapM g = .ok rows ↔ ∃ r rs, rows = r :: rs ∧ g a = .ok r ∧ l.mapM g = .ok rs := by
  rw [List.mapM_cons]
  cases g a with
  | error e => simp [bind, Except.bind]
  | ok r =>
    cases l.mapM g with
    | error e => simp [bind, Except.bind]
    | ok rs =>
      simp only [bind, Except.bind, pure, Except.pure, Except.ok.injEq]
      constructor
      · intro same
        exact ⟨r, rs, same.symm, rfl, rfl⟩
      · rintro ⟨r', rs', rfl, first, rest⟩
        cases first
        cases rest
        rfl

theorem mapM_rows_ok {ε : Type} {table : String} {g : Json → Except ε Row}
    (asRow : ∀ item row, g item = .ok row ↔ item = .object row.fields ∧ row.entity = table) :
    ∀ (items : List Json) (rows : List Row), items.mapM g = .ok rows ↔
      items = rows.map (fun row => .object row.fields) ∧ ∀ row ∈ rows, row.entity = table := by
  intro items
  induction items with
  | nil =>
    intro rows
    cases rows with
    | nil => exact ⟨fun _ => ⟨rfl, fun _ absent => absurd absent List.not_mem_nil⟩, fun _ => rfl⟩
    | cons row rows =>
      constructor
      · intro read
        cases read
      · rintro ⟨same, -⟩
        cases same
  | cons item items ih =>
    intro rows
    rw [mapM_cons_eq_ok]
    constructor
    · rintro ⟨row, rest, rfl, first, others⟩
      obtain ⟨itemEq, tabled⟩ := (asRow item row).mp first
      obtain ⟨itemsEq, restTabled⟩ := (ih rest).mp others
      refine ⟨by rw [itemEq, itemsEq]; rfl, ?_⟩
      intro r member
      rcases List.mem_cons.mp member with rfl | later
      · exact tabled
      · exact restTabled r later
    · rintro ⟨same, tabled⟩
      cases rows with
      | nil => cases same
      | cons row rest =>
        simp only [List.map_cons, List.cons.injEq] at same
        refine ⟨row, rest, rfl, (asRow item row).mpr ⟨same.1, tabled row List.mem_cons_self⟩, ?_⟩
        exact (ih rest).mpr ⟨same.2, fun r member => tabled r (List.mem_cons_of_mem _ member)⟩

theorem mapM_error {α β ε : Type} {g : α → Except ε β} {P : ε → Prop} (each : ∀ a e, g a = .error e → P e) :
    ∀ (items : List α) (e : ε), items.mapM g = .error e → P e := by
  intro items
  induction items with
  | nil =>
    intro e failed
    cases failed
  | cons item items ih =>
    intro e failed
    rw [List.mapM_cons] at failed
    cases read : g item with
    | error e' =>
      rw [read] at failed
      cases failed
      exact each item e read
    | ok row =>
      rw [read] at failed
      cases rest : items.mapM g with
      | error e' =>
        rw [rest] at failed
        cases failed
        exact ih e rest
      | ok rows =>
        rw [rest] at failed
        cases failed

theorem readRows_ok_iff (table : String) (offset : Nat) (r : HttpResponse) (rows : List Row) :
    readRows table offset r = .ok rows ↔
      tableResponseShape.readText r.body = .ok (.object [("result", .array (rows.map fun row => .object row.fields))]) ∧
        ∀ row ∈ rows, row.entity = table := by
  unfold readRows
  split
  · next e failed =>
    rw [failed]
    simp
  · next v read =>
    obtain ⟨items, rfl⟩ := tableResponseShape_readText read
    rw [read]
    simp only [Json.field?, Json.lookup, if_true, Except.ok.injEq, Json.object.injEq, List.cons.injEq,
      Prod.mk.injEq, Json.array.injEq, true_and, and_true]
    refine mapM_rows_ok ?_ items rows
    intro item row
    cases item with
    | object fields =>
      constructor
      · intro read
        cases read
        exact ⟨rfl, rfl⟩
      · rintro ⟨same, tabled⟩
        rw [Json.object.injEq] at same
        rw [same, ← tabled]
    | _ => simp

theorem readRows_error {table : String} {offset : Nat} {r : HttpResponse} {e : FetchError}
    (failed : readRows table offset r = .error e) : ∃ detail, e = .nonRetryable table offset r.status detail := by
  unfold readRows at failed
  split at failed
  · cases failed
    exact ⟨_, rfl⟩
  · split at failed
    · refine mapM_error (P := fun e => ∃ detail, e = .nonRetryable table offset r.status detail) ?_ _ e failed
      intro item e refused
      cases item with
      | object fields => cases refused
      | _ =>
        cases refused
        exact ⟨_, rfl⟩
    · cases failed

end Reply

section Attempt

theorem checkRead_clean {table : String} {offset status : Nat} {body : String}
    (success : isSuccessStatus status = true) (clean : embeddedFailure body = none) :
    checkRead table offset status body = .ok () := by
  simp [checkRead, classifyRead, clean, success]

theorem checkRead_budget {table : String} {offset status : Nat} {body : String} {failure : ServiceFailure}
    (success : isSuccessStatus status = true) (reported : embeddedFailure body = some failure)
    (budget : failure.exceededExecutionBudget = true) :
    checkRead table offset status body = .error (.retryable table offset (failure.describe status)) := by
  simp [checkRead, classifyRead, reported, success, budget]

theorem checkRead_refused {table : String} {offset status : Nat} {body : String}
    (notClean : ¬(isSuccessStatus status = true ∧ embeddedFailure body = none))
    (noRetry : ¬(isSuccessStatus status = true ∧
      ∃ failure, embeddedFailure body = some failure ∧ failure.exceededExecutionBudget = true)) :
    ∃ detail, checkRead table offset status body = .error (.nonRetryable table offset status detail) := by
  unfold checkRead classifyRead
  cases reported : embeddedFailure body with
  | none =>
    have failed : isSuccessStatus status = false := by simpa [reported] using notClean
    simp [failed]
  | some failure =>
    have noBudget : (isSuccessStatus status && failure.exceededExecutionBudget) = false := by
      simpa [reported] using noRetry
    simp [noBudget]

def AsksRetry : Except TransportError HttpResponse → Prop
  | .error _ => True
  | .ok r => 200 ≤ r.status ∧ r.status < 300 ∧
      ∃ failure, embeddedFailure r.body = some failure ∧ failure.exceededExecutionBudget = true

def CarriesRows (table : String) (reply : Except TransportError HttpResponse) (rows : List Row) : Prop :=
  ∃ r, reply = .ok r ∧ 200 ≤ r.status ∧ r.status < 300 ∧ embeddedFailure r.body = none ∧
    tableResponseShape.readText r.body = .ok (.object [("result", .array (rows.map fun row => .object row.fields))]) ∧
    ∀ row ∈ rows, row.entity = table

/-- What a reply makes of a read of the window `w`: a retryable failure when it asks for a retry,
the page of its rows when it carries rows, and otherwise a failure for good with its status. -/
structure ReadOutcome (w : FetchWindow) (reply : Except TransportError HttpResponse)
    (result : Except FetchError Page) : Prop where
  retry : AsksRetry reply → ∃ message, result = .error (.retryable w.table w.offset message)
  page : ∀ rows, CarriesRows w.table reply rows → result = .ok (Page.make rows w.offset w.limit)
  refused : ¬AsksRetry reply → (∀ rows, ¬CarriesRows w.table reply rows) →
    ∃ r detail, reply = .ok r ∧ result = .error (.nonRetryable w.table w.offset r.status detail)

def pageOfReply (w : FetchWindow) : Except TransportError HttpResponse → Except FetchError Page
  | .error e => .error (.retryable w.table w.offset e.text)
  | .ok r => do
    checkRead w.table w.offset r.status r.body
    let rows ← readRows w.table w.offset r
    return Page.make rows w.offset w.limit

theorem pageOfReply_outcome (w : FetchWindow) (reply : Except TransportError HttpResponse) :
    ReadOutcome w reply (pageOfReply w reply) := by
  cases reply with
  | error e =>
    refine ⟨fun _ => ⟨_, rfl⟩, ?_, fun notRetry => absurd trivial notRetry⟩
    rintro rows ⟨r, same, -⟩
    cases same
  | ok r =>
    have asks : AsksRetry (.ok r) ↔ isSuccessStatus r.status = true ∧
        ∃ failure, embeddedFailure r.body = some failure ∧ failure.exceededExecutionBudget = true := by
      simp only [AsksRetry, isSuccessStatus_iff, and_assoc]
    have carries : ∀ rows, CarriesRows w.table (.ok r) rows ↔ (isSuccessStatus r.status = true ∧
        embeddedFailure r.body = none) ∧ readRows w.table w.offset r = .ok rows := by
      intro rows
      simp only [CarriesRows, readRows_ok_iff, isSuccessStatus_iff, Except.ok.injEq, exists_eq_left', and_assoc]
    -- the status and the reported failure decide among success, retry and refusal
    by_cases clean : isSuccessStatus r.status = true ∧ embeddedFailure r.body = none
    · have noRetry : ¬AsksRetry (.ok r) := by
        rw [asks]
        rintro ⟨-, failure, reported, -⟩
        rw [clean.2] at reported
        cases reported
      refine ⟨fun retry => absurd retry noRetry, ?_, ?_⟩
      · intro rows carried
        have read := ((carries rows).mp carried).2
        simp [pageOfReply, checkRead_clean clean.1 clean.2, read, bind, Except.bind, pure, Except.pure]
      · intro _ noRows
        cases read : readRows w.table w.offset r with
        | ok rows => exact absurd ((carries rows).mpr ⟨clean, read⟩) (noRows rows)
        | error e =>
          obtain ⟨detail, rfl⟩ := readRows_error read
          exact ⟨r, detail, rfl, by simp [pageOfReply, checkRead_clean clean.1 clean.2, read, bind, Except.bind]⟩
    · have noRows : ∀ rows, ¬CarriesRows w.table (.ok r) rows :=
        fun rows carried => clean ((carries rows).mp carried).1
      by_cases retry : isSuccessStatus r.status = true ∧
          ∃ failure, embeddedFailure r.body = some failure ∧ failure.exceededExecutionBudget = true
      · obtain ⟨success, failure, reported, budget⟩ := retry
        refine ⟨fun _ => ⟨failure.describe r.status, ?_⟩, fun rows carried => absurd carried (noRows rows),
          fun noRetry => absurd (asks.mpr ⟨success, failure, reported, budget⟩) noRetry⟩
        simp [pageOfReply, checkRead_budget success reported budget, bind, Except.bind]
      · obtain ⟨detail, refused⟩ := @checkRead_refused w.table w.offset r.status r.body clean retry
        refine ⟨fun asked => absurd (asks.mp asked) retry, fun rows carried => absurd carried (noRows rows),
          fun _ _ => ⟨r, detail, rfl, ?_⟩⟩
        simp [pageOfReply, refused, bind, Except.bind]

def PageFetcher.readRequest (f : PageFetcher) (w : FetchWindow) : HttpRequest :=
  HttpRequest.get (tableReadUrl f.client.endpoint w f.displayValue)

theorem FetchWindow.validate_eq_ok {w : FetchWindow} (atLeast : 0 < w.limit) (atMost : w.limit ≤ maxPageSize) :
    w.validate = .ok () := by
  have inside : (w.limit == 0 || decide (w.limit > maxPageSize)) = false := by
    simp only [Bool.or_eq_false_iff, beq_eq_false_iff_ne, decide_eq_false_iff_not]
    omega
  simp only [FetchWindow.validate, validatePageSize, inside, Bool.false_eq_true, if_false]

theorem FetchWindow.validate_eq_error {w : FetchWindow} (outside : w.limit = 0 ∨ maxPageSize < w.limit) :
    w.validate = .error (.invalidPageSize w.limit) := by
  have refused : (w.limit == 0 || decide (w.limit > maxPageSize)) = true := by
    simp only [Bool.or_eq_true, beq_iff_eq, decide_eq_true_eq]
    omega
  simp only [FetchWindow.validate, validatePageSize, refused, if_true]

namespace PageFetcher

variable (f : PageFetcher) {w : FetchWindow} {ex ex₁ : Exchange}

theorem fetchPage_invalid {e : WindowError} (invalid : w.validate = .error e) :
    (f.fetchPage w).exec ex = (.error (.invalidWindow e), ex) := by
  simp [fetchPage, read, invalid, Except.map]

theorem fetchPage_refused (valid : w.validate = .ok ()) {e : AuthError}
    (refused : (f.client.authorize (f.readRequest w)).exec ex = (.error e, ex₁)) :
    (f.fetchPage w).exec ex = (.error (.auth e), ex₁) := by
  simp only [readRequest] at refused
  simp [fetchPage, read, valid, fetchUrl, refused, Except.map]

theorem fetchPage_sent (valid : w.validate = .ok ()) {req : HttpRequest}
    (authorized : (f.client.authorize (f.readRequest w)).exec ex = (.ok req, ex₁)) :
    (f.fetchPage w).exec ex = (pageOfReply w (ex₁.answer req).1, (ex₁.answer req).2) := by
  simp only [readRequest] at authorized
  simp only [fetchPage, read, valid, fetchUrl, Net.exec_bind, Net.exec_pure, authorized, send_exec]
  rcases ex₁.answer req with ⟨reply, ex₂⟩
  cases reply with
  | error e => simp [pageOfReply, Except.map]
  | ok r =>
    simp only [Net.exec_pure, pageOfReply]
    cases checkRead w.table w.offset r.status r.body with
    | error e => rfl
    | ok u =>
      cases readRows w.table w.offset r with
      | error e => rfl
      | ok rows => rfl

end PageFetcher

structure PageAttempt (f : PageFetcher) (w : FetchWindow) (ex : Exchange) (result : Except FetchError Page)
    (ex' : Exchange) : Prop where
  tokens : ∃ k, 1 ≤ k ∧ k ≤ f.client.tokens.retry.maxAttempts - 1 + 1 ∧
    ((f.client.authorize (f.readRequest w)).exec ex).2.sent.toList =
      ex.sent.toList ++ List.replicate k f.client.tokens.grantRequest
  refused : ∀ e, ((f.client.authorize (f.readRequest w)).exec ex).1 = .error e →
    result = .error (.auth e) ∧ ex' = ((f.client.authorize (f.readRequest w)).exec ex).2
  sent : ∀ req, ((f.client.authorize (f.readRequest w)).exec ex).1 = .ok req →
    (∃ token, req = (f.readRequest w).withBearer token) ∧
    ex' = (((f.client.authorize (f.readRequest w)).exec ex).2.answer req).2 ∧
    ex'.sent = ((f.client.authorize (f.readRequest w)).exec ex).2.sent.push req ∧
    ReadOutcome w (((f.client.authorize (f.readRequest w)).exec ex).2.answer req).1 result

theorem PageFetcher.fetchPage_attempt (f : PageFetcher) {w : FetchWindow} (valid : w.validate = .ok ())
    (ex : Exchange) : PageAttempt f w ex ((f.fetchPage w).exec ex).1 ((f.fetchPage w).exec ex).2 := by
  obtain ⟨tokens, bearer⟩ := f.client.authorize_spec (f.readRequest w) ex
  refine ⟨tokens, ?_, ?_⟩
  · intro e refused
    rw [f.fetchPage_refused valid (Prod.ext refused rfl)]
    exact ⟨rfl, rfl⟩
  · intro req authorized
    rw [f.fetchPage_sent valid (Prod.ext authorized rfl)]
    exact ⟨bearer req authorized, rfl, Exchange.answer_sent _ _, pageOfReply_outcome w _⟩

end Attempt

section Retry

namespace RetryPolicy

variable {ε α : Type} (op : Net (Except ε α)) (classify : ε → Disposition)

inductive Tries : Nat → Exchange → Exchange → Prop
  | none (ex : Exchange) : Tries 0 ex ex
  | retry {k : Nat} {ex ex₁ ex' : Exchange} {e : ε} :
      op.exec ex = (.error e, ex₁) → classify e = .retry → Tries k ex₁ ex' → Tries (k + 1) ex ex'

/-- How a run that retried `k` attempts ends with `result` when its last try gives `last`. -/
structure Ends (spare attempt k : Nat) (last : Except ε α) (result : Except (RetryError ε) α) : Prop where
  ok : ∀ v, last = .ok v → result = .ok v
  stop : ∀ e, last = .error e → classify e = .stop → result = .error (.fatal e)
  exhausted : ∀ e, last = .error e → classify e = .retry →
    k = spare ∧ result = .error (.attemptsExceeded (attempt + k + 1) e)

variable {op classify}

theorem Ends.final {spare attempt : Nat} {last : Except ε α}
    (final : ∀ e, last = .error e → classify e = .stop) :
    Ends classify spare attempt 0 last (last.mapError .fatal) := by
  refine ⟨?_, ?_, ?_⟩
  · rintro v rfl
    rfl
  · rintro e rfl -
    rfl
  · rintro e rfl retried
    rw [final e rfl] at retried
    cases retried

theorem Ends.later {spare attempt k : Nat} {last : Except ε α} {result : Except (RetryError ε) α}
    (ends : Ends classify spare (attempt + 1) k last result) :
    Ends classify (spare + 1) attempt (k + 1) last result := by
  refine ⟨ends.ok, ends.stop, fun e failed retried => ?_⟩
  obtain ⟨spent, exhausted⟩ := ends.exhausted e failed retried
  refine ⟨by omega, ?_⟩
  rw [exhausted, Nat.add_assoc attempt 1 k, Nat.add_comm 1 k]

theorem runFrom_final {spare attempt : Nat} {ex ex₁ : Exchange} {last : Except ε α}
    (ranOnce : op.exec ex = (last, ex₁)) (final : ∀ e, last = .error e → classify e = .stop) :
    (runFrom op classify spare attempt).exec ex = (last.mapError .fatal, ex₁) := by
  rw [runFrom]
  simp only [Net.exec_bind, ranOnce]
  cases last with
  | ok v => rfl
  | error e =>
    simp only [final e rfl]
    rfl

theorem runFrom_exhausted {attempt : Nat} {ex ex₁ : Exchange} {e : ε}
    (ranOnce : op.exec ex = (.error e, ex₁)) (retried : classify e = .retry) :
    (runFrom op classify 0 attempt).exec ex = (.error (.attemptsExceeded (attempt + 1) e), ex₁) := by
  rw [runFrom]
  simp [ranOnce, retried]

theorem runFrom_retry {spare attempt : Nat} {ex ex₁ : Exchange} {e : ε}
    (ranOnce : op.exec ex = (.error e, ex₁)) (retried : classify e = .retry) :
    (runFrom op classify (spare + 1) attempt).exec ex = (runFrom op classify spare (attempt + 1)).exec ex₁ := by
  rw [runFrom]
  simp [ranOnce, retried]

theorem final_of_not_retried {last : Except ε α} (retried : ¬∃ e, last = .error e ∧ classify e = .retry) :
    ∀ e, last = .error e → classify e = .stop := by
  intro e failed
  cases disposition : classify e with
  | stop => rfl
  | retry => exact absurd ⟨e, failed, disposition⟩ retried

variable (op classify)

theorem runFrom_cases (spare : Nat) :
    ∀ (attempt : Nat) (ex : Exchange) (result : Except (RetryError ε) α) (ex'' : Exchange),
      (runFrom op classify spare attempt).exec ex = (result, ex'') →
      ∃ k ex', Tries op classify k ex ex' ∧ k ≤ spare ∧
        ∃ last, op.exec ex' = (last, ex'') ∧ Ends classify spare attempt k last result := by
  induction spare with
  | zero =>
    intro attempt ex result ex'' ran
    rcases ranOnce : op.exec ex with ⟨last, ex₁⟩
    by_cases retried : ∃ e, last = .error e ∧ classify e = .retry
    · obtain ⟨e, rfl, retried⟩ := retried
      rw [runFrom_exhausted ranOnce retried] at ran
      cases ran
      refine ⟨0, ex, .none ex, Nat.le_refl 0, .error e, ranOnce, ?_, ?_, ?_⟩
      · rintro v ⟨⟩
      · rintro e' ⟨⟩ stopped
        rw [retried] at stopped
        cases stopped
      · rintro e' ⟨⟩ -
        exact ⟨rfl, rfl⟩
    · have final := final_of_not_retried retried
      rw [runFrom_final ranOnce final] at ran
      cases ran
      exact ⟨0, ex, .none ex, Nat.le_refl 0, last, ranOnce, Ends.final final⟩
  | succ spare ih =>
    intro attempt ex result ex'' ran
    rcases ranOnce : op.exec ex with ⟨last, ex₁⟩
    by_cases retried : ∃ e, last = .error e ∧ classify e = .retry
    · -- a retried try leaves one spare attempt fewer for the rest of the run
      obtain ⟨e, rfl, retried⟩ := retried
      rw [runFrom_retry ranOnce retried] at ran
      obtain ⟨k, ex', tries, bound, last, ranLast, ends⟩ := ih (attempt + 1) ex₁ result ex'' ran
      exact ⟨k + 1, ex', .retry ranOnce retried tries, by omega, last, ranLast, ends.later⟩
    · have final := final_of_not_retried retried
      rw [runFrom_final ranOnce final] at ran
      cases ran
      exact ⟨0, ex, .none ex, Nat.zero_le _, last, ranOnce, Ends.final final⟩

end RetryPolicy

end Retry

section Contract

theorem fetchDisposition_eq_retry {e : FetchError} : fetchDisposition e = .retry ↔ e.isRetryable = true := by
  cases retryable : e.isRetryable <;> simp [fetchDisposition, retryable]

theorem fetchDisposition_eq_stop {e : FetchError} : fetchDisposition e = .stop ↔ e.isRetryable = false := by
  cases retryable : e.isRetryable <;> simp [fetchDisposition, retryable]

namespace PageFetcher

variable (f : PageFetcher) (w : FetchWindow) (ex : Exchange)

theorem fetchPageWithRetry_exec :
    (f.fetchPageWithRetry w).exec ex =
      (settleRetry w ((f.retry.run (f.fetchPage w) fetchDisposition).exec ex).1,
        ((f.retry.run (f.fetchPage w) fetchDisposition).exec ex).2) := by
  simp [fetchPageWithRetry]

/-- The paginated read contract: a bad window is refused before any request; otherwise every
attempt gets a token and sends one GET, and its reply decides it. -/
theorem page_read_contract :
    ((w.limit = 0 ∨ maxPageSize < w.limit) →
      (f.fetchPageWithRetry w).exec ex = (.error (.invalidWindow (.invalidPageSize w.limit)), ex)) ∧
    (0 < w.limit → w.limit ≤ maxPageSize →
      (∀ exᵢ, PageAttempt f w exᵢ ((f.fetchPage w).exec exᵢ).1 ((f.fetchPage w).exec exᵢ).2) ∧
      ∃ k ex', RetryPolicy.Tries (f.fetchPage w) fetchDisposition k ex ex' ∧ k ≤ f.retry.maxAttempts - 1 ∧
        ((f.fetchPageWithRetry w).exec ex).2 = ((f.fetchPage w).exec ex').2 ∧
        (∀ page, ((f.fetchPage w).exec ex').1 = .ok page → ((f.fetchPageWithRetry w).exec ex).1 = .ok page) ∧
        (∀ e, ((f.fetchPage w).exec ex').1 = .error e → e.isRetryable = false →
          ((f.fetchPageWithRetry w).exec ex).1 = .error e) ∧
        (∀ e, ((f.fetchPage w).exec ex').1 = .error e → e.isRetryable = true →
          k = f.retry.maxAttempts - 1 ∧
          ((f.fetchPageWithRetry w).exec ex).1 = .error (.exhausted w.table w.offset w.finish (k + 1) e))) := by
  constructor
  · intro outside
    have refused : (f.fetchPage w).exec ex = (.error (.invalidWindow (.invalidPageSize w.limit)), ex) :=
      f.fetchPage_invalid (FetchWindow.validate_eq_error outside)
    have final : ∀ e, (.error (.invalidWindow (.invalidPageSize w.limit)) : Except FetchError Page) = .error e →
        fetchDisposition e = .stop := by
      rintro e ⟨⟩
      rfl
    rw [fetchPageWithRetry_exec, RetryPolicy.run, RetryPolicy.runFrom_final refused final]
    rfl
  · intro atLeast atMost
    have valid := FetchWindow.validate_eq_ok atLeast atMost
    refine ⟨fun exᵢ => f.fetchPage_attempt valid exᵢ, ?_⟩
    rcases ran : (RetryPolicy.runFrom (f.fetchPage w) fetchDisposition (f.retry.maxAttempts - 1) 0).exec ex
      with ⟨result, ex''⟩
    obtain ⟨k, ex', tries, bound, last, ranLast, ends⟩ :=
      RetryPolicy.runFrom_cases (f.fetchPage w) fetchDisposition (f.retry.maxAttempts - 1) 0 ex result ex'' ran
    rw [fetchPageWithRetry_exec, RetryPolicy.run, ran]
    refine ⟨k, ex', tries, bound, ?_⟩
    rw [ranLast]
    refine ⟨rfl, ?_, ?_, ?_⟩
    · intro page finished
      rw [ends.ok page finished]
      rfl
    · intro e failed final
      rw [ends.stop e failed (fetchDisposition_eq_stop.mpr final)]
      rfl
    · intro e failed retryable
      obtain ⟨spent, exhausted⟩ := ends.exhausted e failed (fetchDisposition_eq_retry.mpr retryable)
      refine ⟨spent, ?_⟩
      rw [exhausted, Nat.zero_add]
      rfl

theorem oversized_window_refused_and_valid_window_tried :
    let fetcher : PageFetcher :=
      ⟨ServiceClient.make (Endpoint.make "http://127.0.0.1:8080") ⟨"id", "secret", "user", "pass"⟩
        ⟨1, 0, 0, .fixed⟩, .actual, ⟨3, 0, 0, .fixed⟩⟩
    let ex : Exchange := ⟨[], [], #[], 0⟩
    ((FetchWindow.make "incident" 0 5001).limit = 0 ∨ maxPageSize < (FetchWindow.make "incident" 0 5001).limit) ∧
      (fetcher.fetchPageWithRetry (FetchWindow.make "incident" 0 5001)).exec ex =
        (.error (.invalidWindow (.invalidPageSize 5001)), ex) ∧
      0 < (FetchWindow.make "incident" 0 100).limit ∧ (FetchWindow.make "incident" 0 100).limit ≤ maxPageSize ∧
      ∃ k ex', RetryPolicy.Tries (fetcher.fetchPage (FetchWindow.make "incident" 0 100)) fetchDisposition k ex ex' ∧
        k ≤ 2 := by
  intro fetcher ex
  have outside : (FetchWindow.make "incident" 0 5001).limit = 0 ∨
      maxPageSize < (FetchWindow.make "incident" 0 5001).limit := Or.inr (by decide)
  refine ⟨outside, (page_read_contract fetcher _ ex).1 outside, by decide, by decide, ?_⟩
  obtain ⟨-, k, ex', tries, bound, -⟩ :=
    (page_read_contract fetcher (FetchWindow.make "incident" 0 100) ex).2 (by decide) (by decide)
  exact ⟨k, ex', tries, bound⟩

/-- A table response in positional form has no `result` member, yet it is read as a page of one
row. -/
theorem positional_table_response_is_a_page :
    let body := "[[\x7b\"sys_id\":\"a\"\x7d]]"
    let fetcher : PageFetcher :=
      ⟨ServiceClient.make (Endpoint.make "http://127.0.0.1:8080") ⟨"id", "secret", "user", "pass"⟩
        ⟨1, 0, 0, .fixed⟩, .actual, ⟨3, 0, 0, .fixed⟩⟩
    let ex : Exchange := ⟨[], [.fixed (.ok ⟨200, [], body⟩)], #[], 0⟩
    ((Json.parse body).toOption.bind (·.field? "result")).isNone = true ∧ embeddedFailure body = none ∧
      ((fetcher.fetchPageWithRetry (FetchWindow.make "incident" 0 100)).exec ex).1.toOption.map
        (·.rowCount) = some 1 := by
  decide +kernel

end PageFetcher

end Contract

end TableSync
