import TableSync.Proofs.PageRead
import TableSync.Proofs.SplitPlan
import TableSync.Proofs.Writer

/-!
Reading a whole table: a probe, a count read, then the planned pages in order until one fails
(`PageReads`), with the metrics counting each.
-/

namespace TableSync

namespace Metered

variable {α : Type}

@[simp] theorem exec_pure (a : α) (m : Metrics) (ex : Exchange) :
    (pure a : Metered α).exec m ex = ((a, m), ex) := rfl

@[simp] theorem exec_liftNet (y : Net α) (m : Metrics) (ex : Exchange) :
    (liftM y : Metered α).exec m ex = (((y.exec ex).1, m), (y.exec ex).2) := rfl

end Metered

section Retry

variable {ε α : Type} {op : Net (Except ε α)} {classify : ε → Disposition}

@[simp] theorem settleRetry_eq_ok {w : FetchWindow} {x : Except (RetryError FetchError) α} {v : α} :
    settleRetry w x = .ok v ↔ x = .ok v := by
  cases x with
  | ok v' => simp [settleRetry]
  | error e => cases e <;> simp [settleRetry]

theorem RetryPolicy.runFrom_ok {spare attempt : Nat} {ex ex'' : Exchange} {v : α}
    (ran : (RetryPolicy.runFrom op classify spare attempt).exec ex = (.ok v, ex'')) :
    ∃ ex', op.exec ex' = (.ok v, ex'') := by
  obtain ⟨k, ex', -, -, last, ranLast, ends⟩ := RetryPolicy.runFrom_cases op classify spare attempt ex _ ex'' ran
  cases last with
  | ok v' =>
    cases ends.ok v' rfl
    exact ⟨ex', ranLast⟩
  | error e =>
    cases disposition : classify e with
    | stop => cases ends.stop e rfl disposition
    | retry => cases (ends.exhausted e rfl disposition).2

end Retry

namespace PageFetcher

variable (f : PageFetcher) {w : FetchWindow} {ex ex' : Exchange}

theorem read_ok_response {p : PageResponse} (succeeded : (f.read w).exec ex = (.ok p, ex')) :
    ∃ (exₐ : Exchange) (token : String) (response : HttpResponse),
      exₐ.answer ((f.readRequest w).withBearer token) = (.ok response, ex') ∧
      readRows w.table w.offset response = .ok p.rows ∧ p.totalCount = totalCountOf response := by
  cases valid : w.validate with
  | error e => simp [read, valid] at succeeded
  | ok u =>
    obtain ⟨-, bearer⟩ := f.client.authorize_spec (f.readRequest w) ex
    rcases authorized : (f.client.authorize (f.readRequest w)).exec ex with ⟨auth, exₐ⟩
    cases auth with
    | error e =>
      simp only [readRequest] at authorized
      simp [read, valid, fetchUrl, authorized] at succeeded
    | ok req =>
      obtain ⟨token, rfl⟩ := bearer _ (by rw [authorized])
      refine ⟨exₐ, token, ?_⟩
      simp only [readRequest] at authorized
      simp only [read, valid, fetchUrl, Net.exec_bind, authorized, send_exec] at succeeded
      rcases answered : exₐ.answer ((f.readRequest w).withBearer token) with ⟨reply, ex₁⟩
      have answeredGet := answered
      simp only [readRequest] at answeredGet
      rw [answeredGet] at succeeded
      cases reply with
      | error e => simp at succeeded
      | ok response =>
        refine ⟨response, ?_⟩
        simp only [Net.exec_pure, Prod.mk.injEq] at succeeded
        obtain ⟨result, rfl⟩ := succeeded
        cases checked : checkRead w.table w.offset response.status response.body with
        | error e => simp [checked, bind, Except.bind] at result
        | ok u =>
          cases rows : readRows w.table w.offset response with
          | error e => simp [checked, rows, bind, Except.bind] at result
          | ok rs =>
            simp only [checked, rows, bind, Except.bind, pure, Except.pure, Except.ok.injEq] at result
            subst result
            exact ⟨rfl, rfl, rfl⟩

theorem readWithRetry_ok {p : PageResponse} (succeeded : (f.readWithRetry w).exec ex = (.ok p, ex')) :
    ∃ exᵢ, (f.read w).exec exᵢ = (.ok p, ex') := by
  simp only [readWithRetry, Net.exec_bind, Net.exec_pure, Prod.mk.injEq, settleRetry_eq_ok] at succeeded
  obtain ⟨ran, rfl⟩ := succeeded
  rw [RetryPolicy.run] at ran
  exact RetryPolicy.runFrom_ok (Prod.ext ran rfl)

theorem fetchPageWithRetry_rowCount {page : Page}
    (succeeded : (f.fetchPageWithRetry w).exec ex = (.ok page, ex')) : page.rowCount = page.rows.length := by
  rw [fetchPageWithRetry_exec, Prod.mk.injEq, settleRetry_eq_ok] at succeeded
  obtain ⟨ran, rfl⟩ := succeeded
  rw [RetryPolicy.run] at ran
  obtain ⟨exᵢ, fetched⟩ := RetryPolicy.runFrom_ok (Prod.ext ran rfl)
  simp only [fetchPage, Net.exec_bind, Net.exec_pure, Prod.mk.injEq] at fetched
  cases read : ((f.read w).exec exᵢ).1 with
  | error e => simp [read, Except.map] at fetched
  | ok response =>
    simp only [read, Except.map, Except.ok.injEq] at fetched
    rw [← fetched.1]
    rfl

end PageFetcher

/-- `PageReads f windows ex pages failure ex'`: reading the windows in order gave `pages`, then
`failure` if any. -/
inductive PageReads (f : PageFetcher) :
    List FetchWindow → Exchange → List Page → Option FetchError → Exchange → Prop
  | done (ex : Exchange) : PageReads f [] ex [] none ex
  | failed {w : FetchWindow} {ws : List FetchWindow} {ex ex' : Exchange} {e : FetchError} :
      (f.fetchPageWithRetry w).exec ex = (.error e, ex') → PageReads f (w :: ws) ex [] (some e) ex'
  | read {w : FetchWindow} {ws : List FetchWindow} {ex ex₁ ex' : Exchange} {page : Page} {pages : List Page}
      {failure : Option FetchError} :
      (f.fetchPageWithRetry w).exec ex = (.ok page, ex₁) → PageReads f ws ex₁ pages failure ex' →
      PageReads f (w :: ws) ex (page :: pages) failure ex'

theorem PageReads.rowCounts {f : PageFetcher} {ws : List FetchWindow} {ex ex' : Exchange} {pages : List Page}
    {failure : Option FetchError} (reads : PageReads f ws ex pages failure ex') :
    ∀ page ∈ pages, page.rowCount = page.rows.length := by
  induction reads with
  | done => exact fun _ absent => absurd absent List.not_mem_nil
  | failed => exact fun _ absent => absurd absent List.not_mem_nil
  | read fetched _ ih =>
    intro page member
    rcases List.mem_cons.mp member with rfl | later
    · exact PageFetcher.fetchPageWithRetry_rowCount _ fetched
    · exact ih page later

def Metrics.countPage (m : Metrics) (page : Page) : Metrics :=
  (m.add .pagesFetched 1).add .recordsRead page.rowCount

def Metrics.countReads (m : Metrics) (pages : List Page) (failure : Option FetchError) : Metrics :=
  if failure.isSome then (pages.foldl Metrics.countPage m).add .failureCount 1 else pages.foldl Metrics.countPage m

theorem Metrics.foldl_countPage (pages : List Page) (counted : ∀ page ∈ pages, page.rowCount = page.rows.length) :
    ∀ m : Metrics, m.pagesFetched < Nat.pow 2 64 → m.recordsRead < Nat.pow 2 64 →
      (pages.foldl Metrics.countPage m).pagesFetched = wrappingAdd m.pagesFetched pages.length ∧
      (pages.foldl Metrics.countPage m).recordsRead = wrappingAdd m.recordsRead (pages.flatMap (·.rows)).length ∧
      (pages.foldl Metrics.countPage m).failureCount = m.failureCount := by
  induction pages with
  | nil =>
    intro m pagesBelow rowsBelow
    exact ⟨(Nat.mod_eq_of_lt pagesBelow).symm, (Nat.mod_eq_of_lt rowsBelow).symm, rfl⟩
  | cons page pages ih =>
    intro m _ _
    have rest := ih (fun p member => counted p (List.mem_cons_of_mem _ member)) (m.countPage page)
      (wrappingAdd_lt _ _) (wrappingAdd_lt _ _)
    obtain ⟨pagesFetched, recordsRead, failureCount⟩ := rest
    refine ⟨?_, ?_, failureCount⟩
    · rw [List.foldl_cons, pagesFetched]
      exact (wrappingAdd_wrappingAdd _ _ _).trans (by rw [List.length_cons, Nat.add_comm])
    · rw [List.foldl_cons, recordsRead]
      refine (wrappingAdd_wrappingAdd _ _ _).trans ?_
      rw [List.flatMap_cons, List.length_append, ← counted page List.mem_cons_self]
      rfl

namespace TableReader

variable (r : TableReader)

theorem readSplit_exec (s : TableSplit) (m : Metrics) (ex : Exchange) :
    (r.readSplit s).exec m ex =
      match (r.fetcher.fetchPageWithRetry s.window).exec ex with
      | (.error e, ex') => ((.error (.ofFetch e), m.add .failureCount 1), ex')
      | (.ok page, ex') => ((.ok page, m.countPage page), ex') := by
  simp only [readSplit, Metered.exec_bind, Metered.exec_liftNet]
  rcases (r.fetcher.fetchPageWithRetry s.window).exec ex with ⟨result, ex'⟩
  cases result <;> rfl

theorem readSplits_reads :
    ∀ (splits : List TableSplit) (rows : List Row) (m : Metrics) (ex : Exchange),
      ∃ pages failure, PageReads r.fetcher (splits.map (·.window)) ex pages failure
          ((r.readSplits splits rows).exec m ex).2 ∧
        (failure = none → ((r.readSplits splits rows).exec m ex).1.1 = .ok (rows ++ pages.flatMap (·.rows))) ∧
        (∀ e, failure = some e → ((r.readSplits splits rows).exec m ex).1.1 = .error (.ofFetch e)) ∧
        ((r.readSplits splits rows).exec m ex).1.2 = m.countReads pages failure := by
  intro splits
  induction splits with
  | nil =>
    intro rows m ex
    refine ⟨[], none, .done ex, fun _ => ?_, fun _ absent => absurd absent (by simp), rfl⟩
    simp [readSplits]
  | cons s rest ih =>
    intro rows m ex
    simp only [readSplits, Metered.exec_bind, readSplit_exec]
    rcases fetched : (r.fetcher.fetchPageWithRetry s.window).exec ex with ⟨result, ex₁⟩
    cases result with
    | error e =>
      refine ⟨[], some e, .failed fetched, fun absent => absurd absent (by simp), ?_, rfl⟩
      rintro e' ⟨⟩
      rfl
    | ok page =>
      -- the rest is read from where this split's read left the metrics and the exchange
      obtain ⟨pages, failure, reads, whole, failed, counted⟩ := ih (rows ++ page.rows) (m.countPage page) ex₁
      refine ⟨page :: pages, failure, .read fetched reads, fun none => ?_, failed, counted⟩
      rw [whole none, List.flatMap_cons, List.append_assoc]

end TableReader

section Prepare

namespace PageFetcher

variable (f : PageFetcher) (table : String) (range : Option DateRange) {ex ex₁ : Exchange}

theorem schemaProbe_read_exec :
    (f.schemaProbe table .read).exec ex =
      (((f.readWithRetry (FetchWindow.make table 0 1)).exec ex).1.map
          (fun p => TableSchema.fromProbe table p.rows.head?),
        ((f.readWithRetry (FetchWindow.make table 0 1)).exec ex).2) := by
  simp only [schemaProbe, Net.exec_bind]
  rcases (f.readWithRetry (FetchWindow.make table 0 1)).exec ex with ⟨result, ex'⟩
  cases result <;> rfl

theorem recordCount_failed {e : FetchError}
    (failed : (f.readWithRetry { FetchWindow.make table 0 1 with range }).exec ex = (.error e, ex₁)) :
    (f.recordCount table range).exec ex = (.error e, ex₁) := by
  simp only [recordCount, Net.exec_bind, failed]
  rfl

theorem recordCount_missing {p : PageResponse}
    (read : (f.readWithRetry { FetchWindow.make table 0 1 with range }).exec ex = (.ok p, ex₁))
    (missing : p.totalCount = none) :
    (f.recordCount table range).exec ex =
      (.error (.nonRetryable table 0 200 ("response carries no " ++ totalCountHeader ++ " header")), ex₁) := by
  simp only [recordCount, Net.exec_bind, read]
  simp [missing, bind, Except.bind]

theorem recordCount_reported {p : PageResponse} {total : Nat}
    (read : (f.readWithRetry { FetchWindow.make table 0 1 with range }).exec ex = (.ok p, ex₁))
    (reported : p.totalCount = some total) :
    (f.recordCount table range).exec ex = (.ok total, ex₁) := by
  simp only [recordCount, Net.exec_bind, read]
  simp [reported, bind, Except.bind]

end PageFetcher

namespace TableReader

variable (r : TableReader) {ex ex₁ ex₂ : Exchange} {sample : PageResponse}

theorem prepare_probe_failed {e : FetchError}
    (probed : (r.fetcher.readWithRetry (FetchWindow.make r.table 0 1)).exec ex = (.error e, ex₁)) :
    r.prepare.exec ex = (.error (.ofFetch e), ex₁) := by
  simp only [prepare, Net.exec_bind, PageFetcher.schemaProbe_read_exec, probed]
  rfl

theorem prepare_count_failed {e : FetchError}
    (probed : (r.fetcher.readWithRetry (FetchWindow.make r.table 0 1)).exec ex = (.ok sample, ex₁))
    (counted : (r.fetcher.readWithRetry { FetchWindow.make r.table 0 1 with range := r.range }).exec ex₁ =
      (.error e, ex₂)) :
    r.prepare.exec ex = (.error (.ofFetch e), ex₂) := by
  simp only [prepare, Net.exec_bind, PageFetcher.schemaProbe_read_exec, probed, Except.map,
    r.fetcher.recordCount_failed r.table r.range counted]
  rfl

theorem prepare_count_missing {p : PageResponse}
    (probed : (r.fetcher.readWithRetry (FetchWindow.make r.table 0 1)).exec ex = (.ok sample, ex₁))
    (counted : (r.fetcher.readWithRetry { FetchWindow.make r.table 0 1 with range := r.range }).exec ex₁ =
      (.ok p, ex₂))
    (missing : p.totalCount = none) :
    r.prepare.exec ex =
      (.error (.ofFetch (.nonRetryable r.table 0 200 ("response carries no " ++ totalCountHeader ++ " header"))),
        ex₂) := by
  simp only [prepare, Net.exec_bind, PageFetcher.schemaProbe_read_exec, probed, Except.map,
    r.fetcher.recordCount_missing r.table r.range counted missing]
  rfl

theorem prepare_planned {p : PageResponse} {total : Nat} (atLeast : 0 < r.pageSize)
    (atMost : r.pageSize ≤ maxPageSize)
    (probed : (r.fetcher.readWithRetry (FetchWindow.make r.table 0 1)).exec ex = (.ok sample, ex₁))
    (counted : (r.fetcher.readWithRetry { FetchWindow.make r.table 0 1 with range := r.range }).exec ex₁ =
      (.ok p, ex₂))
    (reported : p.totalCount = some total) :
    r.prepare.exec ex =
      (.ok { r with schema := some (TableSchema.fromProbe r.table sample.rows.head?),
                    splits := ((List.range (splitCount total r.pageSize)).map
                      (plannedSplit r.table total r.pageSize)).map (·.withRange r.range) }, ex₂) := by
  simp only [prepare, Net.exec_bind, PageFetcher.schemaProbe_read_exec, probed, Except.map,
    r.fetcher.recordCount_reported r.table r.range counted reported, planSplits_eq_ok atLeast atMost]
  rfl

variable {m : Metrics}

theorem readAll_prepare_failed (unprepared : r.schema = none) {e : EngineError}
    (failed : r.prepare.exec ex = (.error e, ex₁)) :
    r.readAll.exec m ex = (((.error e, r), m), ex₁) := by
  simp only [readAll, unprepared, Metered.exec_bind, Metered.exec_liftNet, failed]
  rfl

theorem readAll_prepared (unprepared : r.schema = none) {r₁ : TableReader}
    (prepared : r.prepare.exec ex = (.ok r₁, ex₁)) :
    r.readAll.exec m ex =
      (((((r₁.readSplits r₁.splits []).exec m ex₁).1.1, r₁), ((r₁.readSplits r₁.splits []).exec m ex₁).1.2),
        ((r₁.readSplits r₁.splits []).exec m ex₁).2) := by
  simp only [readAll, unprepared, Metered.exec_bind, Metered.exec_liftNet, prepared]
  rfl

end TableReader

end Prepare

section ReadAll

theorem plannedSplit_windows (table : String) (range : Option DateRange) (total pageSize count : Nat) :
    (((List.range count).map (plannedSplit table total pageSize)).map (·.withRange range)).map (·.window) =
      (List.range count).map fun i => { table, range, offset := i * pageSize, limit := pageSize } := by
  simp only [List.map_map]
  rfl

/-- Reading a whole table: a probe, a count read, then every planned page in order until one
fails. -/
theorem read_all_reads_every_split_in_order (r : TableReader) (unprepared : r.schema = none)
    (atLeast : 0 < r.pageSize) (atMost : r.pageSize ≤ maxPageSize) (m : Metrics)
    (inRange : ∀ c, m.get c < Nat.pow 2 64) (ex : Exchange) {result : Except EngineError (List Row)}
    {r' : TableReader} {m' : Metrics} {ex' : Exchange} (ran : r.readAll.exec m ex = (((result, r'), m'), ex')) :
    ∃ probe ex₁, (r.fetcher.readWithRetry (FetchWindow.make r.table 0 1)).exec ex = (probe, ex₁) ∧
      (∀ e, probe = .error e → result = .error (.ofFetch e) ∧ m' = m ∧ ex' = ex₁) ∧
      ∀ sample, probe = .ok sample →
        ∃ counted ex₂,
          (r.fetcher.readWithRetry { FetchWindow.make r.table 0 1 with range := r.range }).exec ex₁ = (counted, ex₂) ∧
          (∀ e, counted = .error e → result = .error (.ofFetch e) ∧ m' = m ∧ ex' = ex₂) ∧
          ∀ p, counted = .ok p →
            (∃ (exₐ : Exchange) (token : String) (response : HttpResponse),
              exₐ.answer ((r.fetcher.readRequest { FetchWindow.make r.table 0 1 with range := r.range }).withBearer
                token) = (.ok response, ex₂) ∧ p.totalCount = totalCountOf response) ∧
            (p.totalCount = none →
              result = .error (.ofFetch (.nonRetryable r.table 0 200
                ("response carries no " ++ totalCountHeader ++ " header"))) ∧ m' = m ∧ ex' = ex₂) ∧
            ∀ total, p.totalCount = some total →
              ∃ count pages failure, total ≤ count * r.pageSize ∧ count * r.pageSize < total + r.pageSize ∧
                PageReads r.fetcher ((List.range count).map fun i =>
                  { table := r.table, range := r.range, offset := i * r.pageSize, limit := r.pageSize })
                  ex₂ pages failure ex' ∧
                (failure = none → result = .ok (pages.flatMap (·.rows))) ∧
                (∀ e, failure = some e → result = .error (.ofFetch e)) ∧
                m'.pagesFetched = Metrics.wrappingAdd m.pagesFetched pages.length ∧
                m'.recordsRead = Metrics.wrappingAdd m.recordsRead (pages.flatMap (·.rows)).length ∧
                m'.failureCount = Metrics.wrappingAdd m.failureCount (if failure.isSome then 1 else 0) := by
  rcases probed : (r.fetcher.readWithRetry (FetchWindow.make r.table 0 1)).exec ex with ⟨probe, ex₁⟩
  refine ⟨probe, ex₁, rfl, ?_, ?_⟩
  · rintro e rfl
    rw [r.readAll_prepare_failed unprepared (r.prepare_probe_failed probed), Prod.mk.injEq, Prod.mk.injEq,
      Prod.mk.injEq] at ran
    obtain ⟨⟨⟨rfl, -⟩, rfl⟩, rfl⟩ := ran
    exact ⟨rfl, rfl, rfl⟩
  rintro sample rfl
  rcases counted : (r.fetcher.readWithRetry { FetchWindow.make r.table 0 1 with range := r.range }).exec ex₁
    with ⟨count, ex₂⟩
  refine ⟨count, ex₂, rfl, ?_, ?_⟩
  · rintro e rfl
    rw [r.readAll_prepare_failed unprepared (r.prepare_count_failed probed counted), Prod.mk.injEq, Prod.mk.injEq,
      Prod.mk.injEq] at ran
    obtain ⟨⟨⟨rfl, -⟩, rfl⟩, rfl⟩ := ran
    exact ⟨rfl, rfl, rfl⟩
  rintro p rfl
  refine ⟨?_, ?_, ?_⟩
  · -- the count is the one the header of the count read's last response gives
    obtain ⟨exᵢ, read⟩ := r.fetcher.readWithRetry_ok counted
    obtain ⟨exₐ, token, response, answered, -, reported⟩ := r.fetcher.read_ok_response read
    exact ⟨exₐ, token, response, answered, reported⟩
  · intro missing
    rw [r.readAll_prepare_failed unprepared (r.prepare_count_missing probed counted missing), Prod.mk.injEq,
      Prod.mk.injEq, Prod.mk.injEq] at ran
    obtain ⟨⟨⟨rfl, -⟩, rfl⟩, rfl⟩ := ran
    exact ⟨rfl, rfl, rfl⟩
  intro total reported
  rw [r.readAll_prepared unprepared (r.prepare_planned atLeast atMost probed counted reported), Prod.mk.injEq,
    Prod.mk.injEq, Prod.mk.injEq] at ran
  obtain ⟨⟨⟨rfl, -⟩, rfl⟩, rfl⟩ := ran
  -- the splits are read from where the count read left the exchange, with the run's metrics
  obtain ⟨pages, failure, reads, whole, failed, counts⟩ := TableReader.readSplits_reads
    { r with schema := some (TableSchema.fromProbe r.table sample.rows.head?),
             splits := ((List.range (splitCount total r.pageSize)).map
               (plannedSplit r.table total r.pageSize)).map (·.withRange r.range) }
    (((List.range (splitCount total r.pageSize)).map (plannedSplit r.table total r.pageSize)).map
      (·.withRange r.range)) [] m ex₂
  rw [plannedSplit_windows] at reads
  obtain ⟨rounded, tight⟩ := @splitCount_mul_bounds total r.pageSize atLeast
  refine ⟨splitCount total r.pageSize, pages, failure, rounded, tight, reads,
    fun none => by rw [whole none, List.nil_append], failed, ?_⟩
  obtain ⟨pagesFetched, recordsRead, failureCount⟩ :=
    Metrics.foldl_countPage pages reads.rowCounts m (inRange .pagesFetched) (inRange .recordsRead)
  rw [counts]
  cases failure with
  | none => exact ⟨pagesFetched, recordsRead, failureCount.trans (Nat.mod_eq_of_lt (inRange .failureCount)).symm⟩
  | some e => exact ⟨pagesFetched, recordsRead, congrArg (Metrics.wrappingAdd · 1) failureCount⟩
theorem seven_rows_read_at_offsets_zero_and_five :
    let reader : TableReader :=
      ⟨⟨ServiceClient.make (Endpoint.make "http://127.0.0.1:8080") ⟨"id", "secret", "user", "pass"⟩
        ⟨1, 0, 0, .fixed⟩, .actual, ⟨1, 0, 0, .fixed⟩⟩, "sys_user", none, 5, none, []⟩
    let ex : Exchange :=
      ⟨[], [.fixed (.ok ⟨200, [], "\x7b\"result\":[\x7b\"sys_id\":\"u0\"\x7d]\x7d"⟩),
        .fixed (.ok ⟨200, [("x-total-count", "7")], "\x7b\"result\":[\x7b\"sys_id\":\"u0\"\x7d]\x7d"⟩),
        .fixed (.ok ⟨200, [], "\x7b\"result\":[\x7b\"sys_id\":\"u0\"\x7d,\x7b\"sys_id\":\"u1\"\x7d,\x7b\"sys_id\":\"u2\"\x7d,\x7b\"sys_id\":\"u3\"\x7d,\x7b\"sys_id\":\"u4\"\x7d]\x7d"⟩),
        .fixed (.ok ⟨200, [], "\x7b\"result\":[\x7b\"sys_id\":\"u5\"\x7d,\x7b\"sys_id\":\"u6\"\x7d]\x7d"⟩)],
        #[], 0⟩
    ∃ ex₂ pages failure, PageReads reader.fetcher
        [{ table := "sys_user", range := none, offset := 0, limit := 5 },
          { table := "sys_user", range := none, offset := 5, limit := 5 }] ex₂ pages failure
        (reader.readAll.exec Metrics.zero ex).2 ∧
      (reader.readAll.exec Metrics.zero ex).1.1.1.toOption.map List.length = some 7 := by
  intro reader ex
  obtain ⟨probe, ex₁, probed, -, afterProbe⟩ :=
    read_all_reads_every_split_in_order reader rfl (by decide) (by decide) Metrics.zero
      (fun c => by cases c <;> decide) ex rfl
  have probeOk : probe.isOk = true := by
    rw [(Prod.mk.inj probed.symm).1]
    decide +kernel
  cases probe with
  | error e => cases probeOk
  | ok sample =>
    obtain ⟨counted, ex₂, countedRun, -, afterCount⟩ := afterProbe sample rfl
    have counts : counted.toOption.bind (·.totalCount) = some 7 := by
      rw [(Prod.mk.inj countedRun.symm).1, (Prod.mk.inj probed.symm).2]
      decide +kernel
    cases counted with
    | error e => cases counts
    | ok p =>
      obtain ⟨-, -, planned⟩ := afterCount p rfl
      obtain ⟨count, pages, failure, atLeastRows, belowNext, reads, -⟩ := planned 7 counts
      change 7 ≤ count * 5 at atLeastRows
      change count * 5 < 7 + 5 at belowNext
      have two : count = 2 := by omega
      subst two
      exact ⟨ex₂, pages, failure, reads, by decide +kernel⟩

end ReadAll

end TableSync
