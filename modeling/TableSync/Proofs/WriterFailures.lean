import TableSync.Proofs.Writer

/-!
How a batched writer fails: a refused record changes nothing, a failed batched write aborts the
writer, and an aborted writer refuses every call but a run of no writes.
-/

namespace TableSync

theorem RequestCodec.encode_error_iff (c : RequestCodec) (id : String) (record : Row) :
    (∃ e, c.encode id record = .error e) ↔ c.mode = .update ∧ record.rowId = none := by
  cases mode : c.mode <;> cases rowId : record.rowId <;>
    simp [RequestCodec.encode, RequestCodec.target, mode, rowId, bind, Except.bind, pure, Except.pure]

theorem RequestCodec.encode_missingIdentifier {c : RequestCodec} (update : c.mode = .update) (id : String)
    {record : Row} (noId : record.rowId = none) :
    c.encode id record = .error (.missingIdentifier c.table rowIdField) := by
  simp [RequestCodec.encode, RequestCodec.target, update, noId, bind, Except.bind]

namespace BatchedWriter

def submission (w : BatchedWriter) : Net (Except BatchError BatchReport) :=
  match w.context.coordinator w.table w.buffer with
  | .error e => pure (.error e)
  | .ok c => Prod.fst <$> Coordinator.submitWithRetry.run c

section Live

variable {w : BatchedWriter} (live : w.aborted = false)
include live

theorem flush_submission_failed (nonempty : w.buffer ≠ []) {m : Metrics} {ex ex' : Exchange} {e : BatchError}
    (failed : w.submission.exec ex = (.error e, ex')) :
    flush.exec w m ex = (((.error (.ofBatch e), { w with buffer := [], aborted := true }), m.add .failureCount 1), ex') := by
  unfold submission at failed
  simp only [flush, WriterRun.exec_bind, WriterRun.exec_get, live]
  cases made : w.context.coordinator w.table w.buffer with
  | error e₀ =>
    rw [made] at failed
    simp at failed
    obtain ⟨rfl, rfl⟩ := failed
    simp [nonempty]
  | ok c =>
    rw [made] at failed
    rcases ran : Coordinator.submitWithRetry.exec c ex with ⟨⟨result, c'⟩, ex₁⟩
    simp [ran] at failed
    obtain ⟨rfl, rfl⟩ := failed
    simp [ran, nonempty]

theorem flush_submission_ok (nonempty : w.buffer ≠ []) {m : Metrics} {ex ex' : Exchange} {report : BatchReport}
    (submitted : w.submission.exec ex = (.ok report, ex')) :
    flush.exec w m ex =
      (((.ok (), { w with buffer := [], summary := w.summary.absorb report }), m.countReport report), ex') := by
  unfold submission at submitted
  simp only [flush, WriterRun.exec_bind, WriterRun.exec_get, live]
  cases made : w.context.coordinator w.table w.buffer with
  | error e₀ =>
    rw [made] at submitted
    simp at submitted
  | ok c =>
    rw [made] at submitted
    rcases ran : Coordinator.submitWithRetry.exec c ex with ⟨⟨result, c'⟩, ex₁⟩
    simp [ran] at submitted
    obtain ⟨rfl, rfl⟩ := submitted
    simp [ran, nonempty, WriteSummary.absorb, Metrics.countReport]

theorem flush_batch_error {m m' : Metrics} {ex ex' : Exchange} {e : BatchError} {w' : BatchedWriter}
    (failed : flush.exec w m ex = (((.error (.ofBatch e), w'), m'), ex')) :
    w.buffer ≠ [] ∧ w.submission.exec ex = (.error e, ex') ∧
      w' = { w with buffer := [], aborted := true } ∧ m' = m.add .failureCount 1 := by
  by_cases empty : w.buffer = []
  · rw [flush_idle live empty] at failed
    simp at failed
  · rcases submitted : w.submission.exec ex with ⟨result, ex₁⟩
    cases result with
    | error e₀ =>
      rw [flush_submission_failed live empty submitted] at failed
      simp only [Prod.mk.injEq, Except.error.injEq, EngineError.ofBatch, EngineError.connector.injEq,
        ConnectorError.batch.injEq] at failed
      obtain ⟨⟨⟨rfl, rfl⟩, rfl⟩, rfl⟩ := failed
      exact ⟨empty, rfl, rfl, rfl⟩
    | ok report =>
      rw [flush_submission_ok live empty submitted] at failed
      simp at failed

theorem write_batch_error {record : Row} {m m' : Metrics} {ex ex' : Exchange} {e : BatchError}
    {w' : BatchedWriter} (failed : (write record).exec w m ex = (((.error (.ofBatch e), w'), m'), ex')) :
    w' = { w with buffer := [], aborted := true } ∧ m' = m.add .failureCount 1 := by
  simp only [write, WriterRun.exec_bind, WriterRun.exec_get, live, Bool.false_eq_true, ↓reduceIte,
    WriterRun.exec_liftNet, freshId_exec] at failed
  cases encoded : w.codec.encode (uuidOf (ex.issued + 1)) record with
  | error e₀ =>
    simp [encoded, EngineError.ofBatch, EngineError.ofSchema] at failed
  | ok envelope =>
    simp only [encoded, WriterRun.exec_bind, WriterRun.exec_set] at failed
    by_cases full : w.batchSize ≤ w.buffer.length + 1
    · simp only [full, if_true] at failed
      -- the flush sees the writer with the record buffered, still live
      obtain ⟨-, -, aborted, counted⟩ :=
        flush_batch_error (w := { w with buffer := w.buffer ++ [envelope], aborted := false }) rfl failed
      exact ⟨aborted, counted⟩
    · simp [full] at failed

theorem close_batch_error {m m' : Metrics} {ex ex' : Exchange} {e : BatchError} {w' : BatchedWriter}
    (failed : close.exec w m ex = (((.error (.ofBatch e), w'), m'), ex')) :
    w' = { w with buffer := [], aborted := true } ∧ m' = m.add .failureCount 1 := by
  simp only [close, WriterRun.exec_bind] at failed
  rcases flushed : flush.exec w m ex with ⟨⟨⟨result, w₁⟩, m₁⟩, ex₁⟩
  rw [flushed] at failed
  cases result with
  | error e₀ =>
    simp only [WriterRun.exec_pure, Prod.mk.injEq, Except.error.injEq] at failed
    obtain ⟨⟨⟨rfl, rfl⟩, rfl⟩, rfl⟩ := failed
    obtain ⟨-, -, aborted, counted⟩ := flush_batch_error live flushed
    exact ⟨aborted, counted⟩
  | ok u => simp at failed

theorem write_refused {record : Row} {m : Metrics} {ex : Exchange} {e : SchemaError}
    (refused : w.codec.encode (uuidOf (ex.issued + 1)) record = .error e) :
    (write record).exec w m ex = (((.error (.ofSchema e), w), m), { ex with issued := ex.issued + 1 }) := by
  simp [write, live, refused]

end Live

section Aborted

variable {w : BatchedWriter} (aborted : w.aborted = true) (m : Metrics) (ex : Exchange)
include aborted

theorem write_aborted (record : Row) :
    (write record).exec w m ex = (((.error (.writerAborted w.table), w), m), ex) := by
  simp [write, aborted]

theorem flush_aborted : flush.exec w m ex = (((.error (.writerAborted w.table), w), m), ex) := by
  simp [flush, aborted]

theorem close_aborted : close.exec w m ex = (((.error (.writerAborted w.table), w), m), ex) := by
  simp only [close, WriterRun.exec_bind, flush_aborted aborted]
  rfl

theorem writeAll_cons_aborted (record : Row) (rest : List Row) :
    (writeAll (record :: rest)).exec w m ex = (((.error (.writerAborted w.table), w), m), ex) := by
  simp only [writeAll, WriterRun.exec_bind, write_aborted aborted]
  rfl

end Aborted

end BatchedWriter

open BatchedWriter in
/-- A refused record changes nothing, a failed batched write aborts the writer, and an aborted
writer refuses every call. -/
theorem writer_failures_are_contained (w : BatchedWriter) (m : Metrics) (ex : Exchange) :
    ((∀ id record, (∃ e, w.codec.encode id record = .error e) ↔ w.codec.mode = .update ∧ record.rowId = none) ∧
      (w.aborted = false → ∀ record, w.codec.mode = .update → record.rowId = none →
        ∃ ex', (write record).exec w m ex =
          (((.error (.ofSchema (.missingIdentifier w.table rowIdField)), w), m), ex') ∧ ex'.sent = ex.sent)) ∧
    (w.aborted = false →
      (w.buffer ≠ [] → ∀ e ex', w.submission.exec ex = (.error e, ex') →
        flush.exec w m ex =
          (((.error (.ofBatch e), { w with buffer := [], aborted := true }), m.add .failureCount 1), ex')) ∧
      (∀ record e w' m' ex', (write record).exec w m ex = (((.error (.ofBatch e), w'), m'), ex') →
        w' = { w with buffer := [], aborted := true } ∧ m' = m.add .failureCount 1) ∧
      (∀ e w' m' ex', close.exec w m ex = (((.error (.ofBatch e), w'), m'), ex') →
        w' = { w with buffer := [], aborted := true } ∧ m' = m.add .failureCount 1)) ∧
    (w.aborted = true →
      (∀ record, (write record).exec w m ex = (((.error (.writerAborted w.table), w), m), ex)) ∧
      (∀ record rest, (writeAll (record :: rest)).exec w m ex = (((.error (.writerAborted w.table), w), m), ex)) ∧
      flush.exec w m ex = (((.error (.writerAborted w.table), w), m), ex) ∧
      close.exec w m ex = (((.error (.writerAborted w.table), w), m), ex) ∧
      (writeAll []).exec w m ex = (((.ok (), w), m), ex)) := by
  refine ⟨⟨fun id record => w.codec.encode_error_iff id record, ?_⟩, ?_, ?_⟩
  · intro live record update noId
    refine ⟨{ ex with issued := ex.issued + 1 }, ?_, rfl⟩
    exact write_refused live (RequestCodec.encode_missingIdentifier update _ noId)
  · intro live
    exact ⟨fun nonempty e ex' failed => flush_submission_failed live nonempty failed,
      fun record e w' m' ex' failed => write_batch_error live failed,
      fun e w' m' ex' failed => close_batch_error live failed⟩
  · intro aborted
    exact ⟨write_aborted aborted m ex, writeAll_cons_aborted aborted m ex, flush_aborted aborted m ex,
      close_aborted aborted m ex, rfl⟩

/-- A writer whose first batched write is refused by the service is aborted, and a second write is
refused; yet a run of writes over no records on it succeeds. -/
theorem aborted_writer_accepts_no_records :
    let ctx : ServiceContext :=
      ⟨{ ServiceSettings.defaults with batchSize := 1 },
        ServiceClient.make (Endpoint.make "https://dev.service-now.com") ⟨"client", "secret", "user", "password"⟩
          RetryPolicy.forAuth⟩
    let record : Row := ⟨"incident", [("short_description", .string "incident 1")]⟩
    let denied : String :=
      "\x7b\"serviced_requests\":[\x7b\"id\":\"00000000-0000-4000-8000-000000000001\",\"status_code\":403\x7d]\x7d"
    let wrote := (BatchedWriter.write record).exec (ctx.writer "incident" .insert) Metrics.zero
      (Exchange.make [] [.fixed (.ok (HttpResponse.make 200 denied))])
    wrote.1.1.1.isOk = false ∧ wrote.1.1.2.aborted = true ∧
      ((BatchedWriter.write record).exec wrote.1.1.2 wrote.1.2 wrote.2).1.1.1.isOk = false ∧
      ((BatchedWriter.writeAll []).exec wrote.1.1.2 wrote.1.2 wrote.2).1.1.1.isOk = true := by
  decide +kernel

end TableSync
