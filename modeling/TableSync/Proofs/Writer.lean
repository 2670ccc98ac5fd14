import Mathlib.Data.List.Forall2
import TableSync.Proofs.Batch.Submission
import TableSync.Engine.Context

/-!
Buffered writing: in a run where no call fails, a batched writer partitions the records into full
batches and a last one, and its summary and the metrics count them.
-/

namespace TableSync

def Metered.exec {α : Type} (z : Metered α) (m : Metrics) (ex : Exchange) : (α × Metrics) × Exchange :=
  ((z.run m).run ex).run

def WriterRun.exec {α : Type} (x : WriterRun α) (w : BatchedWriter) (m : Metrics) (ex : Exchange) :
    ((α × BatchedWriter) × Metrics) × Exchange :=
  (((x.run w).run m).run ex).run

namespace WriterRun

variable {α β : Type}

@[simp] theorem exec_pure (a : α) (w : BatchedWriter) (m : Metrics) (ex : Exchange) :
    (pure a : WriterRun α).exec w m ex = (((a, w), m), ex) := rfl

@[simp] theorem exec_bind (x : WriterRun α) (f : α → WriterRun β) (w : BatchedWriter) (m : Metrics)
    (ex : Exchange) :
    (x >>= f).exec w m ex =
      (f (x.exec w m ex).1.1.1).exec (x.exec w m ex).1.1.2 (x.exec w m ex).1.2 (x.exec w m ex).2 := rfl

@[simp] theorem exec_map (f : α → β) (x : WriterRun α) (w : BatchedWriter) (m : Metrics) (ex : Exchange) :
    (f <$> x).exec w m ex = (((f (x.exec w m ex).1.1.1, (x.exec w m ex).1.1.2), (x.exec w m ex).1.2),
      (x.exec w m ex).2) := rfl

@[simp] theorem exec_get (w : BatchedWriter) (m : Metrics) (ex : Exchange) :
    (get : WriterRun BatchedWriter).exec w m ex = (((w, w), m), ex) := rfl

@[simp] theorem exec_set (w w' : BatchedWriter) (m : Metrics) (ex : Exchange) :
    (set w' : WriterRun PUnit).exec w m ex = ((((), w'), m), ex) := rfl

@[simp] theorem exec_modify (f : BatchedWriter → BatchedWriter) (w : BatchedWriter) (m : Metrics)
    (ex : Exchange) : (modify f : WriterRun PUnit).exec w m ex = ((((), f w), m), ex) := rfl

@[simp] theorem exec_liftNet (y : Net α) (w : BatchedWriter) (m : Metrics) (ex : Exchange) :
    (liftM y : WriterRun α).exec w m ex = ((((y.exec ex).1, w), m), (y.exec ex).2) := rfl

@[simp] theorem exec_liftMetered (z : Metered α) (w : BatchedWriter) (m : Metrics) (ex : Exchange) :
    (liftM z : WriterRun α).exec w m ex = ((((z.exec m ex).1.1, w), (z.exec m ex).1.2), (z.exec m ex).2) := rfl

end WriterRun

@[simp] theorem BatchRun.run_exec {α : Type} (x : BatchRun α) (c : Coordinator) (ex : Exchange) :
    (x.run c : Net (α × Coordinator)).exec ex = x.exec c ex := rfl

namespace Metered

variable {α β : Type}

@[simp] theorem exec_bind (z : Metered α) (f : α → Metered β) (m : Metrics) (ex : Exchange) :
    (z >>= f).exec m ex = (f (z.exec m ex).1.1).exec (z.exec m ex).1.2 (z.exec m ex).2 := rfl

@[simp] theorem exec_count (c : Counter) (n : Nat) (m : Metrics) (ex : Exchange) :
    (count c n).exec m ex = (((), m.add c n), ex) := rfl

end Metered

def WriteSummary.absorb (s : WriteSummary) (report : BatchReport) : WriteSummary :=
  { s with written := s.written + report.written, batches := s.batches + 1, rounds := s.rounds + report.rounds,
           skipped := s.skipped ++ report.skipped }

def Metrics.countReport (m : Metrics) (report : BatchReport) : Metrics :=
  ((((m.add .batchesSubmitted 1).add .batchRounds report.rounds).add .batchRetries (report.attempts - 1)).add
    .recordsWritten report.written).add .recordsSkipped report.skipped.length

theorem Coordinator.make_fresh {client : ServiceClient} {table : String} {input : List WriteEnvelope}
    {c : Coordinator} (made : Coordinator.make client table input = .ok c) :
    c.client = client ∧ c.settledIds = [] := by
  rw [Coordinator.make_of_nodup client table ((Coordinator.make_ok_iff client table).mp ⟨c, made⟩)] at made
  cases made
  exact ⟨rfl, rfl⟩

theorem ServiceContext.coordinator_made {ctx : ServiceContext} {table : String} {input : List WriteEnvelope}
    {c : Coordinator} (made : ctx.coordinator table input = .ok c) :
    Coordinator.Between input c c.pendingIds ∧ c.client = ctx.client ∧ 0 < c.maxRounds ∧
      c.pendingIds = input.map (·.id) ∧ c.envelopesOf c.pendingIds = input := by
  unfold ServiceContext.coordinator at made
  cases fresh : Coordinator.make ctx.client table input with
  | error e =>
    rw [fresh] at made
    cases made
  | ok c₀ =>
    rw [fresh] at made
    have configured : (c₀.withRetry ctx.settings.retry.batch.policy).withMaxRounds ctx.settings.maxBatchRounds = c :=
      Except.ok.inj made
    subst configured
    have between : Coordinator.Between input
        ((c₀.withRetry ctx.settings.retry.batch.policy).withMaxRounds ctx.settings.maxBatchRounds)
        ((c₀.withRetry ctx.settings.retry.batch.policy).withMaxRounds ctx.settings.maxBatchRounds).pendingIds :=
      ((Coordinator.Between.made fresh).withRetry _).withMaxRounds _
    have accounts := between.ready.accounts
    obtain ⟨client, nothingSettled⟩ := Coordinator.make_fresh fresh
    have stillNothing : ((c₀.withRetry ctx.settings.retry.batch.policy).withMaxRounds
        ctx.settings.maxBatchRounds).settledIds = [] := nothingSettled
    refine ⟨between, client, Nat.lt_of_lt_of_le Nat.zero_lt_one (Nat.le_max_right _ _), ?_, ?_⟩
    · rw [accounts.pendingIds_eq, stillNothing]
      simp
    · rw [between.ready.envelopesOf_eq, accounts.filter_isPending, stillNothing]
      simp

/-- A batch a writer submitted: its envelopes, the report of its submission and the requests the
submission sent. -/
structure FlushedBatch where
  envelopes : List WriteEnvelope
  report : BatchReport
  requests : List HttpRequest

structure FlushedBatch.Submitted (ctx : ServiceContext) (table : String) (b : FlushedBatch) : Prop where
  nonempty : b.envelopes ≠ []
  ran : ∃ c c' ex ex', ctx.coordinator table b.envelopes = .ok c ∧
    Coordinator.submitWithRetry.exec c ex = ((.ok b.report, c'), ex') ∧ ex'.sent.toList = ex.sent.toList ++ b.requests

namespace FlushedBatch.Submitted

variable {ctx : ServiceContext} {table : String} {b : FlushedBatch}

theorem settles (submitted : b.Submitted ctx table) :
    b.report.written + b.report.skipped.length = b.envelopes.length := by
  obtain ⟨c, c', ex, ex', made, ran, -⟩ := submitted.ran
  obtain ⟨between, -⟩ := ServiceContext.coordinator_made made
  have lengths := (Coordinator.submitWithRetry_settles between ran).length_eq
  simp only [List.length_append, List.length_map] at lengths
  exact lengths

theorem first_post (submitted : b.Submitted ctx table) :
    ∃ k req rest, b.requests = List.replicate k ctx.client.tokens.grantRequest ++ req :: rest ∧
      req.url = ctx.client.endpoint.batchUrl ∧
      ∃ batchId, req.body = .json (BatchEnvelope.toJson ⟨batchId, b.envelopes⟩) := by
  obtain ⟨c, c', ex, ex', made, ran, sent⟩ := submitted.ran
  obtain ⟨-, client, allowed, pendingIds, envelopes⟩ := ServiceContext.coordinator_made made
  have pending : c.pendingIds ≠ [] := by
    rw [pendingIds]
    simpa using submitted.nonempty
  obtain ⟨k, req, rest, posted, url, batchId, body⟩ := Coordinator.submitWithRetry_first_post pending allowed ran
  rw [sent, List.append_assoc] at posted
  rw [← client]
  exact ⟨k, req, rest, List.append_cancel_left posted, url, batchId, by rw [body, envelopes]⟩

end FlushedBatch.Submitted

namespace BatchedWriter

theorem flush_idle {w : BatchedWriter} (live : w.aborted = false) (empty : w.buffer = []) (m : Metrics)
    (ex : Exchange) : flush.exec w m ex = (((.ok (), w), m), ex) := by
  simp [flush, live, empty]

theorem flush_ok {w w' : BatchedWriter} {m m' : Metrics} {ex ex' : Exchange} (live : w.aborted = false)
    (nonempty : w.buffer ≠ []) (flushed : flush.exec w m ex = (((.ok (), w'), m'), ex')) :
    ∃ c c' report, w.context.coordinator w.table w.buffer = .ok c ∧
      Coordinator.submitWithRetry.exec c ex = ((.ok report, c'), ex') ∧
      w' = { w with buffer := [], summary := w.summary.absorb report } ∧ m' = m.countReport report := by
  simp [flush, live, nonempty] at flushed
  split at flushed
  · simp at flushed
  · next c made =>
    rcases ran : Coordinator.submitWithRetry.exec c ex with ⟨⟨result, c'⟩, ex₁⟩
    simp [ran] at flushed
    cases result with
    | error e => simp at flushed
    | ok report =>
      simp at flushed
      obtain ⟨⟨rfl, rfl⟩, rfl⟩ := flushed
      refine ⟨c, c', report, made, ran, ?_, rfl⟩
      rw [live]
      rfl

theorem write_ok {w w' : BatchedWriter} {m m' : Metrics} {ex ex' : Exchange} {record : Row}
    (live : w.aborted = false) (wrote : (write record).exec w m ex = (((.ok (), w'), m'), ex')) :
    ∃ envelope, w.codec.encode (uuidOf (ex.issued + 1)) record = .ok envelope ∧
      (w.batchSize ≤ w.buffer.length + 1 →
        flush.exec { w with buffer := w.buffer ++ [envelope] } m { ex with issued := ex.issued + 1 } =
          (((.ok (), w'), m'), ex')) ∧
      (w.buffer.length + 1 < w.batchSize →
        w' = { w with buffer := w.buffer ++ [envelope] } ∧ m' = m ∧ ex' = { ex with issued := ex.issued + 1 }) := by
  simp [write, live] at wrote
  cases encoded : w.codec.encode (uuidOf (ex.issued + 1)) record with
  | error e =>
    rw [encoded] at wrote
    simp at wrote
  | ok envelope =>
    rw [encoded] at wrote
    simp only [WriterRun.exec_bind, WriterRun.exec_set] at wrote
    rw [live]
    refine ⟨envelope, rfl, fun full => ?_, fun room => ?_⟩
    · simpa [full] using wrote
    · have notFull : ¬w.batchSize ≤ w.buffer.length + 1 := by omega
      simp only [notFull, if_false, WriterRun.exec_pure, Prod.mk.injEq] at wrote
      obtain ⟨⟨⟨-, rfl⟩, rfl⟩, rfl⟩ := wrote
      exact ⟨rfl, rfl, rfl⟩

theorem writeAll_cons {record : Row} {rest : List Row} {w w'' : BatchedWriter} {m m'' : Metrics}
    {ex ex'' : Exchange} (wrote : (writeAll (record :: rest)).exec w m ex = (((.ok (), w''), m''), ex'')) :
    ∃ w' m' ex', (write record).exec w m ex = (((.ok (), w'), m'), ex') ∧
      (writeAll rest).exec w' m' ex' = (((.ok (), w''), m''), ex'') := by
  simp only [writeAll, WriterRun.exec_bind] at wrote
  rcases first : (write record).exec w m ex with ⟨⟨⟨result, w'⟩, m'⟩, ex'⟩
  rw [first] at wrote
  cases result with
  | error e => simp at wrote
  | ok u => exact ⟨w', m', ex', rfl, wrote⟩

theorem writeAll_append (records rest : List Row) :
    ∀ {w w'' : BatchedWriter} {m m'' : Metrics} {ex ex'' : Exchange},
      (writeAll (records ++ rest)).exec w m ex = (((.ok (), w''), m''), ex'') →
      ∃ w' m' ex', (writeAll records).exec w m ex = (((.ok (), w'), m'), ex') ∧
        (writeAll rest).exec w' m' ex' = (((.ok (), w''), m''), ex'') := by
  induction records with
  | nil =>
    intro w w'' m m'' ex ex'' wrote
    exact ⟨w, m, ex, rfl, wrote⟩
  | cons record records ih =>
    intro w w'' m m'' ex ex'' wrote
    obtain ⟨w₁, m₁, ex₁, first, later⟩ := writeAll_cons wrote
    obtain ⟨w', m', ex', front, back⟩ := ih later
    refine ⟨w', m', ex', ?_, back⟩
    simp only [writeAll, WriterRun.exec_bind, first]
    exact front

theorem close_ok {w w' : BatchedWriter} {m m' : Metrics} {ex ex' : Exchange} {summary : WriteSummary}
    (closed : close.exec w m ex = (((.ok summary, w'), m'), ex')) :
    flush.exec w m ex = (((.ok (), w'), m'), ex') ∧ summary = w'.summary := by
  simp only [close, WriterRun.exec_bind] at closed
  rcases flushed : flush.exec w m ex with ⟨⟨⟨result, w₁⟩, m₁⟩, ex₁⟩
  rw [flushed] at closed
  cases result with
  | error e => simp at closed
  | ok u =>
    simp only [WriterRun.exec_bind, WriterRun.exec_get, WriterRun.exec_pure, Prod.mk.injEq,
      Except.ok.injEq] at closed
    obtain ⟨⟨⟨same, rfl⟩, rfl⟩, rfl⟩ := closed
    exact ⟨rfl, same.symm⟩

end BatchedWriter

def FlushedBatch.total (f : FlushedBatch → Nat) (batches : List FlushedBatch) : Nat :=
  batches.foldr (fun b n => f b + n) 0

namespace FlushedBatch

variable (f g : FlushedBatch → Nat)

@[simp] theorem total_nil : total f [] = 0 := rfl

@[simp] theorem total_cons (b : FlushedBatch) (batches : List FlushedBatch) :
    total f (b :: batches) = f b + total f batches := rfl

@[simp] theorem total_append (batches more : List FlushedBatch) :
    total f (batches ++ more) = total f batches + total f more := by
  induction batches with
  | nil => simp
  | cons b batches ih => simp [ih, Nat.add_assoc]

theorem total_add (batches : List FlushedBatch) :
    total (fun b => f b + g b) batches = total f batches + total g batches := by
  induction batches with
  | nil => rfl
  | cons b batches ih =>
    simp only [total_cons, ih]
    omega

theorem total_const (n : Nat) (batches : List FlushedBatch) : total (fun _ => n) batches = n * batches.length := by
  induction batches with
  | nil => rfl
  | cons b batches ih => rw [total_cons, ih, List.length_cons, Nat.mul_succ, Nat.add_comm]

theorem total_congr {batches : List FlushedBatch} (same : ∀ b ∈ batches, f b = g b) :
    total f batches = total g batches := by
  induction batches with
  | nil => rfl
  | cons b batches ih =>
    simp only [total_cons]
    rw [same b List.mem_cons_self, ih fun b' member => same b' (List.mem_cons_of_mem b member)]

theorem length_flatten_map (h : FlushedBatch → List α) (batches : List FlushedBatch) :
    ((batches.map h).flatten).length = total (fun b => (h b).length) batches := by
  induction batches with
  | nil => rfl
  | cons b batches ih => simp only [List.map_cons, List.flatten_cons, List.length_append, ih, total_cons]

end FlushedBatch

theorem WriteSummary.foldl_absorb (batches : List FlushedBatch) :
    ∀ s : WriteSummary, (batches.foldl (fun s b => s.absorb b.report) s).written =
        s.written + FlushedBatch.total (fun b => b.report.written) batches ∧
      (batches.foldl (fun s b => s.absorb b.report) s).skipped =
        s.skipped ++ (batches.map (·.report.skipped)).flatten ∧
      (batches.foldl (fun s b => s.absorb b.report) s).batches = s.batches + batches.length ∧
      (batches.foldl (fun s b => s.absorb b.report) s).rounds =
        s.rounds + FlushedBatch.total (fun b => b.report.rounds) batches := by
  induction batches with
  | nil => simp
  | cons b batches ih =>
    intro s
    obtain ⟨written, skipped, counted, rounds⟩ := ih (s.absorb b.report)
    simp only [List.foldl_cons]
    rw [written, skipped, counted, rounds]
    simp only [WriteSummary.absorb, FlushedBatch.total_cons, List.map_cons, List.flatten_cons, List.length_cons]
    exact ⟨by omega, List.append_assoc _ _ _, by omega, by omega⟩

theorem Metrics.wrappingAdd_wrappingAdd (a x y : Nat) :
    wrappingAdd (wrappingAdd a x) y = wrappingAdd a (x + y) := by
  simp only [wrappingAdd, Nat.mod_add_mod, Nat.add_assoc]

theorem Metrics.wrappingAdd_lt (a x : Nat) : wrappingAdd a x < Nat.pow 2 64 :=
  Nat.mod_lt _ (Nat.pow_pos (by decide))

theorem Metrics.foldl_countReport_advances (c : Counter) (amount : BatchReport → Nat)
    (counts : ∀ (m : Metrics) (r : BatchReport), (m.countReport r).get c = wrappingAdd (m.get c) (amount r)) :
    ∀ (batches : List FlushedBatch) (m : Metrics), m.get c < Nat.pow 2 64 →
      (batches.foldl (fun m b => m.countReport b.report) m).get c =
        wrappingAdd (m.get c) (FlushedBatch.total (fun b => amount b.report) batches) := by
  intro batches
  induction batches with
  | nil =>
    intro m inRange
    exact (Nat.mod_eq_of_lt inRange).symm
  | cons b batches ih =>
    intro m _
    rw [List.foldl_cons, ih _ (by rw [counts]; exact wrappingAdd_lt _ _), counts, wrappingAdd_wrappingAdd,
      FlushedBatch.total_cons]

theorem Metrics.foldl_countReport_keeps (c : Counter)
    (keeps : ∀ (m : Metrics) (r : BatchReport), (m.countReport r).get c = m.get c) :
    ∀ (batches : List FlushedBatch) (m : Metrics),
      (batches.foldl (fun m b => m.countReport b.report) m).get c = m.get c := by
  intro batches
  induction batches with
  | nil => intro m; rfl
  | cons b batches ih =>
    intro m
    rw [List.foldl_cons, ih, keeps]

theorem Metrics.foldl_countReport (batches : List FlushedBatch) (m : Metrics)
    (inRange : ∀ c, m.get c < Nat.pow 2 64) :
    (batches.foldl (fun m b => m.countReport b.report) m).recordsWritten =
        wrappingAdd m.recordsWritten (FlushedBatch.total (fun b => b.report.written) batches) ∧
      (batches.foldl (fun m b => m.countReport b.report) m).recordsSkipped =
        wrappingAdd m.recordsSkipped (FlushedBatch.total (fun b => b.report.skipped.length) batches) ∧
      (batches.foldl (fun m b => m.countReport b.report) m).batchesSubmitted =
        wrappingAdd m.batchesSubmitted batches.length ∧
      (batches.foldl (fun m b => m.countReport b.report) m).batchRounds =
        wrappingAdd m.batchRounds (FlushedBatch.total (fun b => b.report.rounds) batches) ∧
      (batches.foldl (fun m b => m.countReport b.report) m).batchRetries =
        wrappingAdd m.batchRetries (FlushedBatch.total (fun b => b.report.attempts - 1) batches) ∧
      (batches.foldl (fun m b => m.countReport b.report) m).recordsRead = m.recordsRead ∧
      (batches.foldl (fun m b => m.countReport b.report) m).pagesFetched = m.pagesFetched ∧
      (batches.foldl (fun m b => m.countReport b.report) m).failureCount = m.failureCount := by
  have submittedOnce :=
    foldl_countReport_advances .batchesSubmitted (fun _ => 1) (fun _ _ => rfl) batches m (inRange _)
  rw [FlushedBatch.total_const, Nat.one_mul] at submittedOnce
  exact ⟨foldl_countReport_advances .recordsWritten BatchReport.written (fun _ _ => rfl) batches m (inRange _),
    foldl_countReport_advances .recordsSkipped (fun r => r.skipped.length) (fun _ _ => rfl) batches m (inRange _),
    submittedOnce,
    foldl_countReport_advances .batchRounds BatchReport.rounds (fun _ _ => rfl) batches m (inRange _),
    foldl_countReport_advances .batchRetries (fun r => r.attempts - 1) (fun _ _ => rfl) batches m (inRange _),
    foldl_countReport_keeps .recordsRead (fun _ _ => rfl) batches m,
    foldl_countReport_keeps .pagesFetched (fun _ _ => rfl) batches m,
    foldl_countReport_keeps .failureCount (fun _ _ => rfl) batches m⟩

section Progress

variable {ctx : ServiceContext} {table : String} {mode : WriteMode} {m₀ : Metrics} {ex₀ : Exchange}

/-- Where a fresh writer stands after writing `records`: full batches submitted and the rest
buffered. -/
structure Progress (ctx : ServiceContext) (table : String) (mode : WriteMode) (m₀ : Metrics) (ex₀ : Exchange)
    (records : List Row) (batches : List FlushedBatch) (w : BatchedWriter) (m : Metrics) (ex : Exchange) :
    Prop where
  encoded : List.Forall₂ (fun record envelope => ∃ id, (ctx.writer table mode).codec.encode id record = .ok envelope)
    records ((batches.map (·.envelopes)).flatten ++ w.buffer)
  full : ∀ b ∈ batches, b.envelopes.length = (ctx.writer table mode).batchSize
  submitted : ∀ b ∈ batches, b.Submitted ctx table
  context : w.context = ctx
  codec : w.codec = (ctx.writer table mode).codec
  batchSize : w.batchSize = (ctx.writer table mode).batchSize
  live : w.aborted = false
  summary : w.summary = batches.foldl (fun s b => s.absorb b.report) (ctx.writer table mode).summary
  metrics : m = batches.foldl (fun m b => m.countReport b.report) m₀
  sent : ex.sent.toList = ex₀.sent.toList ++ (batches.map (·.requests)).flatten
  room : w.buffer.length < (ctx.writer table mode).batchSize

theorem ServiceContext.writer_batchSize_pos (ctx : ServiceContext) (table : String) (mode : WriteMode) :
    0 < (ctx.writer table mode).batchSize :=
  Nat.lt_of_lt_of_le Nat.zero_lt_one (Nat.le_max_right _ _)

theorem Progress.coordinator {records : List Row} {batches : List FlushedBatch} {w : BatchedWriter} {m : Metrics}
    {ex : Exchange} (progress : Progress ctx table mode m₀ ex₀ records batches w m ex) (envelopes : List WriteEnvelope) :
    w.context.coordinator w.table envelopes = ctx.coordinator table envelopes := by
  rw [progress.context, BatchedWriter.table, progress.codec]
  rfl

theorem Progress.start : Progress ctx table mode m₀ ex₀ [] [] (ctx.writer table mode) m₀ ex₀ :=
  ⟨.nil, fun _ none => absurd none List.not_mem_nil, fun _ none => absurd none List.not_mem_nil, rfl, rfl, rfl,
    rfl, rfl, rfl, by simp, ServiceContext.writer_batchSize_pos ctx table mode⟩

theorem Progress.write {records : List Row} {batches : List FlushedBatch} {w w' : BatchedWriter}
    {m m' : Metrics} {ex ex' : Exchange} (progress : Progress ctx table mode m₀ ex₀ records batches w m ex)
    {record : Row} (wrote : (BatchedWriter.write record).exec w m ex = (((.ok (), w'), m'), ex')) :
    ∃ more : List FlushedBatch, more.length ≤ 1 ∧
      Progress ctx table mode m₀ ex₀ (records ++ [record]) (batches ++ more) w' m' ex' := by
  obtain ⟨envelope, encoded, fills, fits⟩ := BatchedWriter.write_ok progress.live wrote
  have encodedAll : List.Forall₂ (fun record envelope => ∃ id, (ctx.writer table mode).codec.encode id record = .ok envelope)
      (records ++ [record]) ((batches.map (·.envelopes)).flatten ++ (w.buffer ++ [envelope])) := by
    rw [← List.append_assoc]
    exact List.rel_append progress.encoded (.cons ⟨_, progress.codec ▸ encoded⟩ .nil)
  have room := progress.room
  rw [← progress.batchSize] at room
  by_cases full : w.batchSize ≤ w.buffer.length + 1
  · -- the buffer fills up and is submitted as one batch
    obtain ⟨c, c', report, made, ran, rfl, rfl⟩ :=
      BatchedWriter.flush_ok (w := { w with buffer := w.buffer ++ [envelope] }) progress.live (by simp) (fills full)
    obtain ⟨requests, grows⟩ := Coordinator.submitWithRetry_sent ran
    have submitted : FlushedBatch.Submitted ctx table ⟨w.buffer ++ [envelope], report, requests⟩ :=
      ⟨by simp, c, c', _, ex', (progress.coordinator _).symm.trans made, ran, grows⟩
    refine ⟨[⟨w.buffer ++ [envelope], report, requests⟩], by simp, ?_⟩
    refine ⟨by simpa using encodedAll, ?_, ?_, progress.context, progress.codec, progress.batchSize, progress.live,
      ?_, ?_, ?_, ctx.writer_batchSize_pos table mode⟩
    · intro b member
      rcases List.mem_append.mp member with old | new
      · exact progress.full b old
      · rw [List.mem_singleton.mp new, ← progress.batchSize]
        simp only [List.length_append, List.length_singleton]
        omega
    · intro b member
      rcases List.mem_append.mp member with old | new
      · exact progress.submitted b old
      · rw [List.mem_singleton.mp new]
        exact submitted
    · simp only [List.foldl_append, List.foldl_cons, List.foldl_nil]
      rw [← progress.summary]
    · simp only [List.foldl_append, List.foldl_cons, List.foldl_nil]
      rw [← progress.metrics]
    · rw [grows, progress.sent]
      simp
  · -- the buffer keeps the new envelope
    obtain ⟨rfl, rfl, rfl⟩ := fits (by omega)
    refine ⟨[], by simp, ?_⟩
    refine ⟨by simpa using encodedAll, by simpa using progress.full, by simpa using progress.submitted,
      progress.context, progress.codec, progress.batchSize, progress.live, by simpa using progress.summary,
      by simpa using progress.metrics, by simpa using progress.sent, ?_⟩
    simp only [List.length_append, List.length_singleton]
    rw [← progress.batchSize]
    omega

theorem Progress.writeAll {records : List Row} {batches : List FlushedBatch} {w : BatchedWriter} {m : Metrics}
    {ex : Exchange} (progress : Progress ctx table mode m₀ ex₀ records batches w m ex) (rest : List Row)
    {w'' : BatchedWriter} {m'' : Metrics} {ex'' : Exchange}
    (wrote : (BatchedWriter.writeAll rest).exec w m ex = (((.ok (), w''), m''), ex'')) :
    ∃ more, Progress ctx table mode m₀ ex₀ (records ++ rest) (batches ++ more) w'' m'' ex'' := by
  induction rest generalizing records batches w m ex with
  | nil =>
    simp only [BatchedWriter.writeAll, WriterRun.exec_pure, Prod.mk.injEq] at wrote
    obtain ⟨⟨⟨-, rfl⟩, rfl⟩, rfl⟩ := wrote
    exact ⟨[], by simpa using progress⟩
  | cons record rest ih =>
    obtain ⟨w₁, m₁, ex₁, first, later⟩ := BatchedWriter.writeAll_cons wrote
    obtain ⟨more₁, -, stepped⟩ := progress.write first
    obtain ⟨more₂, final⟩ := ih stepped later
    exact ⟨more₁ ++ more₂, by simpa using final⟩

theorem Progress.counts {records : List Row} {batches : List FlushedBatch} {w : BatchedWriter} {m : Metrics}
    {ex : Exchange} (progress : Progress ctx table mode m₀ ex₀ records batches w m ex) :
    batches.length = records.length / (ctx.writer table mode).batchSize ∧
      w.buffer.length = records.length % (ctx.writer table mode).batchSize := by
  have lengths := progress.encoded.length_eq
  rw [List.length_append, FlushedBatch.length_flatten_map,
    FlushedBatch.total_congr _ (fun _ => (ctx.writer table mode).batchSize) progress.full,
    FlushedBatch.total_const] at lengths
  have split := (Nat.div_mod_unique (ctx.writer_batchSize_pos table mode)).mpr
    (⟨by rw [lengths, Nat.add_comm], progress.room⟩ :
      w.buffer.length + (ctx.writer table mode).batchSize * batches.length = records.length ∧ _)
  exact ⟨split.1.symm, split.2.symm⟩

theorem Progress.close {records : List Row} {batches : List FlushedBatch} {w w' : BatchedWriter}
    {m m' : Metrics} {ex ex' : Exchange} (progress : Progress ctx table mode m₀ ex₀ records batches w m ex)
    {summary : WriteSummary} (closed : BatchedWriter.close.exec w m ex = (((.ok summary, w'), m'), ex')) :
    ∃ last : Option FlushedBatch, (last = none ↔ w.buffer = []) ∧
      (∀ b ∈ last, b.envelopes = w.buffer ∧ b.Submitted ctx table) ∧
      summary = (batches ++ last.toList).foldl (fun s b => s.absorb b.report) (ctx.writer table mode).summary ∧
      m' = (batches ++ last.toList).foldl (fun m b => m.countReport b.report) m₀ ∧
      ex'.sent.toList = ex.sent.toList ++ (last.toList.map (·.requests)).flatten ∧
      (last = none → w' = w ∧ m' = m ∧ ex' = ex) := by
  obtain ⟨flushed, rfl⟩ := BatchedWriter.close_ok closed
  by_cases empty : w.buffer = []
  · rw [BatchedWriter.flush_idle progress.live empty] at flushed
    simp only [Prod.mk.injEq] at flushed
    obtain ⟨⟨⟨-, rfl⟩, rfl⟩, rfl⟩ := flushed
    refine ⟨none, iff_of_true rfl empty, fun _ member => (by cases member), ?_, ?_, by simp,
      fun _ => ⟨rfl, rfl, rfl⟩⟩
    · simpa using progress.summary
    · simpa using progress.metrics
  · obtain ⟨c, c', report, made, ran, rfl, rfl⟩ := BatchedWriter.flush_ok progress.live empty flushed
    obtain ⟨requests, grows⟩ := Coordinator.submitWithRetry_sent ran
    have submitted : FlushedBatch.Submitted ctx table ⟨w.buffer, report, requests⟩ :=
      ⟨empty, c, c', ex, ex', (progress.coordinator _).symm.trans made, ran, grows⟩
    refine ⟨some ⟨w.buffer, report, requests⟩, ⟨fun wrong => (by cases wrong), fun wrong => absurd wrong empty⟩,
      ?_, ?_, ?_, by simpa using grows, fun wrong => (by cases wrong)⟩
    · intro b member
      cases member
      exact ⟨rfl, submitted⟩
    · simp only [List.foldl_append, Option.toList_some, List.foldl_cons, List.foldl_nil]
      rw [← progress.summary]
    · simp only [List.foldl_append, Option.toList_some, List.foldl_cons, List.foldl_nil]
      rw [← progress.metrics]

end Progress

theorem div_add_carry {n B : Nat} (positive : 0 < B) :
    (n + B - 1) / B = n / B + (if n % B = 0 then 0 else 1) := by
  have whole := Nat.mod_add_div n B
  split
  · next exact =>
    refine ((Nat.div_mod_unique (c := B - 1) positive).mpr ⟨?_, by omega⟩).1
    rw [Nat.add_zero]
    omega
  · next inexact =>
    have below := Nat.mod_lt n positive
    refine ((Nat.div_mod_unique (c := n % B - 1) positive).mpr ⟨?_, by omega⟩).1
    rw [Nat.mul_add, Nat.mul_one]
    omega

theorem BatchedWriter.buffer_between_writes {ctx : ServiceContext} {table : String} {mode : WriteMode}
    {records : List Row} {m : Metrics} {ex : Exchange} {w₁ : BatchedWriter} {m₁ : Metrics} {ex₁ : Exchange}
    (wrote : (BatchedWriter.writeAll records).exec (ctx.writer table mode) m ex = (((.ok (), w₁), m₁), ex₁)) :
    ∀ k ≤ records.length, ∃ w m' ex',
      (BatchedWriter.writeAll (records.take k)).exec (ctx.writer table mode) m ex = (((.ok (), w), m'), ex') ∧
      (BatchedWriter.writeAll (records.drop k)).exec w m' ex' = (((.ok (), w₁), m₁), ex₁) ∧
      w.buffered = k % max ctx.settings.batchSize 1 ∧ w.buffered < max ctx.settings.batchSize 1 := by
  intro k within
  obtain ⟨w, m', ex', front, back⟩ := BatchedWriter.writeAll_append (records.take k) (records.drop k)
    (by rw [List.take_append_drop]; exact wrote)
  obtain ⟨more, progress⟩ := (@Progress.start ctx table mode m ex).writeAll (records.take k) front
  obtain ⟨-, buffered⟩ := progress.counts
  rw [List.nil_append, List.length_take, Nat.min_eq_left within] at buffered
  exact ⟨w, m', ex', front, back, buffered, progress.room⟩

/-- Buffered writing partitions the records into batches without loss, and the summary and
metrics count them. -/
theorem buffered_writes_partition_records (ctx : ServiceContext) (table : String) (mode : WriteMode)
    (records : List Row) (m : Metrics) (ex : Exchange) (inRange : ∀ c, m.get c < Nat.pow 2 64)
    (w₁ : BatchedWriter) (m₁ : Metrics) (ex₁ : Exchange)
    (wrote : (BatchedWriter.writeAll records).exec (ctx.writer table mode) m ex = (((.ok (), w₁), m₁), ex₁))
    (summary : WriteSummary) (w₂ : BatchedWriter) (m₂ : Metrics) (ex₂ : Exchange)
    (closed : BatchedWriter.close.exec w₁ m₁ ex₁ = (((.ok summary, w₂), m₂), ex₂)) :
    (∀ k ≤ records.length, ∃ w m' ex',
      (BatchedWriter.writeAll (records.take k)).exec (ctx.writer table mode) m ex = (((.ok (), w), m'), ex') ∧
      (BatchedWriter.writeAll (records.drop k)).exec w m' ex' = (((.ok (), w₁), m₁), ex₁) ∧
      w.buffered = k % max ctx.settings.batchSize 1 ∧ w.buffered < max ctx.settings.batchSize 1) ∧
    ∃ (batches : List FlushedBatch) (last : Option FlushedBatch),
      List.Forall₂ (fun record envelope => ∃ id, (ctx.writer table mode).codec.encode id record = .ok envelope)
        records ((batches ++ last.toList).map (·.envelopes)).flatten ∧
      batches.length = records.length / max ctx.settings.batchSize 1 ∧
      (∀ b ∈ batches, b.envelopes.length = max ctx.settings.batchSize 1) ∧
      (last = none ↔ records.length % max ctx.settings.batchSize 1 = 0) ∧
      (∀ b ∈ last, b.envelopes.length = records.length % max ctx.settings.batchSize 1) ∧
      (∀ b ∈ batches ++ last.toList, b.Submitted ctx table ∧
        ∃ k req rest, b.requests = List.replicate k ctx.client.tokens.grantRequest ++ req :: rest ∧
          req.url = ctx.client.endpoint.batchUrl ∧
          ∃ batchId, req.body = .json (BatchEnvelope.toJson ⟨batchId, b.envelopes⟩)) ∧
      ex₁.sent.toList = ex.sent.toList ++ (batches.map (·.requests)).flatten ∧
      ex₂.sent.toList = ex₁.sent.toList ++ (last.toList.map (·.requests)).flatten ∧
      (last = none → w₂ = w₁ ∧ m₂ = m₁ ∧ ex₂ = ex₁) ∧
      summary.batches = (records.length + max ctx.settings.batchSize 1 - 1) / max ctx.settings.batchSize 1 ∧
      summary.written + summary.skipped.length = records.length ∧
      summary.written = FlushedBatch.total (·.report.written) (batches ++ last.toList) ∧
      summary.skipped = ((batches ++ last.toList).map (·.report.skipped)).flatten ∧
      summary.rounds = FlushedBatch.total (·.report.rounds) (batches ++ last.toList) ∧
      m₂.recordsWritten = Metrics.wrappingAdd m.recordsWritten summary.written ∧
      m₂.recordsSkipped = Metrics.wrappingAdd m.recordsSkipped summary.skipped.length ∧
      m₂.batchesSubmitted = Metrics.wrappingAdd m.batchesSubmitted summary.batches ∧
      m₂.batchRounds = Metrics.wrappingAdd m.batchRounds summary.rounds ∧
      m₂.batchRetries =
        Metrics.wrappingAdd m.batchRetries (FlushedBatch.total (·.report.attempts - 1) (batches ++ last.toList)) ∧
      m₂.recordsRead = m.recordsRead ∧ m₂.pagesFetched = m.pagesFetched ∧ m₂.failureCount = m.failureCount := by
  have positive : 0 < max ctx.settings.batchSize 1 := ctx.writer_batchSize_pos table mode
  obtain ⟨batches, progress⟩ := (@Progress.start ctx table mode m ex).writeAll records wrote
  rw [List.nil_append, List.nil_append] at progress
  obtain ⟨count, buffered⟩ := progress.counts
  have countMax : batches.length = records.length / max ctx.settings.batchSize 1 := count
  have bufferedMax : w₁.buffer.length = records.length % max ctx.settings.batchSize 1 := buffered
  obtain ⟨last, lastNone, lastBatch, summaryEq, metricsEq, sentLast, idle⟩ := progress.close closed
  -- the last batch, if any, is the buffer left after the writes
  have allEnvelopes : ((batches ++ last.toList).map (·.envelopes)).flatten =
      (batches.map (·.envelopes)).flatten ++ w₁.buffer := by
    cases last with
    | none => simp [lastNone.mp rfl]
    | some b => simp [(lastBatch b rfl).1]
  have submitted : ∀ b ∈ batches ++ last.toList, b.Submitted ctx table := by
    intro b member
    rcases List.mem_append.mp member with written | closing
    · exact progress.submitted b written
    · exact (lastBatch b (Option.mem_toList.mp closing)).2
  obtain ⟨written, skipped, counted, rounds⟩ :=
    WriteSummary.foldl_absorb (batches ++ last.toList) (ctx.writer table mode).summary
  rw [← summaryEq] at written skipped counted rounds
  simp only [ServiceContext.writer, Nat.zero_add, List.nil_append] at written skipped counted rounds
  have lastLength : last.toList.length = if records.length % max ctx.settings.batchSize 1 = 0 then 0 else 1 := by
    cases last with
    | none =>
      rw [← bufferedMax, lastNone.mp rfl]
      rfl
    | some b =>
      have kept : w₁.buffer ≠ [] := fun empty => by cases lastNone.mpr empty
      have remainder : records.length % max ctx.settings.batchSize 1 ≠ 0 := by
        rw [← bufferedMax]
        exact fun zero => kept (List.length_eq_zero_iff.mp zero)
      simp [remainder]
  -- each batch reports each of its records once, as written or skipped
  have accounted : summary.written + summary.skipped.length = records.length := by
    rw [written, skipped, FlushedBatch.length_flatten_map, ← FlushedBatch.total_add,
      FlushedBatch.total_congr _ (fun b => b.envelopes.length) fun b member => (submitted b member).settles,
      ← FlushedBatch.length_flatten_map, allEnvelopes, ← progress.encoded.length_eq]
  refine ⟨BatchedWriter.buffer_between_writes wrote, batches, last,
    by rw [allEnvelopes]; exact progress.encoded, countMax, progress.full, ?_, ?_,
    fun b member => ⟨submitted b member, (submitted b member).first_post⟩, progress.sent, sentLast, idle, ?_,
    accounted, written, skipped, rounds, ?_⟩
  · rw [lastNone, ← List.length_eq_zero_iff, bufferedMax]
  · intro b member
    rw [(lastBatch b member).1, bufferedMax]
  · rw [counted, div_add_carry positive, List.length_append, countMax, lastLength]
  · -- the metrics count the same batches
    obtain ⟨recordsWritten, recordsSkipped, batchesSubmitted, batchRounds, batchRetries, recordsRead, pagesFetched,
      failureCount⟩ := Metrics.foldl_countReport (batches ++ last.toList) m inRange
    rw [metricsEq, written, skipped, FlushedBatch.length_flatten_map, counted, rounds]
    exact ⟨recordsWritten, recordsSkipped, batchesSubmitted, batchRounds, batchRetries, recordsRead, pagesFetched,
      failureCount⟩

theorem three_records_in_two_batches :
    let ctx : ServiceContext :=
      ⟨{ ServiceSettings.defaults with batchSize := 2 },
        ServiceClient.make (Endpoint.make "https://dev.service-now.com") ⟨"client", "secret", "user", "password"⟩
          RetryPolicy.forAuth⟩
    let records : List Row :=
      [⟨"incident", [("short_description", .string "a")]⟩, ⟨"incident", [("short_description", .string "b")]⟩,
       ⟨"incident", [("short_description", .string "c")]⟩]
    let first : String :=
      "\x7b\"serviced_requests\":[\x7b\"id\":\"00000000-0000-4000-8000-000000000001\",\"status_code\":201\x7d,\x7b\"id\":\"00000000-0000-4000-8000-000000000002\",\"status_code\":201\x7d]\x7d"
    let second : String :=
      "\x7b\"serviced_requests\":[\x7b\"id\":\"00000000-0000-4000-8000-000000000004\",\"status_code\":201\x7d]\x7d"
    let ex := Exchange.make [] [.fixed (.ok (HttpResponse.make 200 first)), .fixed (.ok (HttpResponse.make 200 second))]
    (∀ c, Metrics.zero.get c < Nat.pow 2 64) ∧
    ∃ w₁ m₁ ex₁ summary w₂ m₂ ex₂,
      (BatchedWriter.writeAll records).exec (ctx.writer "incident" .insert) Metrics.zero ex = (((.ok (), w₁), m₁), ex₁) ∧
      BatchedWriter.close.exec w₁ m₁ ex₁ = (((.ok summary, w₂), m₂), ex₂) ∧
      w₁.buffered = 1 ∧ summary.batches = 2 ∧ summary.written + summary.skipped.length = 3 := by
  intro ctx records first second ex
  have inRange : ∀ c, Metrics.zero.get c < Nat.pow 2 64 := by
    intro c
    cases c <;> decide
  have ran : ((BatchedWriter.writeAll records).exec (ctx.writer "incident" .insert) Metrics.zero ex).1.1.1.isOk = true ∧
      (BatchedWriter.close.exec ((BatchedWriter.writeAll records).exec (ctx.writer "incident" .insert) Metrics.zero ex).1.1.2
        ((BatchedWriter.writeAll records).exec (ctx.writer "incident" .insert) Metrics.zero ex).1.2
        ((BatchedWriter.writeAll records).exec (ctx.writer "incident" .insert) Metrics.zero ex).2).1.1.1.isOk = true := by
    decide +kernel
  generalize wroteEq : (BatchedWriter.writeAll records).exec (ctx.writer "incident" .insert) Metrics.zero ex = wrote at ran
  obtain ⟨⟨⟨result, w₁⟩, m₁⟩, ex₁⟩ := wrote
  generalize closedEq : BatchedWriter.close.exec w₁ m₁ ex₁ = closed at ran
  obtain ⟨⟨⟨closing, w₂⟩, m₂⟩, ex₂⟩ := closed
  obtain ⟨wroteOk, closedOk⟩ := ran
  cases result with
  | error e => cases wroteOk
  | ok u =>
    cases closing with
    | error e => cases closedOk
    | ok summary =>
      obtain ⟨prefixes, batches, last, -, -, -, -, -, -, -, -, -, counted, accounted, -⟩ :=
        buffered_writes_partition_records ctx "incident" .insert records Metrics.zero ex inRange w₁ m₁ ex₁ wroteEq
          summary w₂ m₂ ex₂ closedEq
      obtain ⟨w, m', ex', front, -, buffered, -⟩ := prefixes 3 (Nat.le_refl 3)
      -- the prefix of all three records is the whole run
      have whole : records.take 3 = records := rfl
      rw [whole, wroteEq] at front
      simp only [Prod.mk.injEq] at front
      obtain ⟨⟨⟨-, rfl⟩, -⟩, -⟩ := front
      cases u
      exact ⟨inRange, w₁, m₁, ex₁, summary, w₂, m₂, ex₂, rfl, closedEq, buffered.trans (by decide),
        counted.trans (by decide), accounted.trans (by decide)⟩

end TableSync
