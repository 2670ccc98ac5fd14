import TableSync.Engine.Context

/-!
A session runs against the scripted service with at most one current reader and one current writer.
A call that needs one when there is none, or names a split that was not planned, is refused; closing
a writer ends it either way.
-/

namespace TableSync

inductive SplitChoice where
  | planned (index : Nat)
  | given (table : Option String) (index offset limit expectedRows : Nat) (range : Option DateRange)

inductive EngineCall where
  | reader (table : String) (range : Option DateRange)
  | prepare
  | readSplit (choice : SplitChoice)
  | readAll
  | writer (table : String) (mode : WriteMode)
  | writerPrepare
  | write (record : Row)
  | writeAll (records : List Row)
  | flush
  | buffered
  | close
  | metrics

inductive EngineReply where
  | table (name : String)
  | prepared (splits : List TableSplit) (schema : Option TableSchema)
  | page (p : Page)
  | rows (rows : List Row)
  | schema (s : TableSchema)
  | bufferedAfter (n : Nat)
  | bufferedNow (n : Nat)
  | summary (s : WriteSummary)
  | metrics (m : Metrics)

structure Session where
  context : ServiceContext
  exchange : Exchange
  metrics : Metrics
  reader : Option TableReader
  writer : Option BatchedWriter

abbrev CallOutcome := Except EngineError EngineReply × List HttpRequest × Session

namespace Session

def start (context : ServiceContext) (exchange : Exchange) : Session :=
  { context, exchange, metrics := Metrics.zero, reader := none, writer := none }

def metered {α : Type} (s : Session) (x : Metered α) : α × List HttpRequest × Session :=
  let ((a, m), ex) := (x.run s.metrics).run s.exchange
  (a, ex.sent.toList.drop s.exchange.sent.size, { s with exchange := ex, metrics := m })

def onWriter (s : Session) (x : WriterRun (Except EngineError EngineReply)) (keep : Bool) :
    Option CallOutcome :=
  s.writer.map fun w =>
    let ((r, w), sent, s) := s.metered (x.run w)
    (r, sent, { s with writer := if keep then some w else none })

def writing (x : WriterRun (Except EngineError Unit)) : WriterRun (Except EngineError EngineReply) := do
  match ← x with
  | .ok () => pure (.ok (.bufferedAfter (← get).buffered))
  | .error e => pure (.error e)

/-- Carry out a call; `none` when the call is refused. -/
def step (s : Session) : EngineCall → Option CallOutcome
  | .reader table range =>
    some (.ok (.table table), [], { s with reader := some (s.context.reader table range) })
  | .prepare => s.reader.map fun r =>
    let (res, sent, s) := s.metered (liftM r.prepare)
    match res with
    | .ok r => (.ok (.prepared r.splits r.schema), sent, { s with reader := some r })
    | .error e => (.error e, sent, s)
  | .readSplit choice => s.reader.bind fun r =>
    let split := match choice with
      | .planned i => r.splits[i]?
      | .given table index offset limit expectedRows range =>
        some { table := table.getD r.table, index, offset, limit, expectedRows, range }
    split.map fun sp =>
      let (res, sent, s) := s.metered (r.readSplit sp)
      (res.map .page, sent, s)
  | .readAll => s.reader.map fun r =>
    let ((res, r), sent, s) := s.metered r.readAll
    (res.map .rows, sent, { s with reader := some r })
  | .writer table mode =>
    some (.ok (.table table), [], { s with writer := some (s.context.writer table mode) })
  | .writerPrepare => s.onWriter ((·.map .schema) <$> BatchedWriter.prepare) true
  | .write record => s.onWriter (writing (BatchedWriter.write record)) true
  | .writeAll records => s.onWriter (writing (BatchedWriter.writeAll records)) true
  | .flush => s.onWriter (writing BatchedWriter.flush) true
  | .buffered => s.onWriter (do pure (.ok (.bufferedNow (← get).buffered))) true
  | .close => s.onWriter ((·.map .summary) <$> BatchedWriter.close) false
  | .metrics => some (.ok (.metrics s.metrics), [], s)

end Session

end TableSync
