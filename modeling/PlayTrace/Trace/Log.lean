import PlayTrace.Trace.Basic

/-!
# The trace log

The traces of many episodes in one table. Rows are collected in column buffers, one list for each
column, and written out when the buffers are flushed. The log is opened by the first flush that
has anything to write. A flush fails if a turn does not fit into its column, and then nothing is
written.
-/

namespace PlayTrace

/-- A row of the trace log: one state or action of an episode. -/
structure LogRow where
  episodeId : String
  kind : String
  index : Nat
  turn : Int
  atom : String
deriving DecidableEq

/-- The names of the columns of the trace log, in order. -/
def logColumnNames : List String := ["episode_id", "kind", "index", "turn", "atom"]

/-- The kind of a row that holds a state. -/
def stateKind : String := "state"

/-- The kind of a row that holds an action. -/
def actionKind : String := "action"

namespace Trace

/-- The rows of one kind, with indices from `i` on. -/
def rowsOfKind (episodeId kind : String) : Nat → List (Int × String) → List LogRow
  | _, [] => []
  | i, (turn, atom) :: es => ⟨episodeId, kind, i, turn, atom⟩ :: rowsOfKind episodeId kind (i + 1) es

/-- The rows of a trace: its states, then its actions. -/
def rows (t : Trace) (episodeId : String) : List LogRow :=
  rowsOfKind episodeId stateKind 0 (t.states.map fun e => (e.1, renderState e.2)) ++
    rowsOfKind episodeId actionKind 0 (t.actions.map fun e => (e.1, e.2.render))

end Trace

/-- Rows that wait to be written, column by column. -/
structure LogBuffer where
  episodeIds : List String
  kinds : List String
  indices : List Nat
  turns : List Int
  atoms : List String
deriving DecidableEq

namespace LogBuffer

/-- The buffer without rows. -/
def empty : LogBuffer := ⟨[], [], [], [], []⟩

/-- Adds rows at the end of every column. -/
def append (b : LogBuffer) (rows : List LogRow) : LogBuffer where
  episodeIds := b.episodeIds ++ rows.map LogRow.episodeId
  kinds := b.kinds ++ rows.map LogRow.kind
  indices := b.indices ++ rows.map LogRow.index
  turns := b.turns ++ rows.map LogRow.turn
  atoms := b.atoms ++ rows.map LogRow.atom

/-- The number of rows in the buffer. -/
def size (b : LogBuffer) : Nat := b.episodeIds.length

/-- Whether an integer can be written in 64 bits, one of them for the sign. -/
def fitsColumn (n : Int) : Bool := -0x8000000000000000 ≤ n && n < 0x8000000000000000

/-- Whether all turns in the buffer fit into the column of a written log. -/
def isWritable (b : LogBuffer) : Bool := b.turns.all fitsColumn

/-- The rows of columns of equal length. -/
def rowsOfColumns : List String → List String → List Nat → List Int → List String → List LogRow
  | e :: es, k :: ks, i :: is, t :: ts, a :: as => ⟨e, k, i, t, a⟩ :: rowsOfColumns es ks is ts as
  | _, _, _, _, _ => []

/-- The rows that wait in the buffer. -/
def rows (b : LogBuffer) : List LogRow :=
  rowsOfColumns b.episodeIds b.kinds b.indices b.turns b.atoms

end LogBuffer

/-- A trace log in the making: what was written, and what waits to be. -/
structure TraceLog where
  /-- the rows written, or nothing before the log was opened -/
  written : Option (List LogRow)
  buffer : LogBuffer
deriving DecidableEq

/-- A call on a trace log. -/
inductive LogCall where
  | append (episodeId : String) (t : Trace)
  | flush
deriving DecidableEq

namespace TraceLog

/-- The log to which nothing was added. -/
def empty : TraceLog := ⟨none, .empty⟩

/-- Adds the trace of an episode. -/
def append (l : TraceLog) (episodeId : String) (t : Trace) : TraceLog :=
  { l with buffer := l.buffer.append (t.rows episodeId) }

/-- Writes what waits to be written. -/
def flush (l : TraceLog) : TraceLog :=
  if l.buffer.size = 0 then l
  else ⟨some (l.written.getD [] ++ l.buffer.rows), .empty⟩

/-- Writes what waits to be written, if every turn that waits can be. -/
def flush? (l : TraceLog) : Option TraceLog := if l.buffer.isWritable then some l.flush else none

/-- Whether anything was written yet. -/
def isOpen (l : TraceLog) : Bool := l.written.isSome

/-- The rows written, or those of one episode. -/
def read (l : TraceLog) (episodeId : Option String) : Option (List LogRow) :=
  l.written.map fun rows =>
    match episodeId with
    | none => rows
    | some e => rows.filter fun r => r.episodeId = e

/-- What a call makes of the log, unless it fails. -/
def perform? (l : TraceLog) : LogCall → Option TraceLog
  | .append episodeId t => some (l.append episodeId t)
  | .flush => l.flush?

/-- The number of waiting rows at which the log is flushed during a batch. -/
def flushThreshold : Nat := 8192

/-- Flushes the log if it has grown to the threshold. -/
def flushIfLarge (l : TraceLog) (threshold : Nat) : TraceLog :=
  if threshold ≤ l.buffer.size then l.flush else l

end TraceLog

end PlayTrace
