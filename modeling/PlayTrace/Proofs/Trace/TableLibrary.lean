import PlayTrace.Proofs.Trace.Log

/-!
# Libraries of tables

A log is written and read with a library of tables. The columns that wait are made into a table,
which fails if a turn does not fit into its column; a writer, opened once, takes one table after the
other; and what was written is read back as one table, of which the rows of an episode can be chosen.
`TableLibrary.Laws` is what such a library promises: the table of columns has their rows, and what is
read are the rows of the tables that were written, in order.

A log that is kept with any such library is read like one that is kept as a list of rows.

## Main definitions

* `TableLibrary`, `TableLibrary.Laws` — what is used of a library, and what it promises
* `TableLibrary.Log` — a log that is kept with a library
* `TableLibrary.Shows` — it shows what a log as a list holds

## Main results

* `TableLibrary.laws_ofRows` — lists of rows keep the promises
* `TableLibrary.Laws.performAll` — any number of calls
* `TraceLog.exists_performAll_read` — what is read from a log, whenever it was flushed
-/

namespace PlayTrace

/-- What is used of a library of tables with the columns of the log. -/
structure TableLibrary where
  Table : Type
  Writer : Type
  ofColumns? : LogBuffer → Option Table
  openWriter : Writer
  write : Writer → Table → Writer
  read : Writer → Table
  rowsOf : Table → String → Table
  rows : Table → List LogRow

namespace TableLibrary

/-- What a library of tables promises. -/
structure Laws (lib : TableLibrary) : Prop where
  /-- the table of columns has the rows that the columns are those of -/
  ofColumns : ∀ rows : List LogRow, (∀ r ∈ rows, LogBuffer.fitsColumn r.turn = true) →
    ∃ t, lib.ofColumns? (.ofRows rows) = some t ∧ lib.rows t = rows
  read_openWriter : lib.rows (lib.read lib.openWriter) = []
  /-- tables are read back as they were written, in order -/
  read_write : ∀ w t,
    lib.rows (lib.read (lib.write w t)) = lib.rows (lib.read w) ++ lib.rows t
  rows_rowsOf : ∀ t id, lib.rows (lib.rowsOf t id) = (lib.rows t).filter fun r => r.episodeId = id

/-- A trace log that is kept with a library. -/
structure Log (lib : TableLibrary) where
  writer? : Option lib.Writer
  buffer : LogBuffer

variable (lib : TableLibrary)

/-- The log to which nothing was added. -/
def emptyLog : lib.Log := ⟨none, .empty⟩

/-- Writes what waits, if anything does. The writer is opened when it is first needed. -/
def flush? (l : lib.Log) : Option lib.Log :=
  if l.buffer.size = 0 then some l
  else (lib.ofColumns? l.buffer).map fun t =>
    ⟨some (lib.write (l.writer?.getD lib.openWriter) t), .empty⟩

/-- What a call makes of the log, unless it fails. -/
def perform? (l : lib.Log) : LogCall → Option lib.Log
  | .append episodeId t => some { l with buffer := l.buffer.append (t.rows episodeId) }
  | .flush => lib.flush? l

/-- The rows written, or those of one episode. -/
def readLog (l : lib.Log) (episodeId : Option String) : Option (List LogRow) :=
  l.writer?.map fun w =>
    match episodeId with
    | none => lib.rows (lib.read w)
    | some e => lib.rows (lib.rowsOf (lib.read w) e)

/-- A log that is kept with a library shows what a log as a list of rows holds. -/
structure Shows (l : lib.Log) (t : TraceLog) : Prop where
  buffer : l.buffer = t.buffer
  written : l.writer?.map (fun w => lib.rows (lib.read w)) = t.written

theorem shows_empty : lib.Shows lib.emptyLog .empty := ⟨rfl, rfl⟩

namespace Laws

variable {lib} (hlib : lib.Laws) {l : lib.Log} {t : TraceLog} {rows : List LogRow}

include hlib

/-- What is read is the same. -/
theorem readLog_eq (h : lib.Shows l t) (episodeId : Option String) :
    lib.readLog l episodeId = t.read episodeId := by
  rw [readLog, TraceLog.read, ← h.written, Option.map_map]
  cases episodeId with
  | none => rfl
  | some e =>
    refine congrArg (l.writer?.map ·) (funext fun w => ?_)
    exact hlib.rows_rowsOf _ e

/-- **A flush**, if the turns that wait fit. -/
theorem flush? (h : lib.Shows l t) (hholds : t.Holds rows)
    (hfits : ∀ r ∈ rows, LogBuffer.fitsColumn r.turn = true) :
    ∃ l', lib.flush? l = some l' ∧ lib.Shows l' t.flush := by
  rw [TableLibrary.flush?, TraceLog.flush]
  rw [h.buffer]
  split
  · exact ⟨l, rfl, h⟩
  · have hwaiting : ∀ r ∈ t.buffer.rows, LogBuffer.fitsColumn r.turn = true := fun r hr =>
      hfits r (hholds.rows_eq ▸ List.mem_append_right _ hr)
    obtain ⟨table, htable, hrows⟩ := hlib.ofColumns t.buffer.rows hwaiting
    rw [← hholds.buffer] at htable
    refine ⟨_, by rw [htable]; rfl, rfl, ?_⟩
    show some (lib.rows (lib.read (lib.write (l.writer?.getD lib.openWriter) table))) = _
    rw [hlib.read_write, hrows, ← h.written]
    cases l.writer? with
    | none =>
      rw [Option.getD_none, hlib.read_openWriter]
      rfl
    | some w => rfl

/-- **One call.** -/
theorem perform? (h : lib.Shows l t) (hholds : t.Holds rows)
    (hfits : ∀ r ∈ rows, LogBuffer.fitsColumn r.turn = true) (c : LogCall) :
    ∃ l' t', lib.perform? l c = some l' ∧ t.perform? c = some t' ∧ lib.Shows l' t' ∧
      t'.Holds (rows ++ c.rows) := by
  obtain ⟨t', ht', hholds'⟩ := hholds.perform? hfits c
  cases c with
  | append id trace =>
    cases ht'
    refine ⟨_, _, rfl, rfl, ⟨?_, h.written⟩, hholds'⟩
    rw [h.buffer]
    rfl
  | flush =>
    obtain ⟨l', hl', hshows⟩ := hlib.flush? h hholds hfits
    have hflush : t' = t.flush :=
      Option.some.inj (ht'.symm.trans (hholds.flush?_eq hfits))
    exact ⟨l', t', hl', ht', hflush ▸ hshows, hholds'⟩

/-- **Any number of calls.** -/
theorem performAll (calls : List LogCall) (h : lib.Shows l t) (hholds : t.Holds rows)
    (hfits : ∀ r ∈ rows ++ calls.flatMap LogCall.rows, LogBuffer.fitsColumn r.turn = true) :
    ∃ l' t', calls.foldlM lib.perform? l = some l' ∧
      calls.foldlM TraceLog.perform? t = some t' ∧ lib.Shows l' t' := by
  induction calls generalizing l t rows with
  | nil => exact ⟨l, t, rfl, rfl, h⟩
  | cons c calls ih =>
    obtain ⟨l₁, t₁, hl₁, ht₁, hshows, hholds₁⟩ :=
      hlib.perform? h hholds (fun r hr => hfits r (List.mem_append_left _ hr)) c
    rw [List.flatMap_cons, ← List.append_assoc] at hfits
    obtain ⟨l', t', hl', ht', hshows'⟩ := ih hshows hholds₁ hfits
    refine ⟨l', t', ?_, ?_, hshows'⟩
    · rw [List.foldlM_cons, hl₁]
      exact hl'
    · rw [List.foldlM_cons, ht₁]
      exact ht'

end Laws

/-! ### Lists of rows -/

/-- Tables as lists of rows. -/
def ofRows : TableLibrary where
  Table := List LogRow
  Writer := List LogRow
  ofColumns? b := if b.isWritable then some b.rows else none
  openWriter := []
  write w t := w ++ t
  read w := w
  rowsOf t id := t.filter fun r => r.episodeId = id
  rows t := t

/-- **Lists of rows keep the promises.** -/
theorem laws_ofRows : ofRows.Laws where
  ofColumns rows hfits := by
    refine ⟨rows, ?_, rfl⟩
    show (if (LogBuffer.ofRows rows).isWritable then some (LogBuffer.ofRows rows).rows
      else none) = _
    rw [if_pos (LogBuffer.isWritable_ofRows hfits), LogBuffer.rows_ofRows]
    rfl
  read_openWriter := rfl
  read_write _ _ := rfl
  rows_rowsOf _ _ := rfl

end TableLibrary

namespace TraceLog

/-- **What is read from a log does not depend on when it was flushed.** Calls that add traces and
flush the log, the last of which flushes it, all succeed. After each of them the columns of the
buffer are of equal length, and what was written followed by what waits are the rows added so far.
In the end all rows are read in the order in which they were added, and of one episode those that
are its own; if it was added once, the turns and texts of its trace come back.

All this is what is read as well of a log that is kept with a library of tables, whichever library
it is that keeps the promises.

The turns have to fit into the column they are written to, and one row at least has to be added,
since a log that nothing was written to cannot be read. -/
theorem exists_performAll_read (calls : List LogCall)
    (hfit : ∀ id t, .append id t ∈ calls → t.TurnsFit)
    (hsome : ∃ id t, .append id t ∈ calls ∧ (t.states ≠ [] ∨ t.actions ≠ [])) :
    (∀ n, ∃ l, ((calls ++ [LogCall.flush]).take n).foldlM TraceLog.perform? empty = some l ∧
        l.buffer.IsEven ∧
        l.written.getD [] ++ l.buffer.rows =
          ((calls ++ [LogCall.flush]).take n).flatMap LogCall.rows) ∧
      ∃ l, (calls ++ [LogCall.flush]).foldlM TraceLog.perform? empty = some l ∧
        l.read none = some (calls.flatMap LogCall.rows) ∧
        (∀ id, ∃ own, l.read (some id) = some own ∧
          own = (calls.flatMap LogCall.rows).filter (fun r => r.episodeId = id) ∧
          ∀ before t after, calls = before ++ .append id t :: after →
            (∀ u, .append id u ∉ before) → (∀ u, .append id u ∉ after) →
            LogRow.entriesOf "state" own = t.states.map (fun e => (e.1, renderState e.2)) ∧
            LogRow.entriesOf "action" own = t.actions.map fun e => (e.1, e.2.render)) ∧
        ∀ lib : TableLibrary, lib.Laws → ∃ l',
          (calls ++ [LogCall.flush]).foldlM lib.perform? lib.emptyLog = some l' ∧
          ∀ id, lib.readLog l' id = l.read id := by
  have hfits := fitsColumn_of_mem_flatMap hfit
  have hfitsFlush : ∀ r ∈ (calls ++ [LogCall.flush]).flatMap LogCall.rows,
      LogBuffer.fitsColumn r.turn = true := by
    rw [List.flatMap_append, List.flatMap_singleton, LogCall.rows, List.append_nil]
    exact hfits
  constructor
  · intro n
    have hprefix : ∀ r ∈ ((calls ++ [LogCall.flush]).take n).flatMap LogCall.rows,
        LogBuffer.fitsColumn r.turn = true := by
      intro r hr
      obtain ⟨c, hc, hr⟩ := List.mem_flatMap.1 hr
      exact hfitsFlush r (List.mem_flatMap.2 ⟨c, List.mem_of_mem_take hc, hr⟩)
    obtain ⟨l, hl, hholds⟩ := holds_empty.performAll _ hprefix
    refine ⟨l, hl, ?_, hholds.rows_eq⟩
    rw [hholds.buffer]
    exact LogBuffer.isEven_ofRows _
  · obtain ⟨l, hl, hholds⟩ := holds_empty.performAll calls hfits
    rw [List.nil_append] at hholds
    obtain ⟨id, t, hmem, hne⟩ := hsome
    have hwritten : l.flush.written = some (calls.flatMap LogCall.rows) :=
      written_eq_some hholds.flush.2 (flatMap_rows_ne_nil hmem hne)
    have hflush : (calls ++ [LogCall.flush]).foldlM TraceLog.perform? empty = some l.flush := by
      rw [List.foldlM_append, hl]
      exact congrArg (· >>= pure) (hholds.flush?_eq hfits)
    refine ⟨l.flush, hflush, ?_, fun id => ⟨_, ?_, rfl, ?_⟩, fun lib hlib => ?_⟩
    · rw [read, hwritten]
      rfl
    · rw [read, hwritten]
      rfl
    · rintro before t after rfl hbefore hafter
      rw [filter_flatMap_rows_of_once t hbefore hafter]
      exact t.entriesOf_rows id
    · obtain ⟨l', l₂, hl', hl₂, hshows⟩ := hlib.performAll _ lib.shows_empty holds_empty hfitsFlush
      obtain rfl : l₂ = l.flush := Option.some.inj (hl₂.symm.trans hflush)
      exact ⟨l', hl', hlib.readLog_eq hshows⟩

/-- Two short episodes, with flushes between and around them. -/
def twoEpisodes : List LogCall :=
  [.flush, .append "a" ⟨[(0, [])], []⟩, .flush, .flush,
    .append "b" ⟨[(4, [.plain ⟨"at", [.constant "home"]⟩])], [(4, ⟨"rest", []⟩)]⟩]

theorem exists_performAll_read_twoEpisodes :
    (∀ id t, .append id t ∈ twoEpisodes → t.TurnsFit) ∧
      ∃ l, (twoEpisodes ++ [LogCall.flush]).foldlM TraceLog.perform? empty = some l ∧
        l.read none = some [⟨"a", "state", 0, 0, "()"⟩, ⟨"b", "state", 0, 4, "((AT HOME))"⟩,
          ⟨"b", "action", 0, 4, "(REST)"⟩] ∧
        l.read (some "b") = some [⟨"b", "state", 0, 4, "((AT HOME))"⟩,
          ⟨"b", "action", 0, 4, "(REST)"⟩] := by
  have hfit : ∀ id t, .append id t ∈ twoEpisodes → t.TurnsFit := by
    intro id t hmem
    simp only [twoEpisodes, List.mem_cons, List.not_mem_nil, LogCall.append.injEq, reduceCtorEq,
      false_or, or_false] at hmem
    rcases hmem with ⟨-, rfl⟩ | ⟨-, rfl⟩
    · exact ⟨by decide, by decide⟩
    · exact ⟨by simp, by simp⟩
  have hsome : LogCall.append "a" ⟨[(0, [])], []⟩ ∈ twoEpisodes := by decide
  obtain ⟨-, l, hl, hall, hread, -⟩ :=
    exists_performAll_read twoEpisodes hfit ⟨_, _, hsome, .inl (List.cons_ne_nil _ _)⟩
  obtain ⟨own, hown, heq, -⟩ := hread "b"
  refine ⟨hfit, l, hl, hall.trans (congrArg some ?_), hown.trans (congrArg some ?_)⟩
  · decide +kernel
  · rw [heq]
    decide +kernel

end TraceLog

end PlayTrace
