import Mathlib.Data.List.Basic
import PlayTrace.Trace.Log

/-!
# What a trace log keeps

A log is written in pieces, and where one piece ends and the next begins depends on when it is
flushed. Nothing of that is seen in the end. `TraceLog.Holds` says what a log stands for at any
moment: the rows that were written followed by those that wait are the rows that were added. Adding a
trace lengthens the second part, flushing moves it behind the first, and so a log that was flushed
last holds its rows in the first part alone, which is what is read.

The rows that wait are kept column by column. That the columns always are those of some rows, and so
of equal length, is part of what a log stands for: a row is never torn apart.

A log is flushed only if the turns that wait fit into 64 bits. A turn that does not fit stays in the
way of all that come later, so nothing is said about logs with such turns.

## Main definitions

* `LogBuffer.ofRows`, `LogBuffer.IsEven` — the columns of rows, and columns of equal length
* `TraceLog.Holds` — the rows that a log stands for
* `LogCall.rows` — the rows that a call adds

## Main results

* `TraceLog.Holds.perform?`, `TraceLog.Holds.performAll` — one call and any number of calls
* `TraceLog.filter_flatMap_rows_of_once` — the rows of an episode that was added once
-/

namespace PlayTrace

/-! ### Columns -/

namespace LogBuffer

/-- All columns are as long as the first one. -/
structure IsEven (b : LogBuffer) : Prop where
  kinds : b.kinds.length = b.episodeIds.length
  indices : b.indices.length = b.episodeIds.length
  turns : b.turns.length = b.episodeIds.length
  atoms : b.atoms.length = b.episodeIds.length

/-- The columns of rows. -/
def ofRows (rows : List LogRow) : LogBuffer := empty.append rows

theorem append_ofRows (rows rows' : List LogRow) :
    (ofRows rows).append rows' = ofRows (rows ++ rows') := by
  simp [ofRows, append, empty]

theorem isEven_ofRows (rows : List LogRow) : (ofRows rows).IsEven := by
  constructor <;> simp [ofRows, append, empty]

/-- The rows can be read off their columns. -/
@[simp] theorem rows_ofRows (rows : List LogRow) : (ofRows rows).rows = rows := by
  simp only [LogBuffer.rows, ofRows, append, empty, List.nil_append]
  induction rows with
  | nil => rfl
  | cons r rows ih => rw [List.map_cons, List.map_cons, List.map_cons, List.map_cons, List.map_cons,
      rowsOfColumns, ih]

theorem size_ofRows_eq_zero_iff (rows : List LogRow) : (ofRows rows).size = 0 ↔ rows = [] := by
  simp [size, ofRows, append, empty]

theorem fitsColumn_iff {n : Int} :
    fitsColumn n = true ↔ -0x8000000000000000 ≤ n ∧ n < 0x8000000000000000 := by
  simp [fitsColumn]

theorem isWritable_ofRows {rows : List LogRow} (h : ∀ r ∈ rows, fitsColumn r.turn = true) :
    (ofRows rows).isWritable = true := by
  simp only [isWritable, ofRows, append, empty, List.nil_append, List.all_map, List.all_eq_true]
  exact h

end LogBuffer

/-! ### The rows of a trace -/

/-- The turns and the texts of the rows of one kind. -/
def LogRow.entriesOf (kind : String) (rows : List LogRow) : List (Int × String) :=
  (rows.filter fun r => r.kind = kind).map fun r => (r.turn, r.atom)

namespace Trace

theorem mem_rowsOfKind {id kind : String} {i : Nat} {es : List (Int × String)} {r : LogRow}
    (h : r ∈ rowsOfKind id kind i es) :
    r.episodeId = id ∧ r.kind = kind ∧ ∃ e ∈ es, r.turn = e.1 := by
  induction es generalizing i with
  | nil => cases h
  | cons e es ih =>
    rcases List.mem_cons.1 h with rfl | h
    · exact ⟨rfl, rfl, e, List.mem_cons_self, rfl⟩
    · obtain ⟨hid, hkind, e', he', hturn⟩ := ih h
      exact ⟨hid, hkind, e', List.mem_cons_of_mem e he', hturn⟩

/-- The turns and the texts come back from the rows. -/
theorem map_rowsOfKind (id kind : String) (i : Nat) (es : List (Int × String)) :
    (rowsOfKind id kind i es).map (fun r => (r.turn, r.atom)) = es := by
  induction es generalizing i with
  | nil => rfl
  | cons e es ih => rw [rowsOfKind, List.map_cons, ih]

theorem rowsOfKind_eq_mapIdx {α : Type} (id kind : String) (f : α → String) (i : Nat)
    (es : List (Int × α)) : rowsOfKind id kind i (es.map fun e => (e.1, f e.2)) =
      es.mapIdx fun j e => ⟨id, kind, i + j, e.1, f e.2⟩ := by
  induction es generalizing i with
  | nil => rfl
  | cons e es ih =>
    rw [List.map_cons, rowsOfKind, ih, List.mapIdx_cons]
    simp only [Nat.add_zero, Nat.add_right_comm i 1, Nat.add_assoc]

/-- Every turn of the trace fits into 64 bits, one of them for the sign. -/
structure TurnsFit (t : Trace) : Prop where
  states : ∀ e ∈ t.states, -0x8000000000000000 ≤ e.1 ∧ e.1 < 0x8000000000000000
  actions : ∀ e ∈ t.actions, -0x8000000000000000 ≤ e.1 ∧ e.1 < 0x8000000000000000

theorem mem_rows {t : Trace} {id : String} {r : LogRow} (h : r ∈ t.rows id) :
    r.episodeId = id ∧ (t.TurnsFit → LogBuffer.fitsColumn r.turn = true) := by
  rcases List.mem_append.1 h with h | h
  · obtain ⟨hid, -, e, he, hturn⟩ := mem_rowsOfKind h
    obtain ⟨e, hmem, rfl⟩ := List.mem_map.1 he
    exact ⟨hid, fun hfit => hturn ▸ LogBuffer.fitsColumn_iff.2 (hfit.states e hmem)⟩
  · obtain ⟨hid, -, e, he, hturn⟩ := mem_rowsOfKind h
    obtain ⟨e, hmem, rfl⟩ := List.mem_map.1 he
    exact ⟨hid, fun hfit => hturn ▸ LogBuffer.fitsColumn_iff.2 (hfit.actions e hmem)⟩

theorem filter_rowsOfKind (id kind kind' : String) (i : Nat) (es : List (Int × String)) :
    ((rowsOfKind id kind i es).filter fun r => r.kind = kind') =
      if kind = kind' then rowsOfKind id kind i es else [] := by
  split
  · rename_i heq
    exact List.filter_eq_self.2 fun r hr => decide_eq_true ((mem_rowsOfKind hr).2.1.trans heq)
  · rename_i hne
    refine List.filter_eq_nil_iff.2 fun r hr hkind => hne ?_
    rw [← (mem_rowsOfKind hr).2.1]
    exact of_decide_eq_true hkind

/-- The rows of both kinds can be told apart, so the entries of the trace come back from them. -/
theorem entriesOf_rows (t : Trace) (id : String) :
    LogRow.entriesOf "state" (t.rows id) = t.states.map (fun e => (e.1, renderState e.2)) ∧
      LogRow.entriesOf "action" (t.rows id) = t.actions.map (fun e => (e.1, e.2.render)) := by
  simp [LogRow.entriesOf, rows, filter_rowsOfKind, map_rowsOfKind, stateKind, actionKind]

end Trace

namespace LogCall

/-- The rows that a call adds to a log: one for each state, numbered from zero, and then one for each
action, numbered from zero again. -/
def rows : LogCall → List LogRow
  | append episodeId t =>
    (t.states.mapIdx fun i e => ⟨episodeId, "state", i, e.1, renderState e.2⟩) ++
      t.actions.mapIdx fun i e => ⟨episodeId, "action", i, e.1, e.2.render⟩
  | flush => []

theorem rows_append (id : String) (t : Trace) : (append id t).rows = t.rows id := by
  rw [rows, Trace.rows, Trace.rowsOfKind_eq_mapIdx, Trace.rowsOfKind_eq_mapIdx]
  simp only [Nat.zero_add]
  rfl

end LogCall

/-! ### One call -/

namespace TraceLog

variable {l : TraceLog} {rows : List LogRow}

/-- The rows that a log stands for: those that were written, and those that wait. -/
structure Holds (l : TraceLog) (rows : List LogRow) : Prop where
  buffer : l.buffer = .ofRows l.buffer.rows
  rows_eq : l.written.getD [] ++ l.buffer.rows = rows

theorem holds_empty : empty.Holds [] := ⟨rfl, rfl⟩

theorem Holds.append (h : l.Holds rows) (id : String) (t : Trace) :
    (l.append id t).Holds (rows ++ t.rows id) := by
  have hbuffer : (l.append id t).buffer = .ofRows (l.buffer.rows ++ t.rows id) := by
    rw [TraceLog.append, h.buffer, LogBuffer.append_ofRows, LogBuffer.rows_ofRows]
  refine ⟨?_, ?_⟩
  · rw [hbuffer, LogBuffer.rows_ofRows]
  · rw [hbuffer, LogBuffer.rows_ofRows, ← h.rows_eq, List.append_assoc]
    rfl

/-- **Flushing changes nothing in what a log stands for**, and leaves nothing waiting. -/
theorem Holds.flush (h : l.Holds rows) :
    l.flush.Holds rows ∧ l.flush.written.getD [] = rows := by
  unfold TraceLog.flush
  split
  · rename_i hsize
    rw [h.buffer, LogBuffer.size_ofRows_eq_zero_iff] at hsize
    refine ⟨h, ?_⟩
    rw [← h.rows_eq, hsize, List.append_nil]
  · refine ⟨⟨rfl, ?_⟩, h.rows_eq⟩
    rw [← h.rows_eq]
    exact List.append_nil _

theorem Holds.flushIfLarge (h : l.Holds rows) (threshold : Nat) :
    (l.flushIfLarge threshold).Holds rows := by
  unfold TraceLog.flushIfLarge
  split
  · exact h.flush.1
  · exact h

theorem Holds.flush?_eq (h : l.Holds rows)
    (hfits : ∀ r ∈ rows, LogBuffer.fitsColumn r.turn = true) : l.flush? = some l.flush := by
  have hwaiting : ∀ r ∈ l.buffer.rows, LogBuffer.fitsColumn r.turn = true := fun r hr =>
    hfits r (h.rows_eq ▸ List.mem_append_right _ hr)
  rw [TraceLog.flush?, h.buffer]
  exact if_pos (LogBuffer.isWritable_ofRows hwaiting)

/-- **One call** succeeds if the turns that wait fit, and adds its rows to what the log stands for. -/
theorem Holds.perform? (h : l.Holds rows) (hfits : ∀ r ∈ rows, LogBuffer.fitsColumn r.turn = true)
    (c : LogCall) : ∃ l', l.perform? c = some l' ∧ l'.Holds (rows ++ c.rows) := by
  cases c with
  | append id t =>
    rw [LogCall.rows_append]
    exact ⟨_, rfl, h.append id t⟩
  | flush =>
    rw [LogCall.rows, List.append_nil]
    exact ⟨l.flush, h.flush?_eq hfits, h.flush.1⟩

/-! ### Any number of calls -/

/-- **Any number of calls** add their rows in the order of the calls. -/
theorem Holds.performAll (calls : List LogCall) (h : l.Holds rows)
    (hfits : ∀ r ∈ rows ++ calls.flatMap LogCall.rows, LogBuffer.fitsColumn r.turn = true) :
    ∃ l', calls.foldlM TraceLog.perform? l = some l' ∧
      l'.Holds (rows ++ calls.flatMap LogCall.rows) := by
  induction calls generalizing l rows with
  | nil =>
    rw [List.flatMap_nil, List.append_nil]
    exact ⟨l, rfl, h⟩
  | cons c calls ih =>
    obtain ⟨m, hm, hholds⟩ := h.perform? (fun r hr => hfits r (List.mem_append_left _ hr)) c
    rw [List.flatMap_cons, ← List.append_assoc] at hfits ⊢
    obtain ⟨l', hl', hholds'⟩ := ih hholds hfits
    refine ⟨l', ?_, hholds'⟩
    rw [List.foldlM_cons, hm]
    exact hl'

theorem fitsColumn_of_mem_flatMap {calls : List LogCall}
    (hfit : ∀ id t, .append id t ∈ calls → t.TurnsFit) :
    ∀ r ∈ calls.flatMap LogCall.rows, LogBuffer.fitsColumn r.turn = true := by
  intro r hr
  obtain ⟨c, hc, hr⟩ := List.mem_flatMap.1 hr
  cases c with
  | append id t =>
    rw [LogCall.rows_append] at hr
    exact (Trace.mem_rows hr).2 (hfit id t hc)
  | flush => cases hr

/-- Calls that do not name an episode add no rows of it. -/
theorem filter_flatMap_rows_eq_nil {calls : List LogCall} {id : String}
    (h : ∀ u, .append id u ∉ calls) :
    (calls.flatMap LogCall.rows).filter (fun r => r.episodeId = id) = [] := by
  refine List.filter_eq_nil_iff.2 fun r hr hid => ?_
  obtain ⟨c, hc, hr⟩ := List.mem_flatMap.1 hr
  cases c with
  | append id' t =>
    rw [LogCall.rows_append] at hr
    obtain rfl : id' = id := (Trace.mem_rows hr).1.symm.trans (of_decide_eq_true hid)
    exact h t hc
  | flush => cases hr

/-- Of calls that name an episode once, the rows of the episode are those of its trace. -/
theorem filter_flatMap_rows_of_once {before after : List LogCall} {id : String} (t : Trace)
    (hbefore : ∀ u, .append id u ∉ before) (hafter : ∀ u, .append id u ∉ after) :
    ((before ++ .append id t :: after).flatMap LogCall.rows).filter (fun r => r.episodeId = id) =
      t.rows id := by
  have hself : (t.rows id).filter (fun r => r.episodeId = id) = t.rows id :=
    List.filter_eq_self.2 fun r hr => decide_eq_true (Trace.mem_rows hr).1
  rw [List.flatMap_append, List.flatMap_cons, List.filter_append, List.filter_append,
    filter_flatMap_rows_eq_nil hbefore, filter_flatMap_rows_eq_nil hafter, LogCall.rows_append,
    hself, List.nil_append, List.append_nil]

theorem flatMap_rows_ne_nil {calls : List LogCall} {id : String} {t : Trace}
    (hmem : .append id t ∈ calls) (hsome : t.states ≠ [] ∨ t.actions ≠ []) :
    calls.flatMap LogCall.rows ≠ [] := by
  intro hnil
  have hrows := List.flatMap_eq_nil_iff.1 hnil _ hmem
  rw [LogCall.rows, List.append_eq_nil_iff, List.mapIdx_eq_nil_iff, List.mapIdx_eq_nil_iff] at hrows
  exact hsome.elim (fun h => h hrows.1) fun h => h hrows.2

theorem written_eq_some (h : l.written.getD [] = rows) (hne : rows ≠ []) :
    l.written = some rows := by
  cases hwritten : l.written with
  | none =>
    rw [hwritten] at h
    exact absurd h.symm hne
  | some written =>
    rw [hwritten] at h
    exact congrArg some h

end TraceLog

end PlayTrace
