import PlayTrace.Proofs.Batch.Episodes
import PlayTrace.Proofs.Storage.Layout

/-!
# The files of a batch

A batch plays and writes by turns, and its log is flushed whenever it has grown to the threshold. As
long as no episode fails, what it does to files can be told from the episodes alone: the changes that
`Batch.changes` lists, made one after the other, the first that fails being the last. Playing all
episodes first and making these changes afterwards comes to the same, in every monad.

The log is written anew by each flush, with all rows that were ever flushed, so only the last of its
writes is left. This is how the threshold becomes invisible.

## Main definitions

* `FileChange`, `FileChange.performAll` — directories made and files written, one after the other
* `Batch.changes` — the changes that a batch makes
* `Batch.files` — the files that it leaves
* `writesTo` — what is written to a path

## Main results

* `Batch.runFlushing_eq` — a batch makes its changes and returns its episodes
* `Batch.nodup_paths` — no file of a batch is another one
* `Batch.writesTo_eq_singleton` — reports and summaries are written once
* `Batch.getLast?_writesTo_eq_some_iff` — what is written last is what the files hold
-/

namespace PlayTrace

/-! ### Changes -/

/-- A change to files and directories. -/
inductive FileChange where
  | makeDirectory (path : Path)
  | write (path : Path) (content : Content)
deriving DecidableEq

namespace FileChange

variable {m : Type → Type} [Monad m]

/-- Makes a change. -/
def perform (fs : FileSystem m) : FileChange → ExceptT Batch.Failure m Unit
  | makeDirectory path => Batch.access (fs.makeDirectory path)
  | write path content => Batch.access (fs.write path content)

/-- Makes changes one after the other, until one fails. -/
def performAll (fs : FileSystem m) (changes : List FileChange) : ExceptT Batch.Failure m Unit :=
  changes.forM (perform fs)

theorem performAll_nil (fs : FileSystem m) : performAll fs [] = pure () := rfl

theorem performAll_cons (fs : FileSystem m) (c : FileChange) (cs : List FileChange) :
    performAll fs (c :: cs) = (do perform fs c; performAll fs cs) := rfl

theorem performAll_singleton [LawfulMonad m] (fs : FileSystem m) (c : FileChange) :
    performAll fs [c] = perform fs c :=
  bind_pure_unit

theorem performAll_append [LawfulMonad m] (fs : FileSystem m) (cs cs' : List FileChange) :
    performAll fs (cs ++ cs') = (do performAll fs cs; performAll fs cs') :=
  List.forM_append

theorem performAll_makeDirectory (fs : FileSystem m) (paths : List Path) :
    performAll fs (paths.map makeDirectory) =
      paths.forM fun path => Batch.access (fs.makeDirectory path) := by
  induction paths with
  | nil => rfl
  | cons path paths ih =>
    rw [List.map_cons, performAll_cons, ih]
    rfl

/-- The content that a change writes to a path. -/
def contentTo? (path : Path) : FileChange → Option Content
  | makeDirectory _ => none
  | write p c => if p = path then some c else none

end FileChange

open FileChange

/-- What is written to a path, in order. -/
def writesTo (path : Path) (changes : List FileChange) : List Content :=
  changes.filterMap (contentTo? path)

section WritesTo

variable {path p : Path} {c : Content} {cs cs' : List FileChange}

theorem writesTo_append : writesTo path (cs ++ cs') = writesTo path cs ++ writesTo path cs' :=
  List.filterMap_append

theorem writesTo_makeDirectories (path : Path) (paths : List Path) :
    writesTo path (paths.map makeDirectory) = [] := by
  rw [writesTo, List.filterMap_map]
  exact List.filterMap_eq_nil_iff.2 fun _ _ => rfl

theorem writesTo_makeDirectory_cons : writesTo path (makeDirectory p :: cs) = writesTo path cs :=
  rfl

theorem writesTo_cons_self : writesTo path (write path c :: cs) = c :: writesTo path cs :=
  List.filterMap_cons_some (if_pos rfl)

theorem writesTo_cons_of_ne (h : p ≠ path) :
    writesTo path (write p c :: cs) = writesTo path cs :=
  List.filterMap_cons_none (if_neg h)

/-- The changes by which files are written. -/
def writesOf (files : List (Path × Content)) : List FileChange :=
  files.map fun file => write file.1 file.2

theorem writesOf_append (files files' : List (Path × Content)) :
    writesOf (files ++ files') = writesOf files ++ writesOf files' :=
  List.map_append

theorem mem_writesTo_writesOf {files : List (Path × Content)} :
    c ∈ writesTo path (writesOf files) ↔ (path, c) ∈ files := by
  induction files with
  | nil => simp [writesOf, writesTo]
  | cons file files ih =>
    obtain ⟨p, c'⟩ := file
    show c ∈ writesTo path (write p c' :: writesOf files) ↔ _
    by_cases h : p = path
    · subst h
      rw [writesTo_cons_self, List.mem_cons, List.mem_cons, ih, Prod.mk.injEq]
      simp
    · rw [writesTo_cons_of_ne h, List.mem_cons, ih, Prod.mk.injEq]
      simp [Ne.symm h]

/-- Of files with distinct paths each is written once. -/
theorem writesTo_writesOf_eq_singleton {files : List (Path × Content)}
    (hnodup : (files.map Prod.fst).Nodup) (h : (path, c) ∈ files) :
    writesTo path (writesOf files) = [c] := by
  induction files with
  | nil => cases h
  | cons file files ih =>
    obtain ⟨hnot, hnodup⟩ := List.nodup_cons.1 hnodup
    rcases List.mem_cons.1 h with rfl | h
    · show writesTo path (write path c :: writesOf files) = [c]
      have hrest : writesTo path (writesOf files) = [] :=
        List.eq_nil_iff_forall_not_mem.2 fun c' hc' =>
          hnot (List.mem_map.2 ⟨_, mem_writesTo_writesOf.1 hc', rfl⟩)
      rw [writesTo_cons_self, hrest]
    · have hne : file.1 ≠ path := by
        rintro rfl
        exact hnot (List.mem_map.2 ⟨_, h, rfl⟩)
      show writesTo path (write file.1 file.2 :: writesOf files) = [c]
      rw [writesTo_cons_of_ne hne, ih hnodup h]

end WritesTo

namespace Batch

open SeededEpisode

variable {g : Game} {D : Domain} {settings : Settings} {seed : Int} {n threshold : Nat}
  {out : Path} {es : List SeededEpisode} {l : TraceLog} {rows : List LogRow}

/-! ### The changes of a batch -/

/-- The changes by which an episode is kept. -/
def episodeChanges (settings : Settings) (out : Path) (e : SeededEpisode) : List FileChange :=
  [.makeDirectory out.traces, .write (out.report e.id) (.text e.episode.trace.report),
    .write (out.summary e.id) (.text (Json.write (e.summary settings)))]

/-- The changes by which a log is flushed. -/
def flushChanges (out : Path) (l : TraceLog) : List FileChange :=
  if l.buffer.size = 0 then [] else [.write out.traceLog (.rows (l.flush.written.getD []))]

/-- The changes by which an episode is added to the log. -/
def logChanges (threshold : Nat) (out : Path) (l : TraceLog) (e : SeededEpisode) :
    List FileChange :=
  if threshold ≤ (l.append e.id e.episode.trace).buffer.size then
    flushChanges out (l.append e.id e.episode.trace)
  else []

/-- The log after episodes were added. -/
def logAfter (threshold : Nat) : TraceLog → List SeededEpisode → TraceLog
  | l, [] => l
  | l, e :: es => logAfter threshold ((l.append e.id e.episode.trace).flushIfLarge threshold) es

/-- The changes that come with episodes, one after the other. -/
def episodesChanges (settings : Settings) (threshold : Nat) (out : Path) :
    TraceLog → List SeededEpisode → List FileChange
  | _, [] => []
  | l, e :: es =>
    episodeChanges settings out e ++ (logChanges threshold out l e ++
      episodesChanges settings threshold out
        ((l.append e.id e.episode.trace).flushIfLarge threshold) es)

/-- The changes that a batch makes: its directories, its episodes, and the rest of the log. -/
def changes (settings : Settings) (threshold : Nat) (out : Path) (es : List SeededEpisode) :
    List FileChange :=
  (directories out).map .makeDirectory ++ (episodesChanges settings threshold out .empty es ++
    flushChanges out (logAfter threshold .empty es))

/-! ### The program -/

/-- Adding episodes to a log adds their rows to what it stands for. -/
theorem holds_logAfter (threshold : Nat) (es : List SeededEpisode) (h : l.Holds rows) :
    (logAfter threshold l es).Holds (rows ++ (logCalls es).flatMap LogCall.rows) := by
  induction es generalizing l rows with
  | nil =>
    rw [logCalls, List.map_nil, List.flatMap_nil, List.append_nil]
    exact h
  | cons e es ih =>
    rw [flatMap_rows_logCalls_cons, ← List.append_assoc]
    exact ih ((h.append e.id e.episode.trace).flushIfLarge threshold)

section Program

variable {m : Type → Type} [Monad m]

theorem settle_ok {α : Type} (a : α) :
    settle (.ok a : Except Fault α) = (pure a : ExceptT Failure m α) := rfl

variable [LawfulMonad m]

theorem writeEpisode_eq (fs : FileSystem m) (out : Path) (e : SeededEpisode)
    (hlookahead : Text.isWritable settings.lookahead = true) :
    writeEpisode fs settings out e = performAll fs (episodeChanges settings out e) := by
  rw [writeEpisode, summaryText, if_pos hlookahead]
  simp only [settle_ok, pure_bind, episodeChanges, performAll_cons, performAll_nil, bind_pure_unit]
  rfl

/-- Flushing a log in which all turns fit. -/
theorem flushLog_eq (fs : FileSystem m) (out : Path) (h : l.Holds rows)
    (hfits : ∀ r ∈ rows, LogBuffer.fitsColumn r.turn = true) :
    flushLog fs out l = (do performAll fs (flushChanges out l); return l.flush) := by
  rw [flushLog, flushChanges, TraceLog.flush]
  split
  · rw [performAll_nil, pure_bind]
  · rename_i hsize
    have hflush := h.flush?_eq hfits
    rw [TraceLog.flush, if_neg hsize] at hflush
    rw [hflush, performAll_singleton]
    rfl

theorem logEpisode_eq (fs : FileSystem m) (threshold : Nat) (out : Path) (e : SeededEpisode)
    (h : l.Holds rows)
    (hfits : ∀ r ∈ rows ++ e.episode.trace.rows e.id, LogBuffer.fitsColumn r.turn = true) :
    logEpisode fs threshold out l e = (do
      performAll fs (logChanges threshold out l e)
      return (l.append e.id e.episode.trace).flushIfLarge threshold) := by
  simp only [logEpisode, logChanges, TraceLog.flushIfLarge]
  split
  · exact flushLog_eq fs out (h.append e.id e.episode.trace) hfits
  · rw [performAll_nil, pure_bind]

/-- **The episodes of a batch** are played and kept by turns, which comes to the same as to play
them and then to make all changes. -/
theorem episodes_eq (fs : FileSystem m) (threshold : Nat) (out : Path)
    (hlookahead : Text.isWritable settings.lookahead = true)
    (hplay : play g D settings .binary64 n seed = .ok es) (h : l.Holds rows)
    (hfits : ∀ r ∈ rows ++ (logCalls es).flatMap LogCall.rows,
      LogBuffer.fitsColumn r.turn = true) :
    episodes fs threshold g D settings out n seed l = (do
      performAll fs (episodesChanges settings threshold out l es)
      return (es, logAfter threshold l es)) := by
  induction n generalizing seed es l rows with
  | zero =>
    obtain rfl := Except.ok.inj hplay
    rw [episodes, episodesChanges, performAll_nil, pure_bind, logAfter]
  | succ n ih =>
    obtain ⟨e, he, hrest⟩ := bind_eq_ok.1 hplay
    obtain ⟨es, hes, hmk⟩ := bind_eq_ok.1 hrest
    obtain rfl := Except.ok.inj hmk
    rw [flatMap_rows_logCalls_cons, ← List.append_assoc] at hfits
    have hlog := logEpisode_eq fs threshold out e h fun r hr =>
      hfits r (List.mem_append_left _ hr)
    have hnext := ih hes ((h.append e.id e.episode.trace).flushIfLarge threshold) hfits
    simp only [episodes, he, settle_ok, pure_bind, writeEpisode_eq fs out e hlookahead, hlog,
      hnext, episodesChanges, logAfter, performAll_append, bind_assoc]

/-- **A batch makes its changes and returns its episodes**, provided that the look ahead can be
written, as each summary tells it, and that the turns fit into the column of the log. -/
theorem runFlushing_eq (fs : FileSystem m) (threshold : Nat) (out : Path) (hn : 1 ≤ n)
    (hlookahead : Text.isWritable settings.lookahead = true)
    (hplay : play g D settings .binary64 n seed = .ok es)
    (hfit : ∀ e ∈ es, e.episode.trace.TurnsFit) :
    runFlushing fs threshold g D settings n seed out = (do
      performAll fs (changes settings threshold out es)
      return es) := by
  have hmany : ¬ (n : Int) < 1 := by omega
  have hfits : ∀ r ∈ (logCalls es).flatMap LogCall.rows, LogBuffer.fitsColumn r.turn = true := by
    refine TraceLog.fitsColumn_of_mem_flatMap fun id t hmem => ?_
    obtain ⟨e, he, hcall⟩ := List.mem_map.1 hmem
    cases hcall
    exact hfit e he
  have hepisodes := episodes_eq fs threshold out hlookahead hplay
    TraceLog.holds_empty hfits
  have hflush := flushLog_eq fs out (holds_logAfter threshold es TraceLog.holds_empty) hfits
  simp only [runFlushing, if_neg hmany, Int.toNat_natCast, hepisodes, hflush, changes,
    performAll_append, performAll_makeDirectory, bind_assoc, pure_bind]

end Program

/-! ### The files that are left -/

/-- The files that are kept of an episode. -/
def episodeFiles (settings : Settings) (out : Path) (e : SeededEpisode) : List (Path × Content) :=
  [(out.report e.id, .text e.episode.trace.report),
    (out.summary e.id, .text (Json.write (e.summary settings)))]

/-- The files that a batch leaves: a report and a summary of each episode, and one log of all. -/
def files (settings : Settings) (out : Path) (es : List SeededEpisode) : List (Path × Content) :=
  es.flatMap (episodeFiles settings out) ++
    [(out.traceLog, .rows ((logCalls es).flatMap LogCall.rows))]

theorem mem_episodePaths {path : Path} {e : SeededEpisode}
    (h : path ∈ [out.report e.id, out.summary e.id]) :
    path = out.report e.id ∨ path = out.summary e.id := by
  simpa using h

theorem disjoint_episodePaths {e e' : SeededEpisode} (hne : e.id ≠ e'.id) :
    List.Disjoint [out.report e.id, out.summary e.id] [out.report e'.id, out.summary e'.id] := by
  intro path h h'
  have hid := e.stroke_not_mem_id
  have hid' := e'.stroke_not_mem_id
  rcases mem_episodePaths h with rfl | rfl
  · rcases mem_episodePaths h' with heq | heq
    · exact hne ((Path.report_inj hid hid').1 heq)
    · exact Path.report_ne_summary hid hid' heq
  · rcases mem_episodePaths h' with heq | heq
    · exact Path.report_ne_summary hid' hid heq.symm
    · exact hne ((Path.summary_inj hid hid').1 heq)

/-- No report and no summary is the log. -/
theorem ne_traceLog_of_mem {file : Path × Content}
    (h : file ∈ es.flatMap (episodeFiles settings out)) : file.1 ≠ out.traceLog := by
  obtain ⟨e, -, h⟩ := List.mem_flatMap.1 h
  have hpath : file.1 ∈ [out.report e.id, out.summary e.id] := List.mem_map_of_mem h
  rcases mem_episodePaths hpath with heq | heq
  · rw [heq]
    exact Path.report_ne_traceLog e.stroke_not_mem_id
  · rw [heq]
    exact Path.summary_ne_traceLog e.stroke_not_mem_id

/-- **No file of a batch is another one**, if the names of the episodes are distinct. -/
theorem nodup_paths (settings : Settings) (out : Path) (hids : (es.map SeededEpisode.id).Nodup) :
    ((files settings out es).map Prod.fst).Nodup := by
  have hpaths : (es.flatMap (episodeFiles settings out)).map Prod.fst =
      es.flatMap fun e => [out.report e.id, out.summary e.id] := by
    rw [List.map_flatMap]
    rfl
  rw [files, List.map_append, List.nodup_append]
  refine ⟨?_, List.nodup_singleton _, ?_⟩
  · rw [hpaths]
    refine List.nodup_flatMap.2 ⟨?_, (List.pairwise_map.1 hids).imp disjoint_episodePaths⟩
    intro e _
    have hne : out.report e.id ≠ out.summary e.id :=
      Path.report_ne_summary e.stroke_not_mem_id e.stroke_not_mem_id
    simp [hne]
  · intro path hpath path' hlog
    obtain ⟨file, hfile, rfl⟩ := List.mem_map.1 hpath
    obtain rfl : path' = out.traceLog := List.mem_singleton.1 hlog
    exact ne_traceLog_of_mem hfile

/-! ### What is written -/

/-- What is written to a path that is not that of the log. -/
theorem writesTo_changes_of_ne {path : Path} (h : out.traceLog ≠ path) :
    writesTo path (changes settings threshold out es) =
      writesTo path (writesOf (es.flatMap (episodeFiles settings out))) := by
  have hflush (l : TraceLog) : writesTo path (flushChanges out l) = [] := by
    rw [flushChanges]
    split
    · rfl
    · rw [writesTo_cons_of_ne h]
      rfl
  have hlog (l : TraceLog) (e : SeededEpisode) :
      writesTo path (logChanges threshold out l e) = [] := by
    rw [logChanges]
    split
    · exact hflush _
    · rfl
  have hepisodes (l : TraceLog) : writesTo path (episodesChanges settings threshold out l es) =
      writesTo path (writesOf (es.flatMap (episodeFiles settings out))) := by
    induction es generalizing l with
    | nil => rfl
    | cons e es ih =>
      rw [episodesChanges, writesTo_append, writesTo_append, hlog, List.nil_append, ih,
        List.flatMap_cons, writesOf_append, writesTo_append]
      rfl
  rw [changes, writesTo_append, writesTo_append, writesTo_makeDirectories, hepisodes, hflush,
    List.nil_append, List.append_nil]

/-- **Reports and summaries are written once**, if the names of the episodes are distinct. -/
theorem writesTo_eq_singleton (threshold : Nat) (hids : (es.map SeededEpisode.id).Nodup)
    {file : Path × Content} (h : file ∈ es.flatMap (episodeFiles settings out)) :
    writesTo file.1 (changes settings threshold out es) = [file.2] := by
  have hnodup := nodup_paths settings out hids
  rw [files, List.map_append] at hnodup
  rw [writesTo_changes_of_ne (ne_traceLog_of_mem h).symm]
  exact writesTo_writesOf_eq_singleton (List.nodup_append.1 hnodup).1 h

/-- A flush leaves in the log what was ever flushed. -/
theorem getLast?_writesTo_flushChanges {cs : List FileChange}
    (h : (writesTo out.traceLog cs).getLast? = l.written.map .rows) :
    (writesTo out.traceLog (cs ++ flushChanges out l)).getLast? = l.flush.written.map .rows := by
  rw [flushChanges, TraceLog.flush]
  split
  · rw [List.append_nil]
    exact h
  · rw [writesTo_append, writesTo_cons_self]
    exact List.getLast?_concat

theorem getLast?_writesTo_episodesChanges {cs : List FileChange}
    (h : (writesTo out.traceLog cs).getLast? = l.written.map .rows) :
    (writesTo out.traceLog (cs ++ episodesChanges settings threshold out l es)).getLast? =
      (logAfter threshold l es).written.map .rows := by
  induction es generalizing cs l with
  | nil =>
    rw [episodesChanges, List.append_nil]
    exact h
  | cons e es ih =>
    have hepisode : writesTo out.traceLog (cs ++ episodeChanges settings out e) =
        writesTo out.traceLog cs := by
      rw [writesTo_append, episodeChanges, writesTo_makeDirectory_cons,
        writesTo_cons_of_ne (Path.report_ne_traceLog e.stroke_not_mem_id),
        writesTo_cons_of_ne (Path.summary_ne_traceLog e.stroke_not_mem_id)]
      exact List.append_nil _
    rw [episodesChanges, ← List.append_assoc, ← List.append_assoc]
    refine ih ?_
    rw [logChanges, TraceLog.flushIfLarge]
    split
    · exact getLast?_writesTo_flushChanges (by rw [hepisode]; exact h)
    · rw [List.append_nil, hepisode]
      exact h

/-- **What is left in the log** are the rows of all episodes, whatever the threshold. -/
theorem getLast?_writesTo_traceLog (settings : Settings) (threshold : Nat) (out : Path)
    (hne : (logCalls es).flatMap LogCall.rows ≠ []) :
    (writesTo out.traceLog (changes settings threshold out es)).getLast? =
      some (.rows ((logCalls es).flatMap LogCall.rows)) := by
  have hholds := holds_logAfter threshold es TraceLog.holds_empty
  rw [List.nil_append] at hholds
  have hwritten := TraceLog.written_eq_some hholds.flush.2 hne
  have hdirectories : (writesTo out.traceLog ((directories out).map makeDirectory)).getLast? =
      TraceLog.empty.written.map .rows := by
    rw [writesTo_makeDirectories]
    rfl
  rw [changes, ← List.append_assoc]
  rw [getLast?_writesTo_flushChanges (getLast?_writesTo_episodesChanges hdirectories), hwritten]
  rfl

/-- **What is written last is what the files hold.** -/
theorem getLast?_writesTo_eq_some_iff (settings : Settings) (threshold : Nat) (out path : Path)
    (hids : (es.map SeededEpisode.id).Nodup) (hne : (logCalls es).flatMap LogCall.rows ≠ [])
    (c : Content) :
    (writesTo path (changes settings threshold out es)).getLast? = some c ↔
      (path, c) ∈ files settings out es := by
  rw [files, List.mem_append, List.mem_singleton, Prod.mk.injEq]
  by_cases hpath : path = out.traceLog
  · subst hpath
    rw [getLast?_writesTo_traceLog settings threshold out hne, Option.some.injEq]
    constructor
    · rintro rfl
      exact .inr ⟨rfl, rfl⟩
    · rintro (h | ⟨-, rfl⟩)
      · exact absurd rfl (ne_traceLog_of_mem h)
      · rfl
  · constructor
    · intro h
      rw [writesTo_changes_of_ne (Ne.symm hpath)] at h
      exact .inl (mem_writesTo_writesOf.1 (List.mem_of_getLast? h))
    · rintro (h | ⟨heq, -⟩)
      · rw [writesTo_eq_singleton threshold hids h]
        rfl
      · exact absurd heq hpath

end Batch

end PlayTrace
