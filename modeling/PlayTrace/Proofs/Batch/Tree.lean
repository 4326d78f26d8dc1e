import PlayTrace.Proofs.Batch.Files
import PlayTrace.Proofs.Storage.FileTree

/-!
# Batches in a file tree

In a tree in which there is nothing yet, a batch can make all its changes, as long as the names of
its files are not too long. In the end the tree holds the files of the batch and no others: what is
written to a path last is what the file there holds.

## Main definitions

* `FileChange.Fits` — a change to the directories and files of results
* `Batch.NamesFit` — the names of the files of a batch are not too long

## Main results

* `FileChange.exists_run_performAll` — changes that fit can be made
* `Batch.exists_run_performAll_changes` — the changes of a batch in an empty tree
-/

namespace PlayTrace

/-! ### Changes to a tree -/

namespace FileChange

open FileTree

variable {t t' : FileTree} {top : String} {subs : List String} {cs : List FileChange}

theorem run_change {f : FileTree → Except FileFault FileTree} (h : f t = .ok t') :
    (Batch.access (change f)).run.run t = (.ok (), t') := by
  have hchange : (change f).run t = (.ok (), t') := by
    simp only [change, StateT.run, h]
  show ((do return (← change f).mapError Batch.Failure.file) : StateM FileTree _).run t = _
  rw [StateT.run_bind, hchange]
  rfl

theorem run_perform_makeDirectory {p : Path} (h : t.makeDirectory p = .ok t') :
    (perform system (makeDirectory p)).run.run t = (.ok (), t') :=
  run_change (f := fun t => t.makeDirectory p) h

theorem run_perform_write {p : Path} {c : Content} (h : t.write p c = .ok t') :
    (perform system (write p c)).run.run t = (.ok (), t') :=
  run_change (f := fun t => t.write p c) h

theorem run_performAll_cons {c : FileChange} (h : (perform system c).run.run t = (.ok (), t')) :
    (performAll system (c :: cs)).run.run t = (performAll system cs).run.run t' := by
  rw [performAll_cons, ExceptT.run_bind, StateT.run_bind, h]
  rfl

theorem run_performAll_append (h : (performAll system cs).run.run t = (.ok (), t'))
    (cs' : List FileChange) :
    (performAll system (cs ++ cs')).run.run t = (performAll system cs').run.run t' := by
  rw [performAll_append, ExceptT.run_bind, StateT.run_bind, h]
  rfl

/-- A change to the directories for results below a directory, or to a file in one of them. -/
inductive Fits (top : String) (subs : List String) : FileChange → Prop
  | makeDirectory {sub : String} (hsub : sub ∈ subs)
      (hpath : pathFault? ⟨.here, [top, sub]⟩ = none) :
      Fits top subs (.makeDirectory ⟨.here, [top, sub]⟩)
  | write {sub name : String} (hsub : sub ∈ subs) (hname : IsPlain name)
      (hpath : pathFault? ⟨.here, [top, sub, name]⟩ = none) (c : Content) :
      Fits top subs (.write ⟨.here, [top, sub, name]⟩ c)

/-- **One change.** -/
theorem Fits.exists_run_perform {c : FileChange} (hc : c.Fits top subs) (h : t.Keeps top subs) :
    ∃ t', (perform system c).run.run t = (.ok (), t') ∧ t'.Keeps top subs ∧
      ∀ place, t'.content? place =
        (writesTo ⟨.here, place⟩ [c]).getLast?.or (t.content? place) := by
  cases hc with
  | makeDirectory hsub hpath =>
    obtain ⟨t', hmake, hkeeps, hfiles⟩ := h.makeDirectory (h.made _ hsub).1 hpath
    refine ⟨t', run_perform_makeDirectory hmake, hkeeps.mono fun _ => List.mem_cons_of_mem _,
      fun place => ?_⟩
    rw [content?, hfiles]
    rfl
  | write hsub hname hpath c =>
    obtain ⟨hwrite, hkeeps⟩ := h.write hsub hname hpath c
    refine ⟨_, run_perform_write hwrite, hkeeps, fun place => ?_⟩
    rw [content?_put]
    split
    · rename_i heq
      rw [heq, writesTo_cons_self]
      rfl
    · rename_i hne
      rw [writesTo_cons_of_ne fun heq => hne (congrArg Path.steps heq).symm]
      rfl

/-- **Any number of changes.** A file holds what was written to it last. -/
theorem exists_run_performAll (h : t.Keeps top subs) (hcs : ∀ c ∈ cs, c.Fits top subs) :
    ∃ t', (performAll system cs).run.run t = (.ok (), t') ∧ t'.Keeps top subs ∧
      ∀ place, t'.content? place =
        (writesTo ⟨.here, place⟩ cs).getLast?.or (t.content? place) := by
  induction cs generalizing t with
  | nil => exact ⟨t, rfl, h, fun _ => rfl⟩
  | cons c cs ih =>
    obtain ⟨t₁, hrun, hkeeps, hcontent⟩ :=
      (hcs c List.mem_cons_self).exists_run_perform h
    obtain ⟨t₂, hrun', hkeeps', hcontent'⟩ :=
      ih hkeeps fun c' hc' => hcs c' (List.mem_cons_of_mem c hc')
    refine ⟨t₂, ?_, hkeeps', fun place => ?_⟩
    · rw [run_performAll_cons hrun, hrun']
    · rw [hcontent', hcontent, ← Option.or_assoc, ← List.getLast?_append, ← writesTo_append]
      rfl

/-- The directories for results can be made one after the other. -/
theorem exists_run_performAll_makeDirectory (h : t.Keeps top subs) (dirs : List String)
    (hdirs : ∀ sub ∈ dirs, IsPlain sub ∧ pathFault? ⟨.here, [top, sub]⟩ = none) :
    ∃ t', (performAll system (dirs.map fun sub => makeDirectory ⟨.here, [top, sub]⟩)).run.run t =
        (.ok (), t') ∧ t'.Keeps top (dirs ++ subs) ∧ t'.files = t.files := by
  induction dirs generalizing t subs with
  | nil => exact ⟨t, rfl, h, rfl⟩
  | cons sub dirs ih =>
    obtain ⟨hplain, hpath⟩ := hdirs sub List.mem_cons_self
    obtain ⟨t₁, hmake, hkeeps, hfiles⟩ := h.makeDirectory hplain hpath
    obtain ⟨t₂, hrun, hkeeps', hfiles'⟩ := ih hkeeps fun s hs => hdirs s (List.mem_cons_of_mem _ hs)
    refine ⟨t₂, ?_, hkeeps'.mono fun s hs => ?_, hfiles'.trans hfiles⟩
    · rw [List.map_cons, run_performAll_cons (run_perform_makeDirectory hmake), hrun]
    · rw [List.cons_append, List.mem_cons, List.mem_append] at hs
      rw [List.mem_append, List.mem_cons]
      exact or_left_comm.1 hs

end FileChange

namespace Batch

open FileChange FileTree

variable {settings : Settings} {top : String} {es : List SeededEpisode}

/-! ### The changes of a batch -/

/-- The names of the directories for results. -/
def subdirectories : List String := ["logs", "traces", "episodes"]

/-- The names of the directories and files that a batch leaves below a directory are not too long,
given the names of its episodes. -/
structure NamesFit (top : String) (ids : List String) : Prop where
  plain : IsPlain top
  directories : ∀ sub ∈ subdirectories, pathFault? ⟨.here, [top, sub]⟩ = none
  log : pathFault? ⟨.here, [top, "logs", "trace_log.parquet"]⟩ = none
  reports : ∀ id ∈ ids, IsPlain (id ++ ".txt") ∧
    pathFault? ⟨.here, [top, "traces", id ++ ".txt"]⟩ = none
  summaries : ∀ id ∈ ids, IsPlain (id ++ ".json") ∧
    pathFault? ⟨.here, [top, "episodes", id ++ ".json"]⟩ = none

theorem NamesFit.of_cons {id : String} {ids : List String} (h : NamesFit top (id :: ids)) :
    NamesFit top ids :=
  ⟨h.plain, h.directories, h.log, fun id' hid => h.reports id' (List.mem_cons_of_mem id hid),
    fun id' hid => h.summaries id' (List.mem_cons_of_mem id hid)⟩

theorem isPlain_of_mem_subdirectories : ∀ sub ∈ subdirectories, IsPlain sub := by decide

section Paths

variable {out : Path} (hout : out = ⟨.here, [top]⟩)

include hout

theorem child_eq {sub : String} (h : Path.IsName sub) : out.child sub = ⟨.here, [top, sub]⟩ := by
  rw [h.child_eq, hout]
  rfl

theorem traces_eq : out.traces = ⟨.here, [top, "traces"]⟩ :=
  child_eq hout ⟨by decide, by decide⟩

theorem traceLog_eq : out.traceLog = ⟨.here, [top, "logs", "trace_log.parquet"]⟩ := by
  rw [Path.traceLog, Path.logs, child_eq hout ⟨by decide, by decide⟩,
    Path.IsName.child_eq ⟨by decide, by decide⟩]
  rfl

theorem report_eq (e : SeededEpisode) :
    out.report e.id = ⟨.here, [top, "traces", e.id ++ ".txt"]⟩ := by
  rw [Path.report, traces_eq hout, (Path.isName_report e.stroke_not_mem_id).child_eq]
  rfl

theorem summary_eq (e : SeededEpisode) :
    out.summary e.id = ⟨.here, [top, "episodes", e.id ++ ".json"]⟩ := by
  rw [Path.summary, Path.episodes, child_eq hout ⟨by decide, by decide⟩,
    (Path.isName_summary e.stroke_not_mem_id).child_eq]
  rfl

theorem directories_eq : directories out = subdirectories.map fun sub => ⟨.here, [top, sub]⟩ := by
  rw [directories, Path.logs, traces_eq hout, Path.episodes, child_eq hout ⟨by decide, by decide⟩,
    child_eq hout ⟨by decide, by decide⟩]
  rfl

theorem fits_flushChanges (h : NamesFit top (es.map SeededEpisode.id)) (l : TraceLog) :
    ∀ c ∈ flushChanges out l, c.Fits top subdirectories := by
  intro c hc
  rw [flushChanges] at hc
  split at hc
  · cases hc
  · obtain rfl := List.mem_singleton.1 hc
    rw [traceLog_eq hout]
    exact .write (by decide) (by decide) h.log _

theorem fits_episodesChanges (h : NamesFit top (es.map SeededEpisode.id)) (threshold : Nat)
    (l : TraceLog) :
    ∀ c ∈ episodesChanges settings threshold out l es, c.Fits top subdirectories := by
  induction es generalizing l with
  | nil => intro c hc; cases hc
  | cons e es ih =>
    obtain ⟨hreport, hreportPath⟩ := h.reports e.id List.mem_cons_self
    obtain ⟨hsummary, hsummaryPath⟩ := h.summaries e.id List.mem_cons_self
    intro c hc
    rw [episodesChanges, List.mem_append, List.mem_append] at hc
    rcases hc with hc | hc | hc
    · simp only [episodeChanges, report_eq hout, summary_eq hout, traces_eq hout, List.mem_cons,
        List.not_mem_nil, or_false] at hc
      rcases hc with rfl | rfl | rfl
      · exact .makeDirectory (by decide) (h.directories "traces" (by decide))
      · exact .write (by decide) hreport hreportPath _
      · exact .write (by decide) hsummary hsummaryPath _
    · rw [logChanges] at hc
      split at hc
      · exact fits_flushChanges hout h _ c hc
      · cases hc
    · exact ih h.of_cons _ c hc

end Paths

/-- **The changes of a batch can be made in an empty tree**, if the names of its files are not too
long. Then the tree holds the files of the batch. -/
theorem exists_run_performAll_changes (settings : Settings) (threshold : Nat)
    (hids : (es.map SeededEpisode.id).Nodup) (hne : (logCalls es).flatMap LogCall.rows ≠ [])
    (h : NamesFit top (es.map SeededEpisode.id)) :
    ∃ t, (performAll system (changes settings threshold ⟨.here, [top]⟩ es)).run.run (ofTexts []) =
        (.ok (), t) ∧
      ∀ place c, t.content? place = some c ↔
        (⟨.here, place⟩, c) ∈ files settings ⟨.here, [top]⟩ es := by
  have hmake : ∀ sub ∈ subdirectories, IsPlain sub ∧ pathFault? ⟨.here, [top, sub]⟩ = none :=
    fun sub hsub => ⟨isPlain_of_mem_subdirectories sub hsub, h.directories sub hsub⟩
  obtain ⟨t₁, hdirectories, hkeeps, hfiles⟩ :=
    exists_run_performAll_makeDirectory (Keeps.ofTexts_nil h.plain) subdirectories hmake
  rw [List.append_nil] at hkeeps
  have hfits : ∀ c ∈ episodesChanges settings threshold ⟨.here, [top]⟩ .empty es ++
      flushChanges ⟨.here, [top]⟩ (logAfter threshold .empty es), c.Fits top subdirectories := by
    intro c hc
    rcases List.mem_append.1 hc with hc | hc
    · exact fits_episodesChanges rfl h threshold _ c hc
    · exact fits_flushChanges rfl h _ c hc
  obtain ⟨t₂, hrest, -, hcontent⟩ := exists_run_performAll hkeeps hfits
  refine ⟨t₂, ?_, fun place c => ?_⟩
  · rw [changes, directories_eq rfl, List.map_map]
    exact (run_performAll_append hdirectories _).trans hrest
  · have hempty : t₁.content? place = none := by
      rw [content?, hfiles]
      rfl
    have hchanges : writesTo ⟨.here, place⟩ (changes settings threshold ⟨.here, [top]⟩ es) =
        writesTo ⟨.here, place⟩ (episodesChanges settings threshold ⟨.here, [top]⟩ .empty es ++
          flushChanges ⟨.here, [top]⟩ (logAfter threshold .empty es)) :=
      writesTo_append.trans (by rw [writesTo_makeDirectories, List.nil_append])
    rw [hcontent, hempty, Option.or_none, ← hchanges]
    exact getLast?_writesTo_eq_some_iff settings threshold _ _ hids hne c

end Batch

end PlayTrace
