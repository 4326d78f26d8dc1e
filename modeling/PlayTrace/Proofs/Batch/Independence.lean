import PlayTrace.CommandLine.Run
import PlayTrace.Proofs.Batch.Tree

/-!
# A batch is the sum of its parts

Nothing is handed on from one episode of a batch to the next but the log, and what the log holds in
the end does not depend on when it was flushed. So a batch may be split anywhere: the episodes, the
reports, the summaries and the rows of the log are those of the first part followed by those of the
second.

A batch is completed whenever its own accesses to files succeed. Whether they do is a matter of the
file system, and of the names of the files. Two numbers are beyond what can be written into a file
or its name: a seed, and a look ahead, with too many digits. A batch that comes to such a number
fails, whatever the file system, and with such seeds or such a look ahead nothing is promised.

## Main definitions

* `ReturnsAfter` — a computation that succeeds once another one was carried out
* `Batch.ComesTo` — what a batch does, returns and leaves behind

## Main results

* `Batch.comesTo_of_play` — what follows from the episodes of a batch
* `Batch.exists_comesTo_append` — batches with consecutive seeds, one after the other
* `Batch.isWritable_of_run_eq_ok` — what can be written, if a batch returns
-/

namespace PlayTrace

variable {g : Game} {D : Domain} {settings : Settings} {seed : Int} {n : Nat}
  {es : List SeededEpisode}

/-! ### Computations that return -/

section Returns

variable {m : Type → Type} [Monad m] {ε α β : Type}

/-- A computation that, after `start`, has some effect and succeeds with the value `a`. -/
def ReturnsAfter (start : m Unit) (x : ExceptT ε m α) (a : α) : Prop :=
  ∃ effect : m Unit, (do start; x.run) = (fun _ => .ok a) <$> effect

/-- What follows without a fault does not matter. -/
theorem ReturnsAfter.bind_pure [LawfulMonad m] {start : m Unit} {x : ExceptT ε m α} {a : α}
    (h : ReturnsAfter start x a) (b : β) : ReturnsAfter start (do let _ ← x; return b) b := by
  obtain ⟨effect, heffect⟩ := h
  refine ⟨effect, ?_⟩
  rw [ExceptT.run_bind, ← bind_assoc, heffect]
  simp

end Returns

namespace Batch

open SeededEpisode FileChange

/-! ### What is told of a batch -/

theorem total_eq_sum (f : SeededEpisode → Nat) (es : List SeededEpisode) :
    es.foldl (fun n e => n + f e) 0 = (es.map f).sum := by
  rw [List.sum_eq_foldl, List.foldl_map]

theorem sum_stateCount {limit : Int} (h : ∀ e ∈ es, e.IsComplete limit) :
    (es.map SeededEpisode.stateCount).sum = (es.map SeededEpisode.turns).sum + es.length := by
  rw [List.map_congr_left fun e he => (h e he).stateCount_eq, List.sum_map_add, List.map_const',
    List.sum_replicate, smul_eq_mul, Nat.mul_one]

/-- **The totals of an overview**: one state more than turns for each episode. -/
theorem lookup?_overview {limit : Int} (D : Domain) (settings : Settings) (out : Path)
    (h : ∀ e ∈ es, e.IsComplete limit) :
    ∃ entries, CommandLine.overview D settings out es = .mapping entries ∧
      Value.lookup? entries "episodes" = some (.int es.length) ∧
      Value.lookup? entries "total_turns" = some (.int (es.map SeededEpisode.turns).sum) ∧
      Value.lookup? entries "total_states" =
        some (.int ((es.map SeededEpisode.turns).sum + es.length)) := by
  refine ⟨_, rfl, rfl, ?_, ?_⟩
  · rw [← total_eq_sum]
    rfl
  · rw [← Nat.cast_add, ← sum_stateCount h, ← total_eq_sum]
    rfl

/-! ### Batches -/

/-- A batch of `n` episodes with the seeds from `seed` on comes to the episodes `es`. -/
structure ComesTo (g : Game) (D : Domain) (settings : Settings) (seed : Int) (n : Nat)
    (es : List SeededEpisode) : Prop where
  /-- on any file system, the batch does to files what its episodes ask for, and nothing else comes
  in between -/
  run_eq : ∀ {m : Type → Type} [Monad m] [LawfulMonad m] (fs : FileSystem m) (threshold : Nat)
    (out : Path), (∀ e ∈ es, e.IsNumbered) →
    runFlushing fs threshold g D settings n seed out = do
      performAll fs (changes settings threshold out es)
      return es
  /-- where these accesses to files succeed, the episodes are returned -/
  returns : ∀ {m : Type → Type} [Monad m] [LawfulMonad m] (fs : FileSystem m) (threshold : Nat)
    (out : Path) (start : m Unit), (∀ e ∈ es, e.IsNumbered) →
    ReturnsAfter start (performAll fs (changes settings threshold out es)) () →
    ReturnsAfter start (runFlushing fs threshold g D settings n seed out) es
  length_eq : es.length = n
  /-- each episode is played in a fresh world, with a fresh source of its own seed -/
  played : ∀ i < n, ∃ e, es[i]? = some e ∧ e.seed = seed + i ∧
    Episode.play D settings Twister.draw (World.ofGame (g.under settings) .binary64)
      (Twister.seed (seed + i)) = .ok e.episode
  complete : ∀ e ∈ es, e.IsComplete (settings.maxSteps.getD g.maxSteps)
  nodup_ids : (es.map SeededEpisode.id).Nodup
  nodup_paths : ∀ out, ((files settings out es).map Prod.fst).Nodup
  /-- no report and no summary is written over -/
  written_once : ∀ (out : Path) (threshold : Nat), ∀ file ∈ es.flatMap (episodeFiles settings out),
    writesTo file.1 (changes settings threshold out es) = [file.2]
  /-- what is left in the end are the reports, the summaries and one log of all rows -/
  left : ∀ (out : Path) (threshold : Nat) (path : Path) (c : Content),
    (writesTo path (changes settings threshold out es)).getLast? = some c ↔
      (path, c) ∈ (es.flatMap fun e => [(out.report e.id, .text e.episode.trace.report),
        (out.summary e.id, .text (Json.write (e.summary settings)))]) ++
        [(out.traceLog, .rows ((logCalls es).flatMap LogCall.rows))]
  overview : ∀ out, ∃ entries, CommandLine.overview D settings out es = .mapping entries ∧
    Value.lookup? entries "episodes" = some (.int n) ∧
    Value.lookup? entries "total_turns" = some (.int (es.map SeededEpisode.turns).sum) ∧
    Value.lookup? entries "total_states" = some (.int ((es.map SeededEpisode.turns).sum + n))

/-- What a batch comes to follows from the episodes that are played. -/
theorem comesTo_of_play (hm : (World.ofGame g .binary64).Measurable)
    (hlookahead : Text.isWritable settings.lookahead = true) (hn : 1 ≤ n)
    (h : play g D settings .binary64 n seed = .ok es) : ComesTo g D settings seed n es := by
  obtain ⟨hlength, hget⟩ := getElem?_of_play h
  have hcomplete : ∀ e ∈ es, e.IsComplete (settings.maxSteps.getD g.maxSteps) := fun e he =>
    (isComplete_of_mem hm h he).1
  have hne : es ≠ [] := by
    rintro rfl
    rw [List.length_nil] at hlength
    omega
  have hrows := flatMap_rows_logCalls_ne_nil hne hcomplete
  have hids := nodup_ids h
  have hrun {m : Type → Type} [Monad m] [LawfulMonad m] (fs : FileSystem m) (threshold : Nat)
      (out : Path) (hnumbered : ∀ e ∈ es, e.IsNumbered) :=
    runFlushing_eq fs threshold out hn hlookahead h fun e he =>
      (isComplete_of_mem hm h he).2 (hnumbered e he)
  refine ⟨hrun, ?_, hlength, ?_, hcomplete, hids, fun out => nodup_paths settings out hids,
    fun out threshold file hfile => writesTo_eq_singleton threshold hids hfile,
    fun out threshold path c =>
      getLast?_writesTo_eq_some_iff settings threshold out path hids hrows c,
    ?_⟩
  · intro m _ _ fs threshold out start hnumbered hperform
    rw [hrun fs threshold out hnumbered]
    exact hperform.bind_pure es
  · intro i hi
    obtain ⟨e, he, hplay⟩ := hget i hi
    exact ⟨e, he, play_of_playSeed hplay⟩
  · intro out
    have htotals := lookup?_overview D settings out hcomplete
    rwa [hlength] at htotals

/-- **In an empty tree a batch is completed** if the names of its files are not too long, and it
leaves its files there and no others. -/
theorem ComesTo.exists_run_eq_ok (h : ComesTo g D settings seed n es) (threshold : Nat)
    (hn : 1 ≤ n) (hnumbered : ∀ e ∈ es, e.IsNumbered) {top : String}
    (hfit : NamesFit top (es.map SeededEpisode.id)) :
    ∃ t, (runFlushing FileTree.system threshold g D settings n seed ⟨.here, [top]⟩).run.run
        (.ofTexts []) = (.ok es, t) ∧
      ∀ place c, t.content? place = some c ↔
        (⟨.here, place⟩, c) ∈ files settings ⟨.here, [top]⟩ es := by
  have hne : es ≠ [] := by
    rintro rfl
    have hlength := h.length_eq
    rw [List.length_nil] at hlength
    omega
  obtain ⟨t, hperform, hcontent⟩ := exists_run_performAll_changes settings threshold h.nodup_ids
    (flatMap_rows_logCalls_ne_nil hne h.complete) hfit
  refine ⟨t, ?_, hcontent⟩
  rw [h.run_eq FileTree.system threshold _ hnumbered, ExceptT.run_bind, StateT.run_bind, hperform]
  rfl

/-- **The episodes of a batch are independent.** A batch of `n₁ + n₂` episodes comes to what a batch
of the first `n₁` comes to, followed by what a batch of the other `n₂` comes to: the episodes with
their reports and summaries, and the rows of the log, whenever it is flushed. Each of the three
batches is completed if its own accesses to files succeed, its episodes are played on their own, and
its overview tells one state more than turns for each of them.

The seeds, which name the episodes, and the look ahead, which is told in the summaries, must not have
too many digits. A level that machine arithmetic is used on has to have indices that a machine can
hold. -/
theorem exists_comesTo_append (g : Game) (D : Domain) (settings : Settings)
    (hm : (World.ofGame g .binary64).Measurable)
    (hlookahead : Text.isWritable settings.lookahead = true) (seed : Int) {n₁ n₂ : Nat}
    (h₁ : 1 ≤ n₁) (h₂ : 1 ≤ n₂)
    (hseeds : ∀ i < n₁ + n₂, Text.isWritable (seed + i) = true) :
    (g.under settings).toGameTables =
        { g.toGameTables with maxSteps := settings.maxSteps.getD g.maxSteps } ∧
      ∃ first second,
        ComesTo g D settings seed n₁ first ∧
        ComesTo g D settings (seed + n₁) n₂ second ∧
        ComesTo g D settings seed (n₁ + n₂) (first ++ second) ∧
        (logCalls (first ++ second)).flatMap LogCall.rows =
          (logCalls first).flatMap LogCall.rows ++ (logCalls second).flatMap LogCall.rows := by
  refine ⟨g.toGameTables_under settings, ?_⟩
  obtain ⟨first, hfirst⟩ := exists_play D hm settings n₁ seed fun i hi => hseeds i (by omega)
  obtain ⟨second, hsecond⟩ := exists_play D hm settings n₂ (seed + n₁) fun i hi => by
    rw [add_assoc, ← Nat.cast_add]
    exact hseeds (n₁ + i) (by omega)
  have hall : play g D settings .binary64 (n₁ + n₂) seed = .ok (first ++ second) := by
    rw [play_add, hfirst, ok_bind, hsecond]
    rfl
  exact ⟨first, second, comesTo_of_play hm hlookahead h₁ hfirst,
    comesTo_of_play hm hlookahead h₂ hsecond,
    comesTo_of_play hm hlookahead (Nat.le_add_right_of_le h₁) hall,
    flatMap_rows_logCalls_append first second⟩

/-- Two episodes of the corridor, kept in an empty tree. -/
theorem exists_comesTo_append_corridor :
    ((World.ofGame Episode.corridor .binary64).Measurable ∧
      Text.isWritable Settings.standard.lookahead = true ∧ 1 ≤ 1 ∧
      ∀ i < 1 + 1, Text.isWritable (5 + (i : Nat)) = true) ∧
      ∃ e e',
        ComesTo Episode.corridor Episode.gemDomain .standard 5 1 [e] ∧
        ComesTo Episode.corridor Episode.gemDomain .standard 6 1 [e'] ∧
        ComesTo Episode.corridor Episode.gemDomain .standard 5 2 [e, e'] ∧
        e.id = "episode_s5" ∧ e'.id = "episode_s6" ∧
        ∃ t, (run FileTree.system Episode.corridor Episode.gemDomain .standard 2 5
            (.ofText "out")).run.run (.ofTexts []) = (.ok [e, e'], t) ∧
          t.content? ["out", "traces", "episode_s5.txt"] = some (.text e.episode.trace.report) ∧
          t.content? ["out", "logs", "trace_log.parquet"] =
            some (.rows (e.episode.trace.rows e.id ++ e'.episode.trace.rows e'.id)) := by
  have hm : (World.ofGame Episode.corridor .binary64).Measurable := fun _ => by decide
  have hlookahead : Text.isWritable Settings.standard.lookahead = true := by decide +kernel
  have hseeds : ∀ i < 1 + 1, Text.isWritable (5 + (i : Nat)) = true := by decide +kernel
  obtain ⟨-, first, second, h, h', happend, hrows⟩ :=
    exists_comesTo_append Episode.corridor Episode.gemDomain .standard hm hlookahead 5
      (Nat.le_refl 1) (Nat.le_refl 1) hseeds
  obtain ⟨e, rfl⟩ := List.length_eq_one_iff.1 h.length_eq
  obtain ⟨e', rfl⟩ := List.length_eq_one_iff.1 h'.length_eq
  obtain ⟨_, he, hseed, -⟩ := h.played 0 Nat.zero_lt_one
  obtain rfl := Option.some.inj he
  obtain ⟨_, he', hseed', -⟩ := h'.played 0 Nat.zero_lt_one
  obtain rfl := Option.some.inj he'
  have hid : e.id = "episode_s5" := by
    rw [SeededEpisode.id, hseed]
    decide
  have hid' : e'.id = "episode_s6" := by
    rw [SeededEpisode.id, hseed']
    decide
  have hnumbered : ∀ e₀ ∈ [e, e'], e₀.IsNumbered := by
    intro e₀ he₀
    have hle := (happend.complete e₀ he₀).turns_le
    have hlimit :
        Settings.standard.maxSteps.getD Episode.corridor.maxSteps < 0x8000000000000000 := by
      decide
    exact lt_of_le_of_lt hle hlimit
  have hfit : NamesFit "out" ([e, e'].map SeededEpisode.id) := by
    rw [List.map_cons, List.map_cons, hid, hid', List.map_nil]
    exact ⟨by decide, by decide +kernel, by decide +kernel, by decide +kernel, by decide +kernel⟩
  have hout : Path.ofText "out" = ⟨.here, ["out"]⟩ := by decide
  obtain ⟨t, hrun, hcontent⟩ :=
    happend.exists_run_eq_ok TraceLog.flushThreshold (by decide) hnumbered hfit
  refine ⟨⟨hm, hlookahead, Nat.le_refl 1, hseeds⟩, e, e', h, h', happend, hid, hid', t, ?_, ?_, ?_⟩
  · rw [hout]
    exact hrun
  · rw [hcontent, files, List.mem_append]
    refine .inl (List.mem_flatMap.2 ⟨e, List.mem_cons_self, List.mem_cons.2 (.inl ?_)⟩)
    rw [report_eq rfl, hid]
    rfl
  · rw [hcontent, files, List.mem_append]
    refine .inr (List.mem_singleton.2 ?_)
    rw [traceLog_eq rfl, hrows, flatMap_rows_logCalls_cons, flatMap_rows_logCalls_cons, logCalls,
      List.map_nil, List.flatMap_nil, List.append_nil, List.append_nil]

/-! ### Batches that are not completed -/

section Fails

variable {σ : Type} {α β : Type} {fs : FileSystem (StateM σ)} {threshold : Nat} {out : Path}

theorem exists_of_run_bind_eq_ok {x : ExceptT Failure (StateM σ) α}
    {f : α → ExceptT Failure (StateM σ) β} {s s' : σ} {b : β}
    (h : (x >>= f).run.run s = (.ok b, s')) :
    ∃ a s₁, x.run.run s = (.ok a, s₁) ∧ (f a).run.run s₁ = (.ok b, s') := by
  rw [ExceptT.run_bind, StateT.run_bind] at h
  rcases hx : x.run.run s with ⟨a | a, s₁⟩
  · rw [hx] at h
    cases h
  · rw [hx] at h
    exact ⟨a, s₁, rfl, h⟩

/-- What can be settled is no fault. -/
theorem eq_ok_of_run_settle {r : Except Fault α} {s s' : σ} {a : α}
    (h : (settle r : ExceptT Failure (StateM σ) α).run.run s = (.ok a, s')) : r = .ok a := by
  cases r with
  | ok a' =>
    cases h
    rfl
  | error e => cases h

theorem isWritable_lookahead_of_writeEpisode {e : SeededEpisode} {s s' : σ}
    (h : (writeEpisode fs settings out e).run.run s = (.ok (), s')) :
    Text.isWritable settings.lookahead = true := by
  rw [writeEpisode] at h
  obtain ⟨_, s₁, -, h⟩ := exists_of_run_bind_eq_ok h
  obtain ⟨_, s₂, -, h⟩ := exists_of_run_bind_eq_ok h
  obtain ⟨text, s₃, hsettle, -⟩ := exists_of_run_bind_eq_ok h
  have htext := eq_ok_of_run_settle hsettle
  rw [summaryText] at htext
  split at htext
  · rename_i hwritable
    exact hwritable
  · cases htext

theorem isWritable_seed_of_playSeed {e : SeededEpisode}
    (h : playSeed g D settings .binary64 seed = .ok e) : Text.isWritable seed = true := by
  rw [← (play_of_playSeed h).1]
  exact e.isWritable_seed

theorem isWritable_of_episodes_eq_ok {l : TraceLog} {s s' : σ}
    {r : List SeededEpisode × TraceLog}
    (h : (episodes fs threshold g D settings out n seed l).run.run s = (.ok r, s')) :
    (0 < n → Text.isWritable settings.lookahead = true) ∧
      ∀ i < n, Text.isWritable (seed + i) = true := by
  induction n generalizing seed l s s' r with
  | zero => exact ⟨fun hn => absurd hn (Nat.lt_irrefl 0), fun i hi => absurd hi (Nat.not_lt_zero i)⟩
  | succ n ih =>
    rw [episodes] at h
    obtain ⟨e, s₁, hsettle, h⟩ := exists_of_run_bind_eq_ok h
    obtain ⟨_, s₂, hwrite, h⟩ := exists_of_run_bind_eq_ok h
    obtain ⟨l₁, s₃, -, h⟩ := exists_of_run_bind_eq_ok h
    obtain ⟨r₁, s₄, hrest, -⟩ := exists_of_run_bind_eq_ok h
    refine ⟨fun _ => isWritable_lookahead_of_writeEpisode hwrite, fun i hi => ?_⟩
    cases i with
    | zero =>
      rw [Nat.cast_zero, add_zero]
      exact isWritable_seed_of_playSeed (eq_ok_of_run_settle hsettle)
    | succ i =>
      rw [add_succ_eq]
      exact (ih hrest).2 i (Nat.lt_of_succ_lt_succ hi)

/-- **The look ahead and the seeds of a batch that returns can be written**, whatever the file
system. -/
theorem isWritable_of_run_eq_ok {s s' : σ}
    (h : (run fs g D settings n seed out).run.run s = (.ok es, s')) :
    Text.isWritable settings.lookahead = true ∧ ∀ i < n, Text.isWritable (seed + i) = true := by
  rw [run, runFlushing] at h
  split at h
  · cases h
  · rename_i hmany
    obtain ⟨_, s₁, -, h⟩ := exists_of_run_bind_eq_ok h
    obtain ⟨r, s₂, hepisodes, -⟩ := exists_of_run_bind_eq_ok h
    rw [Int.toNat_natCast] at hepisodes
    obtain ⟨hlookahead, hseeds⟩ := isWritable_of_episodes_eq_ok hepisodes
    exact ⟨hlookahead (by omega), hseeds⟩

end Fails

/-- The corridor's settings with a look ahead that cannot be written. -/
def farSighted : Settings :=
  { Settings.standard with
    lookahead := Text.writableBound
    lookahead_pos := Int.ofNat_le.2 Text.writableBound_pos }

/-- After the last seed that can be written no further episode is played, and with a look ahead that
cannot be written none is kept. -/
theorem not_exists_run_corridor_eq_ok :
    (¬ ∃ es t, (run FileTree.system Episode.corridor Episode.gemDomain .standard 2
      (Text.writableBound - 1) (.ofText "out")).run.run (.ofTexts []) = (.ok es, t)) ∧
    ¬ ∃ es t, (run FileTree.system Episode.corridor Episode.gemDomain farSighted 2 5
        (.ofText "out")).run.run (.ofTexts []) = (.ok es, t) := by
  refine ⟨?_, ?_⟩
  · rintro ⟨es, t, h⟩
    have hwritable := (isWritable_of_run_eq_ok (n := 2) h).2 1 (by decide)
    rw [Text.not_isWritable_of_le] at hwritable
    · cases hwritable
    · omega
  · rintro ⟨es, t, h⟩
    have hwritable : Text.isWritable (Text.writableBound : Int) = true :=
      (isWritable_of_run_eq_ok (n := 2) h).1
    rw [Text.not_isWritable_of_le (le_refl (Text.writableBound : Int))] at hwritable
    cases hwritable

end Batch

end PlayTrace
