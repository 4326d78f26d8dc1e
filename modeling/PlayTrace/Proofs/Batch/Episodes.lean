import Mathlib.Data.List.Nodup
import PlayTrace.Batch
import PlayTrace.Proofs.Episode.Run
import PlayTrace.Proofs.Naming
import PlayTrace.Proofs.Trace.Log
import PlayTrace.Proofs.World.Start

/-!
# The episodes of a batch

The episode of a seed is played in a world of its own with a source of its own, so the episodes of a
batch are those of its seeds, one by one. `Batch.play` plays them and does nothing else. It may be
split anywhere, faults included.

An episode is named by its seed, and other seeds give other names. A seed that has too many digits
gives none, and then there is no episode either. All other seeds have an episode that comes to its
end, with one state more than turns.

## Main definitions

* `SeededEpisode.IsComplete` — one state more than turns, and turns up to a limit
* `Batch.play` — the episodes of consecutive seeds
* `Batch.logCalls` — the calls that add the traces of episodes to a log

## Main results

* `SeededEpisode.id_inj` — other seeds give other names
* `Batch.exists_playSeed` — an episode comes to its end
* `Batch.play_add` — a batch played in two parts
-/

namespace PlayTrace

variable {g : Game} {D : Domain} {settings : Settings} {p : Precision} {seed : Int} {n : Nat}
  {es : List SeededEpisode}

/-! ### The game that is played -/

namespace Game

/-- The settings replace the number of steps if they have one, and nothing else. -/
theorem toGameTables_under (g : Game) (settings : Settings) :
    (g.under settings).toGameTables =
      { g.toGameTables with maxSteps := settings.maxSteps.getD g.maxSteps } := by
  rw [under]
  split
  · rename_i hnone
    rw [hnone]
    rfl
  · rename_i n hsome
    have hsteps : settings.maxSteps.getD g.maxSteps = n := by
      rw [hsome]
      rfl
    rw [hsteps]
    rfl

theorem measurable_under (hm : (World.ofGame g p).Measurable) (settings : Settings) :
    (World.ofGame (g.under settings) p).Measurable := by
  rw [under]
  split
  · exact hm
  · exact hm

end Game

/-! ### One episode -/

namespace SeededEpisode

variable {e e' : SeededEpisode}

theorem toList_id (e : SeededEpisode) :
    e.id.toList = "episode_s".toList ++ (toString e.seed).toList := by
  rw [← String.toList_append]
  rfl

/-- Other seeds give other names. -/
theorem id_inj : e.id = e'.id ↔ e.seed = e'.seed := by
  rw [← String.toList_inj, toList_id, toList_id, List.append_cancel_left_eq, toList_toString_inj]

theorem stroke_not_mem_id (e : SeededEpisode) : '/' ∉ e.id.toList := by
  rw [toList_id, List.mem_append, not_or]
  exact ⟨by decide, fun h => (isDigit_or_eq_of_mem_toString h).elim (by decide) (by decide)⟩

/-- An episode with a state for every world it led through, and an action for every turn, of which
there are no more than `limit`. -/
structure IsComplete (limit : Int) (e : SeededEpisode) : Prop where
  stateCount_eq : e.stateCount = e.turns + 1
  actionCount_eq : e.actionCount = e.turns
  turns_le : (e.turns : Int) ≤ limit

/-- The turns of an episode can be numbered with 64 bits, one of them for the sign. -/
def IsNumbered (e : SeededEpisode) : Prop := (e.turns : Int) < 0x8000000000000000

end SeededEpisode

namespace Batch

open SeededEpisode

theorem playSeed_eq (h : Text.isWritable seed = true) {episode : Episode}
    (hplay : Episode.play D settings Twister.draw (World.ofGame (g.under settings) p)
      (Twister.seed seed) = .ok episode) :
    playSeed g D settings p seed = .ok ⟨seed, episode, h⟩ := by
  simp only [playSeed, dif_pos h, hplay]
  rfl

/-- The turns that the trace of an episode names are the turns of the episode. -/
theorem turnsFit_account {w : World} (hw : World.Sound w) {σ : Type} (draw : Draw σ) (s : σ)
    (atoms : Nat → Atom) (hn : (n : Int) < 0x8000000000000000) :
    (Episode.account D settings.mode hw draw s n atoms).trace.TurnsFit := by
  constructor
  · intro entry hentry
    obtain ⟨i, hi, rfl⟩ := List.mem_map.1 hentry
    have hle := List.mem_range.1 hi
    show -0x8000000000000000 ≤ (i : Int) ∧ (i : Int) < 0x8000000000000000
    omega
  · intro entry hentry
    obtain ⟨i, hi, rfl⟩ := List.mem_map.1 hentry
    have hlt := List.mem_range.1 hi
    show -0x8000000000000000 ≤ (i : Int) ∧ (i : Int) < 0x8000000000000000
    omega

/-- **An episode comes to its end**, and if its turns can be numbered, its trace can be logged. -/
theorem exists_playSeed (D : Domain) (hm : (World.ofGame g p).Measurable) (settings : Settings)
    (h : Text.isWritable seed = true) :
    ∃ e, playSeed g D settings p seed = .ok e ∧
      e.IsComplete (settings.maxSteps.getD g.maxSteps) ∧
      (e.IsNumbered → e.episode.trace.TurnsFit) := by
  have hw := World.sound_ofGame (g.under settings) p
  obtain ⟨n, atoms, hcourse⟩ := Episode.exists_course D settings.mode hw
    (Game.measurable_under hm settings) rfl Twister.draw (Twister.seed seed)
  refine ⟨_, playSeed_eq h (hcourse.play_eq rfl), ⟨?_, ?_, ?_⟩,
    fun hnumbered => turnsFit_account hw Twister.draw (Twister.seed seed) atoms hnumbered⟩
  · simp [stateCount, turns, Episode.account]
  · simp [actionCount, turns, Episode.account]
  · have hlimit : (g.under settings).maxSteps = settings.maxSteps.getD g.maxSteps :=
      congrArg GameTables.maxSteps (Game.toGameTables_under g settings)
    have hle := hcourse.le_remaining
    have hpos := (g.under settings).one_le_maxSteps
    rw [World.remaining_ofGame] at hle
    rw [← hlimit]
    show (n : Int) ≤ _
    omega

/-- An episode of a seed is a game played in a world of its own, with a source of its own. -/
theorem play_of_playSeed {e : SeededEpisode} (h : playSeed g D settings p seed = .ok e) :
    e.seed = seed ∧ Episode.play D settings Twister.draw (World.ofGame (g.under settings) p)
      (Twister.seed seed) = .ok e.episode := by
  rw [playSeed] at h
  split at h
  · obtain ⟨episode, hplay, hmk⟩ := bind_eq_ok.1 h
    obtain rfl := Except.ok.inj hmk
    exact ⟨rfl, hplay⟩
  · cases h

/-! ### Any number of episodes -/

theorem add_succ_eq (seed : Int) (i : Nat) : seed + ((i + 1 : Nat) : Int) = seed + 1 + i := by
  push_cast
  ring

/-- Plays the episodes of a batch, with the seeds from `seed` on. -/
def play (g : Game) (D : Domain) (settings : Settings) (p : Precision) :
    Nat → Int → Except Fault (List SeededEpisode)
  | 0, _ => .ok []
  | n + 1, seed => do
    let e ← playSeed g D settings p seed
    let es ← play g D settings p n (seed + 1)
    return e :: es

/-- **A batch may be split anywhere**, and a fault in either part is a fault of the whole. -/
theorem play_add (g : Game) (D : Domain) (settings : Settings) (p : Precision) (m n : Nat)
    (seed : Int) :
    play g D settings p (m + n) seed = do
      let first ← play g D settings p m seed
      let second ← play g D settings p n (seed + m)
      return first ++ second := by
  induction m generalizing seed with
  | zero => simp [play]
  | succ m ih =>
    rw [Nat.succ_add, play, play, add_succ_eq]
    simp [ih]

theorem exists_play (D : Domain) (hm : (World.ofGame g p).Measurable) (settings : Settings)
    (n : Nat) (seed : Int) (hseeds : ∀ i < n, Text.isWritable (seed + i) = true) :
    ∃ es, play g D settings p n seed = .ok es := by
  induction n generalizing seed with
  | zero => exact ⟨[], rfl⟩
  | succ n ih =>
    have hseed := hseeds 0 (Nat.succ_pos n)
    rw [Nat.cast_zero, add_zero] at hseed
    have hrest : ∀ i < n, Text.isWritable (seed + 1 + i) = true := by
      intro i hi
      rw [← add_succ_eq]
      exact hseeds (i + 1) (Nat.succ_lt_succ hi)
    obtain ⟨e, he, -⟩ := exists_playSeed D hm settings hseed
    obtain ⟨es, hes⟩ := ih (seed + 1) hrest
    refine ⟨e :: es, ?_⟩
    rw [play, he, ok_bind, hes]
    rfl

/-- The episode at a place of a batch is that of its own seed. -/
theorem getElem?_of_play (h : play g D settings p n seed = .ok es) :
    es.length = n ∧ ∀ i < n, ∃ e, es[i]? = some e ∧ playSeed g D settings p (seed + i) = .ok e := by
  induction n generalizing seed es with
  | zero =>
    obtain rfl := Except.ok.inj h
    exact ⟨rfl, fun i hi => absurd hi (Nat.not_lt_zero i)⟩
  | succ n ih =>
    obtain ⟨e, he, h⟩ := bind_eq_ok.1 h
    obtain ⟨rest, hrest, h⟩ := bind_eq_ok.1 h
    obtain rfl := Except.ok.inj h
    obtain ⟨hlength, hget⟩ := ih hrest
    refine ⟨congrArg (· + 1) hlength, ?_⟩
    intro i hi
    cases i with
    | zero =>
      refine ⟨e, rfl, ?_⟩
      rw [Nat.cast_zero, Int.add_zero]
      exact he
    | succ i =>
      obtain ⟨e', he', hplay⟩ := hget i (Nat.lt_of_succ_lt_succ hi)
      refine ⟨e', he', ?_⟩
      rw [add_succ_eq]
      exact hplay

/-- Every episode of a batch is that of its own seed. -/
theorem playSeed_of_mem (h : play g D settings p n seed = .ok es) {e : SeededEpisode}
    (he : e ∈ es) : playSeed g D settings p e.seed = .ok e := by
  obtain ⟨hlength, hget⟩ := getElem?_of_play h
  obtain ⟨i, hi, rfl⟩ := List.getElem_of_mem he
  obtain ⟨e', he', hplay⟩ := hget i (hlength ▸ hi)
  rw [List.getElem?_eq_getElem hi, Option.some.injEq] at he'
  rw [he', (play_of_playSeed hplay).1]
  exact hplay

/-- Every episode of a batch has come to its end. -/
theorem isComplete_of_mem (hm : (World.ofGame g p).Measurable)
    (h : play g D settings p n seed = .ok es) {e : SeededEpisode} (he : e ∈ es) :
    e.IsComplete (settings.maxSteps.getD g.maxSteps) ∧
      (e.IsNumbered → e.episode.trace.TurnsFit) := by
  -- A seed comes to one episode only, so this is the one that is known to be complete.
  obtain ⟨e', he', hcomplete⟩ := exists_playSeed D hm settings e.isWritable_seed
  obtain rfl := Except.ok.inj ((playSeed_of_mem h he).symm.trans he')
  exact hcomplete

/-- The names of the episodes of a batch are distinct. -/
theorem nodup_ids (h : play g D settings p n seed = .ok es) : (es.map SeededEpisode.id).Nodup := by
  obtain ⟨hlength, hget⟩ := getElem?_of_play h
  have hseeds : es.map SeededEpisode.seed = (List.range n).map fun i : Nat => seed + i := by
    refine List.ext_getElem? fun i => ?_
    rw [List.getElem?_map, List.getElem?_map]
    rcases Nat.lt_or_ge i n with hi | hi
    · obtain ⟨e, he, hplay⟩ := hget i hi
      rw [he, List.getElem?_range hi]
      exact congrArg some (play_of_playSeed hplay).1
    · rw [List.getElem?_eq_none (hlength ▸ hi), List.getElem?_eq_none (by simpa using hi)]
      rfl
  have hnodup : (es.map SeededEpisode.seed).Nodup := by
    rw [hseeds]
    refine List.nodup_range.map ?_
    intro i j hij
    simpa using hij
  exact List.pairwise_map.2 ((List.pairwise_map.1 hnodup).imp fun hne hid => hne (id_inj.1 hid))

/-! ### The log -/

/-- The calls by which the traces of episodes are added to a log. -/
def logCalls (es : List SeededEpisode) : List LogCall :=
  es.map fun e => .append e.id e.episode.trace

theorem flatMap_rows_logCalls_cons (e : SeededEpisode) (es : List SeededEpisode) :
    (logCalls (e :: es)).flatMap LogCall.rows =
      e.episode.trace.rows e.id ++ (logCalls es).flatMap LogCall.rows := by
  rw [logCalls, List.map_cons, List.flatMap_cons, LogCall.rows_append]
  rfl

theorem flatMap_rows_logCalls_append (es es' : List SeededEpisode) :
    (logCalls (es ++ es')).flatMap LogCall.rows =
      (logCalls es).flatMap LogCall.rows ++ (logCalls es').flatMap LogCall.rows := by
  rw [logCalls, List.map_append, List.flatMap_append]
  rfl

theorem flatMap_rows_logCalls_ne_nil {limit : Int} (hne : es ≠ [])
    (h : ∀ e ∈ es, e.IsComplete limit) : (logCalls es).flatMap LogCall.rows ≠ [] := by
  obtain ⟨e, es, rfl⟩ := List.exists_cons_of_ne_nil hne
  have hstates : e.episode.trace.states ≠ [] := by
    intro hnil
    have hcount := (h e List.mem_cons_self).stateCount_eq
    rw [stateCount, hnil] at hcount
    cases hcount
  exact TraceLog.flatMap_rows_ne_nil List.mem_cons_self (.inl hstates)

end Batch

end PlayTrace
