import PlayTrace.Proofs.Episode.Run
import PlayTrace.Proofs.World.Cap

/-!
# An episode under a smaller cap

A game is played twice with the same draws, and the second time it may take fewer steps. The shorter
episode is the beginning of the longer one: the same states, actions and labels, and the ledger that
the longer one had at that moment. This holds of the last state of the shorter episode as well. That
state was never recorded in a turn, it was found by a probe of a successor; the longer episode, if it
goes on, drops what its own probe may have found and records the same state in the next turn.

Both episodes are accounts of a run of worlds, and the worlds of the one are those of the other, cut.
Nothing that an account says of a world depends on the number of steps.

## Main results

* `Agent.ledgerAt_cut`, `factsAt_cut` — the ledger and the facts along a cut run
* `Agent.Describes.of_eq_cut` — the atoms along a cut run
* `Episode.exists_play_eq_ok_take` — the shorter episode is the beginning of the longer one
-/

namespace PlayTrace

namespace Agent

open World

variable {A : Agent} {w v : World} {m : Int} {n : Nat} {l : Ledger} {a : Action} {atom atom' : Atom}
  {actions : Nat → Action}

/-- A cut world shows what the world shows. -/
theorem picture_eq_of_eq_cut (hw : Sound w) (hv : Sound v) (h : v = w.cut m) :
    hv.picture = hw.picture := by
  subst h
  rfl

/-- **The ledger along a cut run.** -/
theorem ledgerAt_cut (hw : Sound w) (hv : Sound (w.cut m)) (hm : m ≤ w.maxSteps)
    (h : ∀ i < n, ((w.cut m).after actions i).ended = false) (l : Ledger) :
    ∀ i ≤ n, ledgerAt l hv actions i = ledgerAt l hw actions i := by
  intro i hi
  induction i with
  | zero => rfl
  | succ i ih =>
    rw [ledgerAt, ledgerAt, ih (Nat.le_of_succ_le hi), ledgerAfter, ledgerAfter,
      picture_eq_of_eq_cut (hw.after actions i) (hv.after actions i)
        (hw.after_cut hm h i (Nat.le_of_succ_le hi)),
      picture_eq_of_eq_cut ((hw.after actions i).advance (actions i))
        ((hv.after actions i).advance (actions i)) (hw.after_cut hm h (i + 1) hi)]

/-- **The facts along a cut run.** -/
theorem factsAt_cut (A : Agent) (hw : Sound w) (hv : Sound (w.cut m)) (hm : m ≤ w.maxSteps)
    (h : ∀ i < n, ((w.cut m).after actions i).ended = false) (l : Ledger) :
    ∀ i ≤ n, A.factsAt l hv actions i = A.factsAt l hw actions i := by
  intro i hi
  have hafter := hw.after_cut hm h i hi
  rw [factsAt, factsAt, ledgerAt_cut hw hv hm h l i hi, factsOf, factsOf,
    picture_eq_of_eq_cut (hw.after actions i) (hv.after actions i) hafter, hafter]
  rfl

theorem Describes.unique {hw : Sound w} (h : A.Describes l hw a atom)
    (h' : A.Describes l hw a atom') : atom = atom' := by
  obtain ⟨source, warning?, hsource, hatom⟩ := h
  obtain ⟨source', warning?', hsource', hatom'⟩ := h'
  obtain rfl := Except.ok.inj (hsource.symm.trans hsource')
  rw [hatom] at hatom'
  cases hatom'
  rfl

theorem Describes.of_eq_cut {hw : Sound w} {hv : Sound v} (h : A.Describes l hv a atom)
    (hcut : v = w.cut m) (hnext : v.advance a = (w.advance a).cut m) : A.Describes l hw a atom := by
  obtain ⟨source, warning?, hsource, hatom⟩ := h
  rw [takings, picture_eq_of_eq_cut hw hv hcut,
    picture_eq_of_eq_cut (hw.advance a) (hv.advance a) hnext, hnext, hcut] at hatom
  rw [hcut] at hsource
  exact ⟨source, warning?, hsource, hatom⟩

end Agent

namespace Episode

open World Agent

variable {σ : Type} {D : Domain} {mode : Mode} {w : World} {hw : Sound w} {m : Int}
  {hv : Sound (w.cut m)} {draw : Draw σ} {s : σ} {n k : Nat} {atoms atoms' : Nat → Atom}

/-! ### Accounts -/

theorem states_account_take (hnk : n ≤ k) :
    (account D mode hw draw s n atoms).trace.states =
      (account D mode hw draw s k atoms).trace.states.take (n + 1) := by
  rw [account, account, ← List.map_take, List.take_range, Nat.min_eq_left (Nat.succ_le_succ hnk)]

theorem actions_account_take (hnk : n ≤ k) :
    (account D mode hw draw s n atoms).trace.actions =
      (account D mode hw draw s k atoms).trace.actions.take n := by
  rw [account, account, ← List.map_take, List.take_range, Nat.min_eq_left hnk]

/-- The atoms of two courses agree as long as the cut one goes on. -/
theorem Course.atoms_eq (h : Course D mode hv draw s n atoms) (h' : Course D mode hw draw s k atoms')
    (hm : m ≤ w.maxSteps) : ∀ i < n, atoms i = atoms' i := by
  intro i hi
  have hcut := hw.after_cut hm h.goes_on
  have hatom : (atStart D mode hw).Describes (ledgerAt (.ofDomain D) hv (draw.actionAt s) i)
      (hw.after (draw.actionAt s) i) (draw.actionAt s i) (atoms i) :=
    (h.narrates i).of_eq_cut (hcut i hi.le) (hcut (i + 1) hi)
  rw [ledgerAt_cut hw hv hm h.goes_on _ i hi.le] at hatom
  exact hatom.unique (h'.narrates i)

/-- **The trace of a cut course** is what the other one tells of as many turns. -/
theorem Course.trace_cut (h : Course D mode hv draw s n atoms)
    (h' : Course D mode hw draw s k atoms') (hm : m ≤ w.maxSteps) :
    (account D mode hv draw s n atoms).trace = (account D mode hw draw s n atoms').trace := by
  have hfacts : ∀ i ∈ List.range (n + 1),
      ((i : Int), (atStart D mode hv).factsAt (.ofDomain D) hv (draw.actionAt s) i) =
        ((i : Int), (atStart D mode hw).factsAt (.ofDomain D) hw (draw.actionAt s) i) := by
    intro i hi
    exact congrArg _ (factsAt_cut (atStart D mode hw) hw hv hm h.goes_on (.ofDomain D) i
      (Nat.le_of_lt_succ (List.mem_range.1 hi)))
  have hatoms : ∀ i ∈ List.range n, ((i : Int), atoms i) = ((i : Int), atoms' i) := by
    intro i hi
    rw [h.atoms_eq h' hm i (List.mem_range.1 hi)]
  rw [account, account, List.map_congr_left hfacts, List.map_congr_left hatoms]

/-! ### Episodes -/

/-- **A smaller cap only cuts an episode short.** Two games differ in the number of steps alone, and
they are played with the same draws and told in the same notation. The episode of the game with
fewer steps takes that many turns, or as many as the other episode if that is over before. Its
states and actions are the first ones of the other, labels included and the last state too, and its
ledger is the one that the other game has when it has been played for as many turns.

As for every episode, a level that machine arithmetic is used on has to have indices that a machine
can hold. -/
theorem exists_play_eq_ok_take (D : Domain) {g g' : Game}
    (hgame : g.toGameTables = { g'.toGameTables with maxSteps := g.maxSteps })
    (hle : g.maxSteps ≤ g'.maxSteps) (p : Precision) (hm : (World.ofGame g' p).Measurable)
    (settings settings' : Settings) (hmode : settings.mode = settings'.mode) (draw : Draw σ)
    (source : σ) :
    ∃ (A : Agent) (e e' : Episode) (q : Play σ),
      Agent.start D settings'.mode (World.ofGame g' p) = .ok A ∧
      play D settings draw (World.ofGame g p) source = .ok e ∧
      play D settings' draw (World.ofGame g' p) source = .ok e' ∧
      (e'.trace.states.length = e'.turns + 1 ∧ e'.trace.actions.length = e'.turns) ∧
      (e.turns : Int) = min g.maxSteps e'.turns ∧
      e.trace.states = e'.trace.states.take (e.turns + 1) ∧
      e.trace.actions = e'.trace.actions.take e.turns ∧
      (Play.start A settings' (World.ofGame g' p) source).turns A draw e.turns = .ok q ∧
      q.agent.recorder.turn = e.turns ∧ e.ledger = q.agent.ledger := by
  have hw := World.sound_ofGame g' p
  have hv := World.sound_ofGame g p
  have hmeasurable : (World.ofGame g p).Measurable := by
    rw [ofGame_eq_cut hgame p]
    exact hm
  have hended : (World.ofGame g p).ended = false := rfl
  rw [ofGame_eq_cut hgame p] at hv hmeasurable hended ⊢
  obtain ⟨n, atoms, hcourse⟩ :=
    exists_course D settings'.mode hv hmeasurable hended draw source
  obtain ⟨k, atoms', hcourse'⟩ := exists_course D settings'.mode hw hm rfl draw source
  have hn : n = min g.maxSteps.toNat k := hw.eq_min_of_ended_cut hle rfl hcourse'.ended
    hcourse'.goes_on hcourse.ended hcourse.goes_on
  have hnk : n ≤ k := hn ▸ Nat.min_le_right _ _
  have htrace := hcourse.trace_cut hcourse' hle
  obtain ⟨q, hq, hstands⟩ := hcourse'.turns settings' n
  rw [Nat.min_eq_left hnk] at hstands
  refine ⟨_, _, _, q, Agent.start_eq D settings'.mode hw, hcourse.play_eq hmode,
    hcourse'.play_eq rfl, ⟨by simp [account], by simp [account]⟩, ?_, ?_, ?_, hq,
    hstands.turn_eq, ?_⟩
  · have hpos := g.one_le_maxSteps
    change (n : Int) = min g.maxSteps (k : Int)
    omega
  · rw [htrace]
    exact states_account_take hnk
  · rw [htrace]
    exact actions_account_take hnk
  · rw [hstands.ledger]
    exact ledgerAt_cut hw hv hle hcourse.goes_on _ n le_rfl

/-- The passage, when one step is all that is allowed. The state in front of the gem is the last one
then. -/
theorem exists_play_passage_eq_ok_take :
    ((passage.capped 1 (Int.le_refl 1)).toGameTables = { passage.toGameTables with maxSteps := 1 } ∧
      (1 : Int) ≤ passage.maxSteps ∧ (World.ofGame passage .binary64).Measurable) ∧
      ∃ e e', play gemDomain .standard rightward
          (World.ofGame (passage.capped 1 (Int.le_refl 1)) .binary64) () = .ok e ∧
        play gemDomain .standard rightward (World.ofGame passage .binary64) () = .ok e' ∧
        e.turns = 1 ∧ e.trace.states = e'.trace.states.take 2 := by
  have hgame : (passage.capped 1 (Int.le_refl 1)).toGameTables =
      { passage.toGameTables with maxSteps := 1 } := rfl
  have hle : (1 : Int) ≤ passage.maxSteps := by decide
  have hm : (World.ofGame passage .binary64).Measurable := fun _ => by decide
  refine ⟨⟨hgame, hle, hm⟩, ?_⟩
  obtain ⟨A, e, e', q, -, hplay, hplay', -, hturns, hstates, -⟩ :=
    exists_play_eq_ok_take gemDomain hgame hle .binary64 hm .standard .standard rfl rightward ()
  have hpos := turns_pos (World.sound_ofGame passage .binary64) hm rfl hplay'
  have hone : e.turns = 1 := by
    change (e.turns : Int) = min 1 (e'.turns : Int) at hturns
    omega
  rw [hone] at hstates
  exact ⟨e, _, hplay, hplay', hone, hstates⟩

end Episode

end PlayTrace
