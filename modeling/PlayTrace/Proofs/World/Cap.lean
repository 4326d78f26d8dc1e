import PlayTrace.Proofs.World.Run
import PlayTrace.Proofs.World.Start

/-!
# The number of steps as a cap

The number of steps that a game may take is looked at in one place only, at the end of a step, to
see whether the time has run out. So two games that differ in nothing else go the same way until the
shorter one is over. `World.cut` is a world under another number of steps, and as long as the cut
world goes on, it goes on as the other one does: cutting and making a step can be exchanged.

## Main definitions

* `World.limit`, `World.cut` — a world with another number of steps

## Main results

* `World.Sound.advance_cut` — a step of a cut world
* `World.Sound.after_cut` — a run of a cut world
* `World.Sound.eq_min_of_ended_cut` — when a cut world ends
-/

namespace PlayTrace

namespace World

variable {w : World} {m : Int} {n k : Nat} {actions : Nat → Action}

/-- The world with another number of steps. -/
def limit (w : World) (m : Int) : World := { w with maxSteps := m }

/-- The world with another number of steps, at the same moment: it is over if the world is, or if
the time is up under that number. -/
def cut (w : World) (m : Int) : World :=
  { w.limit m with ended := w.ended || decide (m ≤ w.tick) }

theorem ended_cut (w : World) (m : Int) : (w.cut m).ended = (w.ended || decide (m ≤ w.tick)) := rfl

/-! ### Actions -/

theorem collect_limit (w : World) (m : Int) (found : List (Int × Sprite)) :
    (w.limit m).collect found = (w.collect found).limit m := by
  induction found generalizing w with
  | nil => rfl
  | cons e found ih =>
    exact ih
      { w with
        sprites := w.sprites.erase e.1
        inventory := w.inventory.insert e.2.key ((w.inventory.get? e.2.key).getD 0 + 1) }

theorem arrive_limit (w : World) (m : Int) (s : Sprite) (c : Cell) :
    (w.limit m).arrive s c = (w.arrive s c).limit m := by
  have hcollect := collect_limit
    { w with sprites := w.sprites.insert w.avatarId { s with cell := c } } m (w.loot c)
  have hgoal : (w.limit m).isGoal c = w.isGoal c := rfl
  unfold arrive
  rw [hgoal]
  split
  · exact congrArg (fun u : World => { u with won := true, ended := true }) hcollect
  · exact hcollect

theorem enter_limit {s : Sprite} (hs : w.avatar? = some s) (m : Int) (c : Cell) :
    (w.limit m).enter c = (w.enter c).limit m := by
  have hadmits : (w.limit m).admits c = w.admits c := rfl
  cases h : w.admits c with
  | true =>
    rw [enter_of_admits h hs, enter_of_admits (hadmits.trans h) hs, arrive_limit]
  | false => rw [enter_of_not_admits h, enter_of_not_admits (hadmits.trans h)]

/-- No action asks for the number of steps. -/
theorem perform_limit {s : Sprite} (hs : w.avatar? = some s) (m : Int) (a : Action) :
    (w.limit m).perform a = (w.perform a).limit m := by
  cases a with
  | use => rfl
  | move d =>
    have hs' : (w.limit m).avatar? = some s := hs
    have henter := enter_limit hs m (s.cell.neighbour d)
    simp only [perform, hs, hs', henter]
    change (if w.turnsTo d = true then _ else _) = limit (if w.turnsTo d = true then _ else _) m
    split <;> rfl

/-- Only the end of the time does. -/
theorem expire_limit (hm : m ≤ w.maxSteps) : (w.limit m).expire = w.expire.cut m := by
  have hended : (w.limit m).expire.ended = (w.expire.ended || decide (m ≤ w.tick)) := by
    have hlater : w.maxSteps ≤ w.tick → m ≤ w.tick := Int.le_trans hm
    rw [ended_expire, ended_expire, Bool.eq_iff_iff]
    simp only [Bool.or_eq_true, decide_eq_true_eq]
    change m ≤ w.tick ∨ w.ended = true ↔ _
    tauto
  rw [expire_eq (w.limit m), hended, cut, tick_expire, expire_eq w]
  rfl

/-! ### Steps -/

theorem cut_eq_limit (h : (w.cut m).ended = false) : w.cut m = w.limit m := by
  obtain ⟨hended, htime⟩ := Bool.or_eq_false_iff.1 h
  rw [cut, htime, Bool.or_false]
  rfl

/-- **A step of a cut world.** As long as it goes on, cutting a world and making a step can be
exchanged. -/
theorem Sound.advance_cut (hw : Sound w) (hm : m ≤ w.maxSteps) (h : (w.cut m).ended = false)
    (a : Action) : (w.cut m).advance a = (w.advance a).cut m := by
  obtain ⟨s, hs⟩ := hw.avatar
  have hended : w.ended = false := (Bool.or_eq_false_iff.1 h).1
  have hlimit : (w.limit m).ended = false := hended
  have hperform : (w.limit m).ticked.perform a = (w.ticked.perform a).limit m :=
    perform_limit (w := w.ticked) hs m a
  have hmax : (w.ticked.perform a).maxSteps = w.maxSteps :=
    (perform_effect (w := w.ticked) hs a).sameGame.maxSteps
  rw [cut_eq_limit h, advance_of_not_ended hlimit, hperform, expire_limit (by rwa [hmax]),
    advance_of_not_ended hended]

/-! ### Runs -/

/-- **A run of a cut world.** It goes the same way until it is over. -/
theorem Sound.after_cut (hw : Sound w) (hm : m ≤ w.maxSteps)
    (h : ∀ i < n, ((w.cut m).after actions i).ended = false) :
    ∀ i ≤ n, (w.cut m).after actions i = (w.after actions i).cut m := by
  intro i hi
  induction i with
  | zero => rfl
  | succ i ih =>
    have hprev := ih (Nat.le_of_succ_le hi)
    have hmax : m ≤ (w.after actions i).maxSteps := by
      rwa [(hw.sameGame_after actions i).maxSteps]
    have hgoes := h i hi
    rw [hprev] at hgoes
    rw [after_succ, hprev, (hw.after actions i).advance_cut hmax hgoes]
    rfl

/-- Whether a cut world is over after a number of steps that it goes on for. -/
theorem Sound.ended_after_cut (hw : Sound w) (hm : m ≤ w.maxSteps) (htick : w.tick = 0)
    (h : ∀ i < n, ((w.cut m).after actions i).ended = false) :
    ∀ i ≤ n, ((w.cut m).after actions i).ended =
      ((w.after actions i).ended || decide (m ≤ i)) := by
  have hafter := hw.after_cut hm h
  have hgoes : ∀ i < n, (w.after actions i).ended = false := by
    intro i hi
    have hboth := h i hi
    rw [hafter i hi.le] at hboth
    exact (Bool.or_eq_false_iff.1 hboth).1
  intro i hi
  have htime : (w.after actions i).tick = i := by
    rw [hw.tick_after fun j hj => hgoes j (hj.trans_le hi), htick, Nat.zero_add]
  rw [hafter i hi, ended_cut, htime]

/-- **The end of a cut world** comes when the other one ends or when the time is up, whichever is
earlier. -/
theorem Sound.eq_min_of_ended_cut (hw : Sound w) (hm : m ≤ w.maxSteps) (htick : w.tick = 0)
    (hend : (w.after actions k).ended = true) (hgoes : ∀ i < k, (w.after actions i).ended = false)
    (hcut : ((w.cut m).after actions n).ended = true)
    (hgoesCut : ∀ i < n, ((w.cut m).after actions i).ended = false) :
    n = min m.toNat k := by
  have hended := hw.ended_after_cut hm htick hgoesCut
  have hbefore : ∀ i < n, (w.after actions i).ended = false ∧ ¬ m ≤ i := by
    intro i hi
    have hboth := hgoesCut i hi
    rw [hended i hi.le, Bool.or_eq_false_iff, decide_eq_false_iff_not] at hboth
    exact hboth
  have hlek : n ≤ k := by
    by_contra hlt
    rw [(hbefore k (Nat.lt_of_not_le hlt)).1] at hend
    cases hend
  have hlem : n ≤ m.toNat := by
    rcases Nat.eq_zero_or_pos n with rfl | hpos
    · exact Nat.zero_le _
    · have hlt := (hbefore (n - 1) (by omega)).2
      omega
  rw [hended n le_rfl, Bool.or_eq_true, decide_eq_true_eq] at hcut
  rcases hcut with hover | hup
  · have hle : k ≤ n := by
      by_contra hlt
      rw [hgoes n (Nat.lt_of_not_le hlt)] at hover
      cases hover
    omega
  · omega

/-! ### Games -/

theorem rowSprites_congr {t t' : GameTables} (h : t.legend = t'.legend) (y x : Nat)
    (cs : List Char) : rowSprites t y x cs = rowSprites t' y x cs := by
  induction cs generalizing x with
  | nil => rfl
  | cons c cs ih => rw [rowSprites, rowSprites, ih, GameTables.keysOf, GameTables.keysOf, h]

/-- The sprites of a level are those of the legend. -/
theorem levelSprites_congr {t t' : GameTables} (h : t.legend = t'.legend) (y : Nat)
    (rows : List String) : levelSprites t y rows = levelSprites t' y rows := by
  induction rows generalizing y with
  | nil => rfl
  | cons row rows ih => rw [levelSprites, levelSprites, ih, rowSprites_congr h]

theorem ofGame_capped (g : Game) (h : 1 ≤ m) (p : Precision) :
    ofGame (g.capped m h) p = (ofGame g p).limit m := by
  have hlegend : (g.capped m h).toGameTables.legend = g.legend := rfl
  have hsprites : numberedSprites (g.capped m h).toGameTables = numberedSprites g.toGameTables :=
    congrArg (number 0) (levelSprites_congr hlegend 0 g.level)
  simp only [ofGame, hsprites]
  rfl

/-- Two games that differ in nothing but the number of steps begin alike. -/
theorem ofGame_eq_cut {g g' : Game}
    (hgame : g.toGameTables = { g'.toGameTables with maxSteps := g.maxSteps }) (p : Precision) :
    ofGame g p = (ofGame g' p).cut g.maxSteps := by
  have hpos := g.one_le_maxSteps
  have hgoes : ((ofGame g' p).cut g.maxSteps).ended = false := by
    refine Bool.or_eq_false_iff.2 ⟨rfl, decide_eq_false ?_⟩
    change ¬ g.maxSteps ≤ ((0 : Nat) : Int)
    omega
  have hcapped : g = g'.capped g.maxSteps hpos := by
    obtain ⟨tables, hconsistent⟩ := g
    simp only [Game.capped, ← hgame]
  rw [cut_eq_limit hgoes, ← ofGame_capped g' hpos, ← hcapped]

end World

end PlayTrace
