import PlayTrace.Proofs.World.Run
import PlayTrace.Proofs.World.Start

/-!
# What a world remembers of its steps

A world does not keep its past, but much of it can be read off: how many steps were made, which way
the last action in a direction went, whether the last step reached a goal, and which resources have
changed from the world into the inventory. `World.Chronicle` says all of this of a world and the
steps that have led to it. The steps are those actions that found the game still going on; each is
recorded with the world that it was made in.

A step leaves the sprites alone or it is a move, and most parts of the chronicle only have to look
at the move. Nothing is assumed of the sprites, so one and the same sprite may be solid, a resource
and a goal, and a goal may be reached in the very step in which the time runs out.

## Main definitions

* `World.run`, `World.steps` — the world after a list of actions, and the steps made under them
* `World.Brings`, `World.Step.Enters` — a step takes the avatar to another cell
* `World.Chronicle` — what a world has of the steps that have led to it

## Main results

* `World.Effect.won_iff`, `Effect.clear`, `Effect.orientation_eq` — what one step says
* `World.Chronicle.advance` — one step
* `World.Chronicle.run` — any list of actions
* `World.chronicle_run_ofGame` — every world that a game can come to
-/

namespace PlayTrace

namespace World

variable {w v w₀ : World} {a : Action} {s : Sprite} {c : Cell}

/-! ### Steps -/

/-- The world after a list of actions. -/
def run (w : World) (actions : List Action) : World := actions.foldl advance w

/-- The first actions of a sequence, as a list. -/
theorem after_eq_run (w : World) (actions : Nat → Action) (n : Nat) :
    w.after actions n = w.run ((List.range n).map actions) := by
  induction n with
  | zero => rfl
  | succ n ih =>
    rw [after_succ, ih, List.range_succ, List.map_append, run, run, List.foldl_append]
    rfl

/-- A step that a world makes. -/
structure Step where
  /-- the world that makes the step -/
  world : World
  action : Action

/-- From one world to another the avatar has come to the cell `c`, where it was not before. -/
def Brings (w v : World) (c : Cell) : Prop :=
  ∃ s s', w.avatar? = some s ∧ v.avatar? = some s' ∧ s.cell ≠ c ∧ s'.cell = c

/-- A step takes the avatar to the cell `c`. -/
def Step.Enters (t : Step) (c : Cell) : Prop := Brings t.world (t.world.advance t.action) c

/-- The steps that a world makes under a list of actions. Where the game is over, an action is no
step. -/
def steps (w : World) : List Action → List Step
  | [] => []
  | a :: as =>
    if w.ended then steps (w.advance a) as else ⟨w, a⟩ :: steps (w.advance a) as

/-- The last direction in which an action went. -/
def lastDirection? (ts : List Step) : Option Direction :=
  (ts.filterMap fun t => t.action.direction?).getLast?

/-- **What a world has of the steps that have led to it** from a world that is at its beginning. -/
structure Chronicle (w₀ : World) (ts : List Step) (w : World) : Prop where
  /-- it is the same game -/
  sameGame : SameGame w₀ w
  /-- the avatar is still there, under its number and with its key -/
  avatar : ∃ s₀ s, w₀.avatar? = some s₀ ∧ w.avatar? = some s ∧ s.key = s₀.key
  /-- no sprite lies outside -/
  inside : ∀ e ∈ w.sprites.entries,
    (0 ≤ e.2.cell.x ∧ e.2.cell.x < w₀.width) ∧ 0 ≤ e.2.cell.y ∧ e.2.cell.y < w₀.height
  /-- whatever is left but the avatar has the number, the key and the cell that it had -/
  kept : ∀ e ∈ w.sprites.entries, e.1 ≠ w₀.avatarId → e ∈ w₀.sprites.entries
  /-- whatever is missing is a resource -/
  missing : ∀ e ∈ w₀.sprites.entries, e.1 ∉ w.sprites.keys → e.2.key ∈ w₀.resources
  /-- whatever is missing is in the inventory -/
  counts : ∀ key, w₀.keyCount key = w.keyCount key + w.held key
  /-- only resources are in the inventory -/
  held : ∀ key, key ∉ w₀.resources → w.held key = 0
  /-- every step has taken one unit of time -/
  tick_eq : w.tick = ts.length
  tick_le : (w.tick : Int) ≤ w₀.maxSteps
  /-- the game is over when it is won and when its time is up, and only then -/
  ended_iff : w.ended = true ↔ w.won = true ∨ (w.tick : Int) = w₀.maxSteps
  /-- the game is won when the last step has taken the avatar to a goal -/
  won_iff : w.won = true ↔
    ∃ t c, ts.getLast? = some t ∧ t.Enters c ∧ ∃ e ∈ t.world.spritesAt c, e.2.key ∈ w₀.goals
  /-- where the avatar has come to, nothing else is solid or a resource -/
  clear : ∀ t ∈ ts, ∀ c, t.Enters c → ∀ s, w.avatar? = some s → ∀ e ∈ w.spritesAt s.cell,
    e.1 ≠ w₀.avatarId → e.2.key ∉ w₀.solids ∧ e.2.key ∉ w₀.resources
  /-- the avatar looks in the last direction, if it turns at all -/
  orientation : w.orientation =
    if w₀.rotateInPlace then ((lastDirection? ts).map .ofDirection).getD w₀.orientation
    else w₀.orientation

/-! ### The parts of a step -/

theorem brings_arrive_iff (hs : w.avatar? = some s) (hne : s.cell ≠ c) {c' : Cell} :
    Brings w (w.arrive s c) c' ↔ c' = c := by
  have hmoved := avatar?_arrive hs hne
  constructor
  · rintro ⟨t, t', -, ht', -, rfl⟩
    rw [Option.some.inj (ht'.symm.trans hmoved)]
  · rintro rfl
    exact ⟨s, _, hs, hmoved, hne, rfl⟩

/-- Where the avatar is as before it has not come. -/
theorem not_brings (h : v.avatar? = w.avatar?) (c : Cell) : ¬ Brings w v c := by
  rintro ⟨s, s', hs, hs', hne, hcell⟩
  rw [h, hs] at hs'
  exact hne (Option.some.inj hs' ▸ hcell)

theorem Effect.exists_avatar (h : Effect w a v) (hs : w.avatar? = some s) :
    ∃ s', v.avatar? = some s' ∧ s'.key = s.key := by
  rcases h.stays_or_arrives with hv | ⟨d, t, -, ht, -, rfl⟩
  · rw [hv]
    exact ⟨s, hs, rfl⟩
  · obtain rfl : s = t := Option.some.inj (hs.symm.trans ht)
    exact ⟨_, avatar?_arrive hs (Cell.neighbour_ne s.cell d).symm, rfl⟩

/-- No sprite but the avatar changes. -/
theorem Effect.kept (h : Effect w a v) {e : Int × Sprite} (he : e ∈ v.sprites.entries)
    (hne : e.1 ≠ w.avatarId) : e ∈ w.sprites.entries := by
  rcases h.stays_or_arrives with hv | ⟨d, s, -, hs, -, rfl⟩
  · rw [hv] at he
    exact he
  · exact (mem_entries_of_mem_arrive hs he hne).1

/-- Only resources go missing. -/
theorem Effect.missing (h : Effect w a v) {e : Int × Sprite} (he : e ∈ w.sprites.entries)
    (hnot : e.1 ∉ v.sprites.keys) : e.2.key ∈ w.resources := by
  rcases h.stays_or_arrives with hv | ⟨d, s, -, hs, -, rfl⟩
  · rw [hv] at hnot
    exact absurd (Table.mem_keys_of_mem he) hnot
  · cases hloot : w.isLoot (s.cell.neighbour d) e with
    | true => exact List.contains_iff_mem.1 (Bool.and_eq_true_iff.1 hloot).2
    | false => exact absurd (mem_keys_arrive hs he hloot) hnot

/-- An action ends the game by winning it. -/
theorem Effect.ended_eq_won (h : Effect w a v) (hended : w.ended = false) (hwon : w.won = false) :
    v.ended = v.won := by
  rcases h.stays_or_arrives with hv | ⟨d, s, -, hs, -, rfl⟩
  · rw [hv]
    exact hended.trans hwon.symm
  · obtain ⟨hwon', hended'⟩ := won_arrive w s (s.cell.neighbour d)
    rw [hwon', hended', hwon, hended]

/-- An action wins the game by taking the avatar to a goal. -/
theorem Effect.won_iff (h : Effect w a v) (hwon : w.won = false) :
    v.won = true ↔ ∃ c, Brings w v c ∧ ∃ e ∈ w.spritesAt c, e.2.key ∈ w.goals := by
  rcases h.stays_or_arrives with hv | ⟨d, s, -, hs, -, rfl⟩
  · have havatar : v.avatar? = w.avatar? := by rw [hv]; rfl
    have hwon' : v.won = false := by rw [hv]; exact hwon
    rw [hwon']
    constructor
    · exact fun h => absurd h Bool.false_ne_true
    · rintro ⟨c, hc, -⟩
      exact absurd hc (not_brings havatar c)
  · have hne := (Cell.neighbour_ne s.cell d).symm
    rw [(won_arrive w s _).1, hwon, Bool.or_false]
    simp only [brings_arrive_iff hs hne, exists_eq_left, isGoal, List.any_eq_true,
      List.contains_iff_mem]

/-- Where an action takes the avatar, nothing else is solid or a resource. -/
theorem Effect.clear (h : Effect w a v) (hc : Brings w v c) {e : Int × Sprite}
    (he : e ∈ v.sprites.entries) (hcell : e.2.cell = c) (hne : e.1 ≠ w.avatarId) :
    e.2.key ∉ w.solids ∧ e.2.key ∉ w.resources := by
  rcases h.stays_or_arrives with hv | ⟨d, s, -, hs, hadmits, rfl⟩
  · exact absurd hc (not_brings (by rw [hv]; rfl) c)
  · obtain rfl := (brings_arrive_iff hs (Cell.neighbour_ne s.cell d).symm).1 hc
    obtain ⟨hmem, hloot⟩ := mem_entries_of_mem_arrive hs he hne
    have hsolid := (Bool.and_eq_true_iff.1 hadmits).2
    rw [spritesAt, Bool.not_eq_true', List.any_eq_false] at hsolid
    have hhere : e ∈ w.sprites.entries.filter fun e => e.2.cell = s.cell.neighbour d :=
      List.mem_filter.2 ⟨hmem, decide_eq_true hcell⟩
    refine ⟨fun hin => hsolid e hhere (List.contains_iff_mem.2 hin), fun hin => ?_⟩
    rw [isLoot, decide_eq_true hcell, List.contains_iff_mem.2 hin] at hloot
    cases hloot

/-- Unless an action brings the avatar to a cell, all sprites are as before. -/
theorem Effect.sprites_eq_or_brings (h : Effect w a v) :
    v.sprites = w.sprites ∨ ∃ c, Brings w v c := by
  rcases h.stays_or_arrives with hv | ⟨d, s, -, hs, -, rfl⟩
  · left
    rw [hv]
  · right
    exact ⟨_, (brings_arrive_iff hs (Cell.neighbour_ne s.cell d).symm).2 rfl⟩

/-- An avatar that need not turn looks in the direction already. -/
theorem orientation_eq_of_not_turnsTo (hfaces : ∃ o, w.orientation = .ofDirection o)
    (hrotate : w.rotateInPlace = true) {d : Direction} (h : w.turnsTo d = false) :
    w.orientation = .ofDirection d := by
  obtain ⟨o, ho⟩ := hfaces
  rw [turnsTo, hrotate, Bool.true_and, Bool.not_eq_false', ho, Orientation.isSame_ofDirection,
    decide_eq_true_iff] at h
  rw [ho, h]

/-- After an action in a direction, an avatar that turns looks in that direction. -/
theorem Effect.orientation_eq (h : Effect w a v) (hfaces : ∃ o, w.orientation = .ofDirection o) :
    v.orientation =
      if w.rotateInPlace then (a.direction?.map .ofDirection).getD w.orientation
      else w.orientation := by
  cases hrotate : w.rotateInPlace with
  | false =>
    cases h with
    | use => rfl
    | turn d h => rw [turnsTo, hrotate] at h; cases h
    | blocked d s h hs hblocked => rfl
    | moved d s h hs hadmits => exact orientation_arrive w s _
  | true =>
    cases h with
    | use => rfl
    | turn d h => rfl
    | blocked d s h hs hblocked => exact orientation_eq_of_not_turnsTo hfaces hrotate h
    | moved d s h hs hadmits =>
      rw [orientation_arrive]
      exact orientation_eq_of_not_turnsTo hfaces hrotate h

/-! ### The chronicle -/

/-- A world at its beginning: nothing has happened, and there is time for a step. -/
structure Fresh (w : World) : Prop where
  sound : Sound w
  tick : w.tick = 0
  won : w.won = false
  ended : w.ended = false
  held : ∀ key, w.held key = 0
  maxSteps : 1 ≤ w.maxSteps

theorem Fresh.chronicle (hw : Fresh w) : Chronicle w [] w where
  sameGame := .refl w
  avatar := by
    obtain ⟨s, hs⟩ := hw.sound.avatar
    exact ⟨s, s, hs, hs, rfl⟩
  inside := fun e he => inBounds_iff.1 (hw.sound.inside e he)
  kept := fun _ he _ => he
  missing := fun _ he hnot => absurd (Table.mem_keys_of_mem he) hnot
  counts := fun key => by rw [hw.held, Nat.add_zero]
  held := fun key _ => hw.held key
  tick_eq := hw.tick
  tick_le := by
    have hmax := hw.maxSteps
    rw [hw.tick]
    omega
  ended_iff := by
    have hmax := hw.maxSteps
    rw [hw.ended, hw.won, hw.tick]
    simp only [Bool.false_eq_true, false_or, false_iff]
    omega
  won_iff := by simp [hw.won]
  clear := by simp
  orientation := by
    rw [lastDirection?]
    split <;> rfl

theorem lastDirection?_append_singleton (ts : List Step) (t : Step) :
    lastDirection? (ts ++ [t]) = t.action.direction?.or (lastDirection? ts) := by
  rw [lastDirection?, List.filterMap_append]
  cases h : t.action.direction? <;> simp [h, lastDirection?]

section Advance

variable {ts : List Step}

/-- A game that goes on is not won, and there is time for another step. -/
theorem Chronicle.of_not_ended (h : Chronicle w₀ ts w) (hended : w.ended = false) :
    w.won = false ∧ (w.tick : Int) < w₀.maxSteps := by
  have hnot : ¬ (w.won = true ∨ (w.tick : Int) = w₀.maxSteps) := by
    rw [← h.ended_iff, hended]
    exact Bool.false_ne_true
  rw [not_or] at hnot
  have hle := h.tick_le
  exact ⟨Bool.eq_false_iff.2 hnot.1, by omega⟩

theorem Chronicle.sameGame_effect (h : Chronicle w₀ ts w) (hv : Effect w.ticked a v) :
    SameGame w₀ v :=
  (h.sameGame.trans (sameGame_ticked w)).trans hv.sameGame

theorem Chronicle.missing_effect (h : Chronicle w₀ ts w) (hv : Effect w.ticked a v)
    {e : Int × Sprite} (he : e ∈ w₀.sprites.entries) (hnot : e.1 ∉ v.sprites.keys) :
    e.2.key ∈ w₀.resources := by
  by_cases hkey : e.1 ∈ w.sprites.keys
  · obtain ⟨s₀, s, -, hs, -⟩ := h.avatar
    obtain ⟨s', hs', -⟩ := hv.exists_avatar hs
    have hne : e.1 ≠ w₀.avatarId := by
      intro hid
      have hmem := Table.mem_keys_of_mem (mem_entries_of_avatar? hs')
      rw [(h.sameGame_effect hv).avatarId, ← hid] at hmem
      exact hnot hmem
    obtain ⟨f, hf, hfe⟩ := List.mem_map.1 hkey
    obtain rfl : f = e := Table.entry_ext (h.kept f hf (hfe ▸ hne)) he hfe
    rw [← h.sameGame.resources]
    exact hv.missing hf hnot
  · exact h.missing e he hkey

theorem Chronicle.clear_effect (h : Chronicle w₀ ts w) (hv : Effect w.ticked a v)
    (hentered : (∃ t ∈ ts, ∃ c, t.Enters c) ∨ ∃ c, Brings w v c) (hs : v.avatar? = some s)
    {e : Int × Sprite} (he : e ∈ v.sprites.entries) (hcell : e.2.cell = s.cell)
    (hne : e.1 ≠ w₀.avatarId) : e.2.key ∉ w₀.solids ∧ e.2.key ∉ w₀.resources := by
  by_cases hbrings : ∃ c, Brings w v c
  · obtain ⟨c, hc⟩ := hbrings
    have hsc : s.cell = c := by
      obtain ⟨-, s', -, hs', -, rfl⟩ := hc
      rw [Option.some.inj (hs.symm.trans hs')]
    rw [← h.sameGame.avatarId] at hne
    rw [← h.sameGame.solids, ← h.sameGame.resources]
    exact hv.clear hc he (hcell.trans hsc) hne
  · obtain ⟨t, ht, c, hc⟩ := hentered.resolve_right hbrings
    have hsprites : v.sprites = w.sprites := hv.sprites_eq_or_brings.resolve_right hbrings
    have hs' : w.avatar? = some s := by
      rw [avatar?, ← hsprites, h.sameGame.avatarId, ← (h.sameGame_effect hv).avatarId]
      exact hs
    rw [hsprites] at he
    exact h.clear t ht c hc s hs' e (List.mem_filter.2 ⟨he, decide_eq_true hcell⟩) hne

theorem Chronicle.orientation_effect (h : Chronicle w₀ ts w) (hv : Effect w.ticked a v)
    (hfaces : ∃ o, w.orientation = .ofDirection o) : v.orientation =
      if w₀.rotateInPlace then
        ((lastDirection? (ts ++ [⟨w, a⟩])).map .ofDirection).getD w₀.orientation
      else w₀.orientation := by
  have hstep : v.orientation =
      if w.rotateInPlace then (a.direction?.map .ofDirection).getD w.orientation
      else w.orientation := hv.orientation_eq hfaces
  rw [hstep, h.sameGame.rotateInPlace, h.orientation, lastDirection?_append_singleton]
  cases w₀.rotateInPlace with
  | false => rfl
  | true => cases a.direction? <;> rfl

/-- **One step.** -/
theorem Chronicle.advance (h : Chronicle w₀ ts w) (hw : Sound w) (hended : w.ended = false)
    (a : Action) : Chronicle w₀ (ts ++ [⟨w, a⟩]) (w.advance a) := by
  obtain ⟨hnotWon, htime⟩ := h.of_not_ended hended
  have hticked := hw.tick_advance hended a
  obtain ⟨v, hv, hadvance⟩ := hw.exists_effect hended a
  have hsame := h.sameGame_effect hv
  have hbrings : ∀ c, Step.Enters ⟨w, a⟩ c ↔ Brings w v c := by
    intro c
    rw [Step.Enters, hadvance, Brings, avatar?_expire]
    rfl
  have hcounts := hw.advance_counts a
  refine ⟨h.sameGame.trans (hw.sameGame_advance a), ?avatar, ?inside, ?kept, ?missing, ?counts,
    ?held, ?tick_eq, ?tick_le, ?ended_iff, ?won_iff, ?clear, ?orientation⟩
  case avatar =>
    obtain ⟨s₀, s, hs₀, hs, hkey⟩ := h.avatar
    obtain ⟨s', hs', hkey'⟩ := hv.exists_avatar hs
    exact ⟨s₀, s', hs₀, by rw [hadvance, avatar?_expire, hs'], hkey'.trans hkey⟩
  case inside =>
    intro e he
    rw [← (h.sameGame.trans (hw.sameGame_advance a)).width,
      ← (h.sameGame.trans (hw.sameGame_advance a)).height]
    exact inBounds_iff.1 ((hw.advance a).inside e he)
  case kept =>
    intro e he hne
    rw [hadvance, sprites_expire] at he
    exact h.kept e (hv.kept he (by rwa [← h.sameGame.avatarId] at hne)) hne
  case missing =>
    intro e he hnot
    rw [hadvance, sprites_expire] at hnot
    exact h.missing_effect hv he hnot
  case counts =>
    intro key
    rw [h.counts key, (hcounts key).1]
  case held =>
    intro key hkey
    rw [(hcounts key).2.2 (by rwa [h.sameGame.resources]), h.held key hkey]
  case tick_eq => rw [hticked, h.tick_eq, List.length_append, List.length_singleton]
  case tick_le =>
    rw [hticked]
    push_cast
    omega
  case ended_iff =>
    have hexpire : (w.advance a).ended = true ↔ w₀.maxSteps ≤ v.tick ∨ v.ended = true := by
      rw [hadvance, ended_expire, hsame.maxSteps, Bool.or_eq_true, decide_eq_true_iff]
    have hwon : v.ended = v.won := hv.ended_eq_won hended hnotWon
    have htick : v.tick = w.tick + 1 := hv.tick_eq
    rw [hexpire, hwon, hadvance, won_expire, tick_expire, htick, or_comm]
    push_cast
    exact or_congr_right (by omega)
  case won_iff =>
    have hwon : v.won = true ↔ ∃ c, Brings w v c ∧ ∃ e ∈ w.spritesAt c, e.2.key ∈ w.goals :=
      hv.won_iff hnotWon
    rw [hadvance, won_expire, hwon, h.sameGame.goals, List.getLast?_concat]
    constructor
    · rintro ⟨c, hc, hgoal⟩
      exact ⟨⟨w, a⟩, c, rfl, (hbrings c).2 hc, hgoal⟩
    · rintro ⟨t, c, ht, hc, hgoal⟩
      obtain rfl := Option.some.inj ht
      exact ⟨c, (hbrings c).1 hc, hgoal⟩
  case clear =>
    intro t ht c hc s hs e he hne
    rw [hadvance, avatar?_expire] at hs
    obtain ⟨hmem, hcell⟩ := List.mem_filter.1 he
    rw [hadvance, sprites_expire] at hmem
    refine h.clear_effect hv ?_ hs hmem (of_decide_eq_true hcell) hne
    rcases List.mem_append.1 ht with ht | ht
    · exact .inl ⟨t, ht, c, hc⟩
    · rw [List.mem_singleton.1 ht] at hc
      exact .inr ⟨c, (hbrings c).1 hc⟩
  case orientation =>
    rw [hadvance, orientation_expire]
    exact h.orientation_effect hv hw.faces

/-- **Any list of actions.** -/
theorem Chronicle.run (h : Chronicle w₀ ts w) (hw : Sound w) (actions : List Action) :
    Chronicle w₀ (ts ++ w.steps actions) (w.run actions) := by
  induction actions generalizing ts w with
  | nil => rwa [steps, List.append_nil]
  | cons a actions ih =>
    rw [steps]
    cases hended : w.ended with
    | true =>
      have hsame := advance_of_ended hended a
      have hrest := ih (h := hsame.symm ▸ h) (hsame.symm ▸ hw)
      exact hrest
    | false =>
      have hrest := ih (h.advance hw hended a) (hw.advance a)
      rw [List.append_assoc] at hrest
      exact hrest

end Advance

/-! ### Games -/

theorem fresh_ofGame (g : Game) (p : Precision) : Fresh (ofGame g p) :=
  ⟨sound_ofGame g p, rfl, rfl, rfl, held_ofGame g p, g.one_le_maxSteps⟩

/-- **Every world that a game can come to** has the chronicle of its steps. -/
theorem chronicle_run_ofGame (g : Game) (p : Precision) (actions : List Action) :
    Chronicle (ofGame g p) ((ofGame g p).steps actions) ((ofGame g p).run actions) :=
  (fresh_ofGame g p).chronicle.run (sound_ofGame g p) actions

end World

end PlayTrace
