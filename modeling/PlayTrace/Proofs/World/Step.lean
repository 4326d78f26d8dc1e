import PlayTrace.Proofs.Table
import PlayTrace.World.Basic

/-!
# What a step can do

A step has many ends: the game may be over already, the action may be a use, it may turn the avatar,
the way may be blocked by the edge of the world or by something solid, or the avatar moves, collects
what it finds, and perhaps wins; and at last the time may have run out. `World.Effect` lists what a
step can do besides taking time, with one case for each kind of end. Everything that is kept by a
step is proved case by case from it, and the step itself is not opened again.

## Main definitions

* `World.SameGame` — what no step changes
* `World.admits`, `World.loot`, `World.arrive` — the parts of a move
* `World.Effect` — what an action does to a world

## Main results

* `World.arrive_eq`, `expire_eq` — which fields a move and the end of the time change
* `World.perform_effect`, `World.advance_of_not_ended` — a step is an effect, and then time
* `World.Effect.stays_or_arrives` — only a move touches the sprites
* `World.Effect.sameGame` — no effect changes the game
-/

namespace PlayTrace

namespace World

variable {w v u : World} {a : Action}

/-! ### The parts of a move -/

/-- Whether the avatar may enter a cell: it lies inside the world and holds nothing solid. -/
def admits (w : World) (c : Cell) : Bool :=
  w.inBounds c && !(w.spritesAt c).any fun e => w.solids.contains e.2.key

/-- The resources in a cell. -/
def loot (w : World) (c : Cell) : List (Int × Sprite) :=
  (w.spritesAt c).filter fun e => w.resources.contains e.2.key

/-- Whether a cell holds a goal. -/
def isGoal (w : World) (c : Cell) : Bool :=
  (w.spritesAt c).any fun e => w.goals.contains e.2.key

/-- The world after the avatar, as which `s` stands, has moved to a cell. -/
def arrive (w : World) (s : Sprite) (c : Cell) : World :=
  let moved := { w with sprites := w.sprites.insert w.avatarId { s with cell := c } }
  let collected := moved.collect (w.loot c)
  if w.isGoal c then { collected with won := true, ended := true } else collected

/-- Whether an action in a direction only turns the avatar. -/
def turnsTo (w : World) (d : Direction) : Bool :=
  w.rotateInPlace && !(Orientation.ofDirection d).isSame w.orientation

/-- Collecting changes the sprites and the inventory only. -/
theorem collect_eq (w : World) (found : List (Int × Sprite)) :
    w.collect found =
      { w with
        sprites := (w.collect found).sprites
        inventory := (w.collect found).inventory } := by
  induction found generalizing w with
  | nil => rfl
  | cons e found ih => exact ih _

/-- Moving changes the sprites and the inventory, and it may win the game. -/
theorem arrive_eq (w : World) (s : Sprite) (c : Cell) :
    w.arrive s c =
      { w with
        sprites := (w.arrive s c).sprites
        inventory := (w.arrive s c).inventory
        won := (w.arrive s c).won
        ended := (w.arrive s c).ended } := by
  simp only [arrive]
  rw [collect_eq]
  split <;> rfl

theorem orientation_arrive (w : World) (s : Sprite) (c : Cell) :
    (w.arrive s c).orientation = w.orientation := by
  rw [arrive_eq]

theorem tick_arrive (w : World) (s : Sprite) (c : Cell) : (w.arrive s c).tick = w.tick := by
  rw [arrive_eq]

/-- Reaching a goal wins the game and ends it. -/
theorem won_arrive (w : World) (s : Sprite) (c : Cell) :
    (w.arrive s c).won = (w.isGoal c || w.won) ∧
      (w.arrive s c).ended = (w.isGoal c || w.ended) := by
  simp only [arrive]
  split
  · rename_i hgoal
    rw [hgoal]
    exact ⟨rfl, rfl⟩
  · rename_i hgoal
    rw [collect_eq, Bool.eq_false_iff.2 hgoal]
    exact ⟨rfl, rfl⟩

/-! ### Actions -/

/-- What an action does to a world, besides taking time. -/
inductive Effect (w : World) : Action → World → Prop where
  | use : Effect w .use w
  | turn (d : Direction) (h : w.turnsTo d = true) :
    Effect w (.move d) { w with orientation := .ofDirection d }
  | blocked (d : Direction) (s : Sprite) (h : w.turnsTo d = false) (hs : w.avatar? = some s)
    (hblocked : w.admits (s.cell.neighbour d) = false) : Effect w (.move d) w
  | moved (d : Direction) (s : Sprite) (h : w.turnsTo d = false) (hs : w.avatar? = some s)
    (hadmits : w.admits (s.cell.neighbour d) = true) :
    Effect w (.move d) (w.arrive s (s.cell.neighbour d))

theorem enter_of_not_admits {c : Cell} (h : w.admits c = false) : w.enter c = w := by
  have hcond :
      (!w.inBounds c || (w.spritesAt c).any fun e => w.solids.contains e.2.key) = true := by
    rw [admits] at h
    revert h
    cases w.inBounds c <;> simp
  rw [enter]
  exact if_pos hcond

theorem enter_of_admits {c : Cell} {s : Sprite} (h : w.admits c = true) (hs : w.avatar? = some s) :
    w.enter c = w.arrive s c := by
  have hcond :
      (!w.inBounds c || (w.spritesAt c).any fun e => w.solids.contains e.2.key) = false := by
    rw [admits] at h
    revert h
    cases w.inBounds c <;> simp
  simp only [enter, hcond, hs, arrive, loot, isGoal]
  rfl

/-- **What an action can do.** -/
theorem perform_effect {s : Sprite} (hs : w.avatar? = some s) (a : Action) :
    Effect w a (w.perform a) := by
  cases a with
  | use => exact .use
  | move d =>
    cases hturn : w.turnsTo d with
    | true =>
      have hperform : w.perform (.move d) = { w with orientation := .ofDirection d } := by
        simp only [perform]
        exact if_pos hturn
      rw [hperform]
      exact .turn d hturn
    | false =>
      have hperform : w.perform (.move d) = w.enter (s.cell.neighbour d) := by
        simp only [perform, hs]
        exact if_neg (by rw [← turnsTo, hturn]; decide)
      rw [hperform]
      cases hadmits : w.admits (s.cell.neighbour d) with
      | true =>
        rw [enter_of_admits hadmits hs]
        exact .moved d s hturn hs hadmits
      | false =>
        rw [enter_of_not_admits hadmits]
        exact .blocked d s hturn hs hadmits

/-- An action leaves everything but the orientation as it is, or it is a move. -/
theorem Effect.stays_or_arrives (h : Effect w a v) :
    v = { w with orientation := v.orientation } ∨
      ∃ d s, a = .move d ∧ w.avatar? = some s ∧ w.admits (s.cell.neighbour d) = true ∧
        v = w.arrive s (s.cell.neighbour d) := by
  cases h with
  | use => exact .inl rfl
  | turn d h => exact .inl rfl
  | blocked d s h hs hblocked => exact .inl rfl
  | moved d s h hs hadmits => exact .inr ⟨d, s, rfl, hs, hadmits, rfl⟩

/-! ### Time -/

/-- The world one step older. -/
def ticked (w : World) : World := { w with tick := w.tick + 1 }

theorem advance_of_ended (h : w.ended = true) (a : Action) : w.advance a = w := if_pos h

theorem advance_of_not_ended (h : w.ended = false) (a : Action) :
    w.advance a = (w.ticked.perform a).expire :=
  if_neg (by simp [h])

/-- Running out of time ends the game and changes nothing else. -/
theorem expire_eq (w : World) : w.expire = { w with ended := w.expire.ended } := by
  unfold expire
  split <;> rfl

@[simp] theorem sprites_expire (w : World) : w.expire.sprites = w.sprites := by rw [expire_eq]

@[simp] theorem inventory_expire (w : World) : w.expire.inventory = w.inventory := by rw [expire_eq]

@[simp] theorem orientation_expire (w : World) : w.expire.orientation = w.orientation := by
  rw [expire_eq]

@[simp] theorem avatar?_expire (w : World) : w.expire.avatar? = w.avatar? := by
  rw [expire_eq]
  rfl

@[simp] theorem won_expire (w : World) : w.expire.won = w.won := by rw [expire_eq]

theorem ended_expire (w : World) :
    w.expire.ended = (decide (w.maxSteps ≤ w.tick) || w.ended) := by
  unfold expire
  split
  · rename_i h
    rw [decide_eq_true h, Bool.true_or]
  · rename_i h
    rw [decide_eq_false h, Bool.false_or]

@[simp] theorem tick_expire (w : World) : w.expire.tick = w.tick := by rw [expire_eq]

/-- **What a step can do.** A step of a game that goes on is an effect, and then the time may have
run out. -/
theorem exists_effect_of_not_ended {s : Sprite} (hs : w.avatar? = some s) (h : w.ended = false)
    (a : Action) : ∃ v, Effect w.ticked a v ∧ w.advance a = v.expire :=
  ⟨_, perform_effect (w := w.ticked) hs a, advance_of_not_ended h a⟩

/-! ### What no step changes -/

/-- Two worlds of the same game at different moments. -/
structure SameGame (w v : World) : Prop where
  width : v.width = w.width
  height : v.height = w.height
  avatarId : v.avatarId = w.avatarId
  resources : v.resources = w.resources
  solids : v.solids = w.solids
  goals : v.goals = w.goals
  rotateInPlace : v.rotateInPlace = w.rotateInPlace
  maxSteps : v.maxSteps = w.maxSteps
  blockSize : v.blockSize = w.blockSize
  precision : v.precision = w.precision

theorem SameGame.refl (w : World) : SameGame w w :=
  ⟨rfl, rfl, rfl, rfl, rfl, rfl, rfl, rfl, rfl, rfl⟩

theorem SameGame.trans (h : SameGame w v) (k : SameGame v u) : SameGame w u where
  width := k.width.trans h.width
  height := k.height.trans h.height
  avatarId := k.avatarId.trans h.avatarId
  resources := k.resources.trans h.resources
  solids := k.solids.trans h.solids
  goals := k.goals.trans h.goals
  rotateInPlace := k.rotateInPlace.trans h.rotateInPlace
  maxSteps := k.maxSteps.trans h.maxSteps
  blockSize := k.blockSize.trans h.blockSize
  precision := k.precision.trans h.precision

theorem sameGame_arrive (w : World) (s : Sprite) (c : Cell) : SameGame w (w.arrive s c) := by
  rw [arrive_eq]
  exact ⟨rfl, rfl, rfl, rfl, rfl, rfl, rfl, rfl, rfl, rfl⟩

theorem Effect.sameGame (h : Effect w a v) : SameGame w v := by
  cases h with
  | use => exact .refl w
  | turn d h => exact ⟨rfl, rfl, rfl, rfl, rfl, rfl, rfl, rfl, rfl, rfl⟩
  | blocked d s h hs hblocked => exact .refl w
  | moved d s h hs hadmits => exact sameGame_arrive w s _

theorem sameGame_expire (w : World) : SameGame w w.expire := by
  rw [expire_eq]
  exact ⟨rfl, rfl, rfl, rfl, rfl, rfl, rfl, rfl, rfl, rfl⟩

theorem sameGame_ticked (w : World) : SameGame w w.ticked :=
  ⟨rfl, rfl, rfl, rfl, rfl, rfl, rfl, rfl, rfl, rfl⟩

end World

end PlayTrace
