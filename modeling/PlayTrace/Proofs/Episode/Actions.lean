import PlayTrace.Proofs.Episode.Run
import PlayTrace.Proofs.Pickup
import PlayTrace.Proofs.World.Start

/-!
# What the actions of a trace say

The atom of an action is worked out from orientations, pixel positions, counts and distances, never
from the move itself. Under exact arithmetic and in the notation with cells it nevertheless says
what happens between one world and the next: whether the avatar turned, used what lies ahead or
moved, the cells in question, and which resource left the world.

One resource at most is named, the first one that left and is counted. If it has no variable of its
own the move is written as if nothing had been collected.

## Main definitions

* `World.Depicts` — an atom depicts a step

## Main results

* `Agent.Describes.depicts` — the agent's description of an action depicts the step
* `Episode.exists_play_eq_ok_depicts` — every action of a trace depicts its step
-/

namespace PlayTrace

namespace World

variable {w v : World} {s : Sprite}

/-- An atom depicts the step from `w` to `v` under an action, where `s` is the avatar of `w`. -/
structure Depicts (D : Domain) (w v : World) (s : Sprite) (a : Action) (atom : Atom) : Prop where
  /-- a change of orientation is a turn, in which nothing else changes -/
  turn : v.orientation ≠ w.orientation → ∃ d, a = .move d ∧
    atom = ⟨"TURN_" ++ d.name, [.object D.theAvatar]⟩ ∧
    v.orientation = .ofDirection d ∧ v.sprites = w.sprites ∧ v.inventory = w.inventory
  /-- a use names the cell of the avatar and the cell along its orientation -/
  use : v.orientation = w.orientation → a = .use → ∃ ahead, s.cell.along w.orientation = .ok ahead ∧
    atom = ⟨"USE", [.object D.theAvatar, .object (D.theCell s.cell), .object (D.theCell ahead)]⟩ ∧
    v.sprites = w.sprites
  /-- otherwise there is a direction; the avatar gets to the neighbour if it can, or stays -/
  move : v.orientation = w.orientation → a ≠ .use → ∃ d t, a = .move d ∧ v.avatar? = some t ∧
    t.cell = (if w.inBounds (s.cell.neighbour d) = true ∧
        ∀ e ∈ w.spritesAt (s.cell.neighbour d), e.2.key ∉ w.solids
      then s.cell.neighbour d else s.cell) ∧
    -- the first sprite that left and is counted names the move, if it has a variable
    atom = match ((w.removed v).find? fun e => D.pickups.contains e.2.key).bind
        fun e => D.resourceVariable? e.2.key with
      | none => ⟨"MOVE_" ++ d.name, [.object D.theAvatar, .object (D.theCell s.cell),
          .object (D.theCell (s.cell.neighbour d))]⟩
      | some x => ⟨"MOVE_" ++ d.name ++ "_PICK_RESOURCE", [.object D.theAvatar,
          .object (D.theCell s.cell), .object (D.theCell (s.cell.neighbour d)),
          .object (D.thingAt x (s.cell.neighbour d))]⟩

/-! ### Orientations -/

/-- Turning means that the direction is a new one. -/
theorem ne_of_turnsTo {o d : Direction} (ho : w.orientation = .ofDirection o)
    (h : w.turnsTo d = true) : o ≠ d := by
  rintro rfl
  simp [turnsTo, ho, Orientation.isSame_ofDirection] at h

theorem isSame_self (hw : Sound w) : w.orientation.isSame w.orientation = true := by
  obtain ⟨o, ho⟩ := hw.faces
  rw [ho, Orientation.isSame_ofDirection]
  exact decide_eq_true rfl

/-! ### Where the avatar gets to -/

theorem admits_iff {c : Cell} :
    w.admits c = true ↔ w.inBounds c = true ∧ ∀ e ∈ w.spritesAt c, e.2.key ∉ w.solids := by
  simp [admits]

/-- What a step in a direction does that does not turn the avatar. -/
theorem Sound.advance_move (hw : Sound w) (hended : w.ended = false) (hs : w.avatar? = some s)
    {d : Direction} (hturn : w.turnsTo d = false) :
    (w.advance (.move d)).orientation = w.orientation ∧
      ∃ t, (w.advance (.move d)).avatar? = some t ∧
        t.cell = if w.admits (s.cell.neighbour d) = true then s.cell.neighbour d else s.cell := by
  obtain ⟨v, hv, hadvance⟩ := hw.exists_effect hended (.move d)
  rw [hadvance, orientation_expire, avatar?_expire]
  cases hv with
  | turn d h =>
    have hnot : w.turnsTo d = true := h
    rw [hturn] at hnot
    cases hnot
  | blocked d t h ht hblocked =>
    obtain rfl : s = t := Option.some.inj (hs.symm.trans ht)
    have hadmits : w.admits (s.cell.neighbour d) = false := hblocked
    exact ⟨rfl, s, ht, by rw [hadmits]; rfl⟩
  | moved d t h ht hadmits =>
    obtain rfl : s = t := Option.some.inj (hs.symm.trans ht)
    have hne := (Cell.neighbour_ne s.cell d).symm
    exact ⟨orientation_arrive _ s _, _, avatar?_arrive ht hne, (if_pos hadmits).symm⟩

/-- What a step in a direction does that turns the avatar. -/
theorem Sound.advance_turn (hw : Sound w) (hended : w.ended = false) {d : Direction}
    (hturn : w.turnsTo d = true) :
    (w.advance (.move d)).orientation = .ofDirection d ∧
      (w.advance (.move d)).sprites = w.sprites ∧
      (w.advance (.move d)).inventory = w.inventory := by
  obtain ⟨v, hv, hadvance⟩ := hw.exists_effect hended (.move d)
  rw [hadvance, orientation_expire, sprites_expire, inventory_expire]
  cases hv with
  | turn d h => exact ⟨rfl, rfl, rfl⟩
  | blocked d t h ht hblocked =>
    have hnot : w.turnsTo d = false := h
    rw [hturn] at hnot
    cases hnot
  | moved d t h ht hadmits =>
    have hnot : w.turnsTo d = false := h
    rw [hturn] at hnot
    cases hnot

theorem Sound.advance_use (hw : Sound w) (hended : w.ended = false) :
    (w.advance .use).orientation = w.orientation ∧ (w.advance .use).sprites = w.sprites := by
  obtain ⟨v, hv, hadvance⟩ := hw.exists_effect hended .use
  rw [hadvance, orientation_expire, sprites_expire]
  cases hv with
  | use => exact ⟨rfl, rfl⟩

end World

namespace Agent

open World

variable {A : Agent} {w : World} {s : Sprite} {l : Ledger} {a : Action} {atom : Atom}

/-! ### Descriptions -/

/-- The agent's description, read off the world it acts in, whatever was collected. -/
theorem Describes.exists_atom_eq {hw : Sound w} (h : A.Describes l hw a atom) {source : Cell}
    (hcell : w.avatarCell = .ok source) {o : Direction} (ho : w.orientation = .ofDirection o) :
    ∃ picked, pickedResource w a source (takings l hw a) = .ok picked ∧
      atom = A.domain.actionAtom A.mode a source (source.neighbour o)
        (!w.orientation.isSame (w.advance a).orientation) picked := by
  obtain ⟨source', warning?, hsource, hdescribe⟩ := h
  obtain rfl : source = source' := Except.ok.inj (hcell.symm.trans hsource)
  have halong : source.along w.orientation = .ok (source.neighbour o) := by
    rw [ho, Cell.along_ofDirection]
  obtain ⟨picked, hpicked, hground⟩ := bind_eq_ok.1 hdescribe
  obtain ⟨warning?', hatom⟩ :=
    A.domain.groundAction_eq A.mode a (w.advance a).orientation picked halong
  rw [hatom] at hground
  cases hground
  exact ⟨picked, hpicked, rfl⟩

/-- The agent's description, if it is known what was collected. -/
theorem Describes.atom_eq {hw : Sound w} (h : A.Describes l hw a atom)
    (hexact : w.precision = .exact) (hs : w.avatar? = some s) {o : Direction}
    (ho : w.orientation = .ofDirection o) {picked : Option String}
    (hpicked : pickedResource w a s.cell (takings l hw a) = .ok picked) :
    atom = A.domain.actionAtom A.mode a s.cell (s.cell.neighbour o)
      (!w.orientation.isSame (w.advance a).orientation) picked := by
  obtain ⟨picked', hpicked', hatom⟩ := h.exists_atom_eq (hw.avatarCell_exact hexact hs) ho
  obtain rfl := Except.ok.inj (hpicked.symm.trans hpicked')
  exact hatom

theorem moveAtom_cell (D : Domain) (d : Direction) (source : Cell) (picked : Option String) :
    D.moveAtom .cell d source picked =
      match picked.bind D.resourceVariable? with
      | none => ⟨"MOVE_" ++ d.name, [.object D.theAvatar, .object (D.theCell source),
          .object (D.theCell (source.neighbour d))]⟩
      | some x => ⟨"MOVE_" ++ d.name ++ "_PICK_RESOURCE", [.object D.theAvatar,
          .object (D.theCell source), .object (D.theCell (source.neighbour d)),
          .object (D.thingAt x (source.neighbour d))]⟩ := by
  rw [Domain.moveAtom]
  cases picked.bind D.resourceVariable? <;> rfl

theorem Describes.depicts_use {hw : Sound w} (h : A.Describes l hw .use atom)
    (hmode : A.mode = .cell) (hexact : w.precision = .exact) (hended : w.ended = false)
    (hs : w.avatar? = some s) : Depicts A.domain w (w.advance .use) s .use atom := by
  obtain ⟨o, ho⟩ := hw.faces
  obtain ⟨horientation, hsprites⟩ := hw.advance_use hended
  have halong : s.cell.along w.orientation = .ok (s.cell.neighbour o) := by
    rw [ho, Cell.along_ofDirection]
  have hatom := h.atom_eq hexact hs ho rfl
  rw [horientation, isSame_self hw, hmode] at hatom
  constructor
  · intro hne
    exact absurd horientation hne
  · intro _ _
    exact ⟨s.cell.neighbour o, halong, hatom, hsprites⟩
  · intro _ huse
    exact absurd rfl huse

theorem Describes.depicts_turn {hw : Sound w} {d : Direction} (h : A.Describes l hw (.move d) atom)
    (hexact : w.precision = .exact) (hended : w.ended = false) (hs : w.avatar? = some s)
    {picked : Option String}
    (hpicked : pickedResource w (.move d) s.cell (takings l hw (.move d)) = .ok picked)
    (hturn : w.turnsTo d = true) : Depicts A.domain w (w.advance (.move d)) s (.move d) atom := by
  obtain ⟨o, ho⟩ := hw.faces
  obtain ⟨horientation, hsprites, hinventory⟩ := hw.advance_turn hended hturn
  have hnew : o ≠ d := ne_of_turnsTo ho hturn
  have hdiffer : (w.advance (.move d)).orientation ≠ w.orientation := by
    rw [horientation, ho, ne_eq, Orientation.ofDirection_inj]
    exact hnew.symm
  have hatom := h.atom_eq hexact hs ho hpicked
  rw [horientation, ho, Orientation.isSame_ofDirection, decide_eq_false hnew] at hatom
  constructor
  · intro _
    exact ⟨d, rfl, hatom, horientation, hsprites, hinventory⟩
  · intro heq
    exact absurd heq hdiffer
  · intro heq
    exact absurd heq hdiffer

theorem Describes.depicts_move {hw : Sound w} {d : Direction} (h : A.Describes l hw (.move d) atom)
    (hmode : A.mode = .cell) (hexact : w.precision = .exact) (hended : w.ended = false)
    (hs : w.avatar? = some s)
    (hpicked : pickedResource w (.move d) s.cell (takings l hw (.move d)) =
      .ok (((w.removed (w.advance (.move d))).find? fun e =>
        A.domain.pickups.contains e.2.key).map fun e => e.2.key))
    (hturn : w.turnsTo d = false) : Depicts A.domain w (w.advance (.move d)) s (.move d) atom := by
  obtain ⟨o, ho⟩ := hw.faces
  obtain ⟨horientation, t, ht, hcell⟩ := hw.advance_move hended hs hturn
  have hatom := h.atom_eq hexact hs ho hpicked
  rw [horientation, isSame_self hw, hmode] at hatom
  constructor
  · intro hne
    exact absurd horientation hne
  · intro _ huse
    cases huse
  · intro _ _
    refine ⟨d, t, rfl, ht, ?_, ?_⟩
    · simp only [← admits_iff]
      exact hcell
    · rw [hatom]
      refine (moveAtom_cell A.domain d s.cell _).trans ?_
      rw [Option.bind_map]
      rfl

/-- **The agent's description of an action depicts the step.** -/
theorem Describes.depicts {hw : Sound w} (h : A.Describes l hw a atom) (hmode : A.mode = .cell)
    (hexact : w.precision = .exact) (hended : w.ended = false) (hs : w.avatar? = some s)
    (hkeys : l.keys = A.domain.pickups.keys) (hback : backgroundKey ∉ A.domain.pickups.keys) :
    Depicts A.domain w (w.advance a) s a atom := by
  cases a with
  | use => exact h.depicts_use hmode hexact hended hs
  | move d =>
    have hpicked := pickedResource_eq_removed hw hexact hs d
      (by rw [hkeys]; exact A.domain.pickups.nodup_keys) (by rwa [hkeys])
    rw [hkeys] at hpicked
    cases hturn : w.turnsTo d with
    | true => exact h.depicts_turn hexact hended hs hpicked hturn
    | false => exact h.depicts_move hmode hexact hended hs hpicked hturn

end Agent

/-! ### Episodes -/

namespace Episode

open World

variable {σ : Type}

/-- **Every action of a trace depicts its step**, from the world after the turns before it to the
world after its own. The arithmetic is exact, the notation that with cells, and the background is
not among the resources that are counted. -/
theorem exists_play_eq_ok_depicts (D : Domain) (hback : backgroundKey ∉ D.pickups.keys) (g : Game)
    (settings : Settings) (hmode : settings.mode = .cell) (draw : Draw σ) (source : σ) :
    ∃ e, play D settings draw (World.ofGame g .exact) source = .ok e ∧
      e.world = (World.ofGame g .exact).after (draw.actionAt source) e.turns ∧
      e.world.ended = true ∧
      ∀ i < e.turns, ∃ s atom,
        ((World.ofGame g .exact).after (draw.actionAt source) i).avatar? = some s ∧
        e.trace.actions[i]? = some ((i : Int), atom) ∧
        Depicts D ((World.ofGame g .exact).after (draw.actionAt source) i)
          ((World.ofGame g .exact).after (draw.actionAt source) (i + 1)) s
          (draw.actionAt source i) atom := by
  have hw := World.sound_ofGame g .exact
  have hm : Measurable (World.ofGame g .exact) := fun h => by cases h
  obtain ⟨n, atoms, hcourse⟩ := exists_course D .cell hw hm rfl draw source
  refine ⟨account D .cell hw draw source n atoms, hcourse.play_eq hmode, rfl, hcourse.ended, ?_⟩
  intro i hi
  have hsound := hw.after (draw.actionAt source) i
  obtain ⟨s, hs⟩ := hsound.avatar
  refine ⟨s, atoms i, hs, getElem?_actions_account hi, ?_⟩
  refine (hcourse.narrates i).depicts rfl ?_ (hcourse.goes_on i hi) hs ?_ hback
  · exact (hw.sameGame_after (draw.actionAt source) i).precision
  · exact Agent.keys_ledgerAt _ _ _ _

/-- The first step in the corridor collects the gem, and the trace says so. -/
theorem exists_play_corridor_eq_ok_depicts :
    (backgroundKey ∉ gemDomain.pickups.keys ∧ Settings.standard.mode = .cell) ∧
      ∃ e, play gemDomain .standard rightward (World.ofGame corridor .exact) () = .ok e ∧
        e.trace.actions[0]? = some (0, ⟨"MOVE_RIGHT_PICK_RESOURCE",
          [.object gemDomain.theAvatar, .object (gemDomain.theCell ⟨0, 0⟩),
            .object (gemDomain.theCell ⟨1, 0⟩), .object (gemDomain.thingAt "?g" ⟨1, 0⟩)]⟩) := by
  have hback : backgroundKey ∉ gemDomain.pickups.keys := by decide
  refine ⟨⟨hback, rfl⟩, ?_⟩
  obtain ⟨e, he, hworld, hended, hactions⟩ :=
    exists_play_eq_ok_depicts gemDomain hback corridor .standard rfl rightward ()
  have hpos : 0 < e.turns := by
    apply Nat.pos_of_ne_zero
    intro hzero
    rw [hworld, hzero] at hended
    cases hended
  obtain ⟨s, atom, hs, hatom, hdepicts⟩ := hactions 0 hpos
  have havatar : (World.ofGame corridor .exact).avatar? = some ⟨"avatar", ⟨0, 0⟩⟩ := rfl
  obtain rfl := Option.some.inj (hs.symm.trans havatar)
  obtain ⟨d, t, hd, -, -, hmove⟩ := hdepicts.move rfl (by decide)
  obtain rfl := Action.move.inj hd
  exact ⟨e, he, hatom.trans (congrArg some (Prod.ext rfl hmove))⟩

end Episode

end PlayTrace
