import PlayTrace.Proofs.Episode.Actions
import PlayTrace.Proofs.Grounding.Connectivity

/-!
# Moves and connectivity

An action names the cells of a move by the pixel position of the avatar, turn by turn. The atoms of
connectivity name cells while the grid is visited, once for the whole game. They speak of the same
cells: a move to a cell of the grid is licensed by an atom that stands in every state of the trace,
and no atom speaks of a cell outside.

The atom that licenses a move may have come up for another link, where a domain writes opposite
directions alike. That it is there is all that counts.

## Main definitions

* `Atom.MovesIn` — an atom is the move in a direction
* `Licensed` — what the states of a trace say of a move

## Main results

* `Agent.Describes.licensed` — the description of a move
* `Episode.exists_play_eq_ok_licensed` — every move of a trace is licensed
-/

namespace PlayTrace

/-- The name of the move in a direction, whether or not it also says that something was
collected. -/
def Direction.IsMoveName (d : Direction) (name : String) : Prop :=
  name = "MOVE_" ++ d.name ∨ name = "MOVE_" ++ d.name ++ "_PICK_RESOURCE"

instance (d : Direction) (name : String) : Decidable (d.IsMoveName name) :=
  inferInstanceAs (Decidable (_ ∨ _))

/-- The atom is the move in a direction. -/
def Atom.MovesIn (a : Atom) (d : Direction) : Prop := d.IsMoveName a.name

/-- The states of a trace license a move in a direction from a cell, where `x` and `y` are the
objects of the cell and its neighbour. -/
structure Licensed (D : Domain) (g : Connectivity) (states : List (Int × List Fact)) (w : World)
    (c : Cell) (d : Direction) (atom : Atom) (x y : Object) : Prop where
  source : D.cellObject c = .ok x
  target : D.cellObject (c.neighbour d) = .ok y
  source_arg : atom.args[1]? = some (.object x)
  target_arg : atom.args[2]? = some (.object y)
  /-- the connection of the two arguments stands in all states -/
  inside : w.inBounds (c.neighbour d) = true →
    ∃ link, D.Joins d (.object x) (.object y) link ∧ ∀ state ∈ states, .plain link ∈ state.2
  /-- what lies outside is connected with nothing -/
  outside : w.inBounds (c.neighbour d) = false → ∀ link ∈ g.atoms, .object y ∉ link.args

namespace World

variable {w : World} {s t : Sprite} {a : Action}

theorem Sound.inBounds_picture (hw : Sound w) (c : Cell) :
    hw.picture.inBounds c = w.inBounds c := by
  have hwidth := hw.width_pos
  have hheight := hw.height_pos
  rw [Bool.eq_iff_iff, Snapshot.inBounds_iff, inBounds_iff]
  simp only [picture]
  omega

/-- What keeps the sprites keeps the avatar. -/
theorem Sound.avatar?_of_sprites_eq (hw : Sound w) (hs : w.avatar? = some s)
    (ht : (w.advance a).avatar? = some t) (hsprites : (w.advance a).sprites = w.sprites) :
    t = s := by
  rw [avatar?, hsprites, (hw.sameGame_advance a).avatarId, ← avatar?, hs] at ht
  exact (Option.some.inj ht).symm

/-- **How the avatar changes its cell**: to a neighbour inside, in a step that does not turn it. -/
theorem Sound.exists_move_of_ne (hw : Sound w) (hended : w.ended = false) (hs : w.avatar? = some s)
    (ht : (w.advance a).avatar? = some t) (hne : t.cell ≠ s.cell) :
    ∃ d, a = .move d ∧ w.turnsTo d = false ∧ t.cell = s.cell.neighbour d ∧
      w.inBounds t.cell = true := by
  have hmoved : (w.advance a).sprites ≠ w.sprites := fun h =>
    hne (congrArg Sprite.cell (hw.avatar?_of_sprites_eq hs ht h))
  cases a with
  | use => exact absurd (hw.advance_use hended).2 hmoved
  | move d =>
    cases hturn : w.turnsTo d with
    | true => exact absurd (hw.advance_turn hended hturn).2.1 hmoved
    | false =>
      obtain ⟨-, t', ht', hcell⟩ := hw.advance_move hended hs hturn
      obtain rfl : t = t' := Option.some.inj (ht.symm.trans ht')
      split at hcell
      · rename_i hadmits
        exact ⟨d, rfl, hturn, hcell, hcell ▸ inBounds_of_admits hadmits⟩
      · exact absurd hcell hne

end World

/-! ### Names of moves -/

namespace Direction

/-- No turn has the name of a move. -/
theorem not_isMoveName_turnName (a : Action) (d : Direction) : ¬ d.IsMoveName a.turnName := by
  cases a with
  | use => cases d <;> decide
  | move d' => cases d' <;> cases d <;> decide

theorem not_isMoveName_use (d : Direction) : ¬ d.IsMoveName "USE" := by
  cases d <;> decide

/-- The name of a move tells its direction. -/
theorem isMoveName_iff (d d' : Direction) :
    (d.IsMoveName ("MOVE_" ++ d'.name) ↔ d' = d) ∧
      (d.IsMoveName ("MOVE_" ++ d'.name ++ "_PICK_RESOURCE") ↔ d' = d) := by
  cases d' <;> cases d <;> decide

end Direction

namespace Domain

variable {D : Domain} {d : Direction} {c ahead : Cell} {picked : Option String} {a : Action}
  {turned : Bool}

/-- A move is a move in its own direction alone, and names the two cells. -/
theorem movesIn_moveAtom (D : Domain) (d' : Direction) (c : Cell) (picked : Option String) :
    ((D.moveAtom .cell d' c picked).MovesIn d ↔ d' = d) ∧
      (D.moveAtom .cell d' c picked).args[1]? = some (.object (D.theCell c)) ∧
      (D.moveAtom .cell d' c picked).args[2]? = some (.object (D.theCell (c.neighbour d'))) := by
  rw [Agent.moveAtom_cell]
  split
  · exact ⟨(d.isMoveName_iff d').1, rfl, rfl⟩
  · exact ⟨(d.isMoveName_iff d').2, rfl, rfl⟩

/-- Only a step that does not turn the avatar is written as a move. -/
theorem movesIn_actionAtom_iff :
    (D.actionAtom .cell a c ahead turned picked).MovesIn d ↔ turned = false ∧ a = .move d := by
  cases turned with
  | true =>
    have hname : ¬ (D.actionAtom .cell a c ahead true picked).MovesIn d :=
      d.not_isMoveName_turnName a
    simp [hname]
  | false =>
    cases a with
    | use =>
      have hname : ¬ (D.actionAtom .cell .use c ahead false picked).MovesIn d :=
        d.not_isMoveName_use
      simp [hname]
    | move d' =>
      have hname := (D.movesIn_moveAtom (d := d) d' c picked).1
      simpa [actionAtom] using hname

/-! ### Connectivity -/

variable {s : Snapshot}

/-- The atom of a link inside is one of the atoms of the grid. -/
theorem connectionAtom_mem (hc : s.inBounds c = true) (hn : s.inBounds (c.neighbour d) = true) :
    D.connectionAtom ⟨c, d, c.neighbour d⟩ ∈ (D.connectivityOf s).atoms :=
  mem_atoms_connectivityOf_iff.2 ⟨_, ⟨hc, hn, rfl⟩, isConnection_iff.2 rfl⟩

/-- **No atom speaks of a cell outside.** -/
theorem object_not_mem_of_outside (hc : s.inBounds c = false) {link : Atom}
    (hlink : link ∈ (D.connectivityOf s).atoms) : .object (D.theCell c) ∉ link.args := by
  obtain ⟨l, hl, hconnection⟩ := mem_atoms_connectivityOf_iff.1 hlink
  rw [isConnection_iff.1 hconnection, object_mem_connectionAtom_iff, theCell_inj, theCell_inj]
  rintro (rfl | rfl)
  · exact absurd hl.source (Bool.eq_false_iff.1 hc)
  · exact absurd hl.target (Bool.eq_false_iff.1 hc)

end Domain

namespace Agent

open World

variable {A : Agent} {D : Domain} {w v : World} {s t : Sprite} {l : Ledger} {a : Action}
  {atom : Atom} {d : Direction} {states : List (Int × List Fact)}

/-- Every state has all atoms of connectivity in it. -/
theorem plain_mem_factsOf (hmode : A.mode = .cell) (hw : Sound w) (l : Ledger) {link : Atom}
    (hlink : link ∈ A.connectivity.atoms) : .plain link ∈ A.factsOf l hw := by
  rw [factsOf, Domain.stateFacts, hmode]
  exact List.mem_append_right _ (List.mem_map_of_mem hlink)

/-! ### Descriptions -/

/-- A step in which the avatar changes its cell is described as a move to that cell. -/
theorem Describes.exists_movesIn {hw : Sound w} (h : A.Describes l hw a atom)
    (hmode : A.mode = .cell) (hr : Resolved w) (hended : w.ended = false) (hs : w.avatar? = some s)
    (ht : (w.advance a).avatar? = some t) (hne : t.cell ≠ s.cell) :
    ∃ d, atom.MovesIn d ∧ t.cell = s.cell.neighbour d ∧ w.inBounds t.cell = true := by
  obtain ⟨d, rfl, hturn, hcell, hinside⟩ := hw.exists_move_of_ne hended hs ht hne
  obtain ⟨o, ho⟩ := hw.faces
  obtain ⟨picked, -, hatom⟩ := h.exists_atom_eq (hw.avatarCell_eq hr hs) ho
  refine ⟨d, ?_, hcell, hinside⟩
  rw [hatom, hmode, Domain.movesIn_actionAtom_iff, (hw.advance_move hended hs hturn).1,
    isSame_self hw]
  exact ⟨rfl, rfl⟩

/-- **The description of a move** is licensed by the connectivity of the grid, if that stands in all
states. -/
theorem Describes.licensed {hw : Sound w} {hv : Sound v} (hsame : SameGame w v)
    (h : (atStart D .cell hw).Describes l hv a atom) (hr : Resolved v) (hs : v.avatar? = some s)
    (hstates : ∀ state ∈ states, ∀ link ∈ (D.connectivityOf hw.picture).atoms,
      .plain link ∈ state.2)
    (hmove : atom.MovesIn d) :
    Licensed D (D.connectivityOf hw.picture) states w s.cell d atom (D.theCell s.cell)
      (D.theCell (s.cell.neighbour d)) := by
  obtain ⟨o, ho⟩ := hv.faces
  obtain ⟨picked, -, hatom⟩ := h.exists_atom_eq (hv.avatarCell_eq hr hs) ho
  obtain ⟨hturned, rfl⟩ := Domain.movesIn_actionAtom_iff.1 (hatom ▸ hmove)
  have hatom : atom = D.moveAtom .cell d s.cell picked := by
    rw [hatom, hturned]
    rfl
  obtain ⟨-, hsource, htarget⟩ := D.movesIn_moveAtom (d := d) d s.cell picked
  have hcell : w.inBounds s.cell = true := by
    rw [← inBounds_of_sameGame hsame]
    exact hv.inside _ (mem_entries_of_avatar? hs)
  refine ⟨D.cellObject_eq _, D.cellObject_eq _, hatom ▸ hsource, hatom ▸ htarget, ?_, ?_⟩
  · intro hinside
    rw [← hw.inBounds_picture] at hcell hinside
    exact ⟨_, Domain.joins_iff (l := ⟨s.cell, d, s.cell.neighbour d⟩).2 rfl, fun state hstate =>
      hstates state hstate _ (Domain.connectionAtom_mem hcell hinside)⟩
  · intro houtside link hlink
    rw [← hw.inBounds_picture] at houtside
    exact Domain.object_not_mem_of_outside houtside hlink

end Agent

/-! ### Episodes -/

namespace Episode

open World Agent

variable {σ : Type}

/-- Every state of an account has all atoms of connectivity in it. -/
theorem plain_mem_states_account {w : World} (D : Domain) (hw : Sound w) (draw : Draw σ) (s : σ)
    (n : Nat) (atoms : Nat → Atom) :
    ∀ state ∈ (account D .cell hw draw s n atoms).trace.states,
      ∀ link ∈ (D.connectivityOf hw.picture).atoms, .plain link ∈ state.2 := by
  intro state hstate link hlink
  obtain ⟨i, -, rfl⟩ := List.mem_map.1 hstate
  exact plain_mem_factsOf rfl (hw.after (draw.actionAt s) i) _ hlink

/-- **Every move of a trace is licensed.** In the notation with cells, a turn in which the avatar
changes its cell is written as a move to that cell. Whenever a turn is written as a move, its second
and third argument are the avatar's cell and the neighbour; if the neighbour lies in the grid, the
connection of the two stands in every state of the trace, that of the turn included, and if not, no
atom of connectivity mentions it. The trace has an action for every turn, and one state more. -/
theorem exists_play_eq_ok_licensed (D : Domain) (g : Game) (p : Precision) (settings : Settings)
    (hmode : settings.mode = .cell) (hr : (World.ofGame g p).Resolved) (draw : Draw σ)
    (source : σ) :
    ∃ A e, Agent.start D settings.mode (World.ofGame g p) = .ok A ∧
      play D settings draw (World.ofGame g p) source = .ok e ∧
      e.trace.states.length = e.turns + 1 ∧ e.trace.actions.length = e.turns ∧
      ∀ i < e.turns, ∃ s t atom,
        ((World.ofGame g p).after (draw.actionAt source) i).avatar? = some s ∧
        ((World.ofGame g p).after (draw.actionAt source) (i + 1)).avatar? = some t ∧
        e.trace.actions[i]? = some ((i : Int), atom) ∧
        (∃ facts, e.trace.states[i]? = some ((i : Int), facts)) ∧
        (t.cell ≠ s.cell → ∃ d, atom.MovesIn d ∧ t.cell = s.cell.neighbour d ∧
          (World.ofGame g p).inBounds t.cell = true) ∧
        ∀ d, atom.MovesIn d → ∃ x y, Licensed D A.connectivity e.trace.states (World.ofGame g p)
          s.cell d atom x y := by
  have hw := World.sound_ofGame g p
  obtain ⟨n, atoms, hcourse⟩ := exists_course D .cell hw hr.measurable rfl draw source
  refine ⟨atStart D .cell hw, account D .cell hw draw source n atoms,
    hmode ▸ start_eq D .cell hw, hcourse.play_eq hmode, by simp [account], by simp [account],
    fun i hi => ?_⟩
  have hsound := hw.after (draw.actionAt source) i
  have hsame := hw.sameGame_after (draw.actionAt source) i
  obtain ⟨s, hs⟩ := hsound.avatar
  obtain ⟨t, ht⟩ := (hw.after (draw.actionAt source) (i + 1)).avatar
  refine ⟨s, t, atoms i, hs, ht, getElem?_actions_account hi, ⟨_, getElem?_states_account hi.le⟩,
    fun hne => ?_, fun d hmove => ?_⟩
  · obtain ⟨d, hmove, hcell, hinside⟩ := (hcourse.narrates i).exists_movesIn rfl
      (hr.of_sameGame hsame) (hcourse.goes_on i hi) hs ht hne
    exact ⟨d, hmove, hcell, inBounds_of_sameGame hsame t.cell ▸ hinside⟩
  · exact ⟨_, _, (hcourse.narrates i).licensed hsame (hr.of_sameGame hsame) hs
      (plain_mem_states_account D hw draw source n atoms) hmove⟩

/-- The step along the corridor is licensed by the connection of its two cells, in machine
arithmetic. -/
theorem exists_play_corridor_eq_ok_licensed :
    (Settings.standard.mode = .cell ∧ (World.ofGame corridor .binary64).Resolved) ∧
      ∃ e, play gemDomain .standard rightward (World.ofGame corridor .binary64) () = .ok e ∧
        ∀ state ∈ e.trace.states, .plain ⟨"NEXT_RIGHT", [.object (gemDomain.theCell ⟨0, 0⟩),
          .object (gemDomain.theCell ⟨1, 0⟩)]⟩ ∈ state.2 := by
  have hresolved : (World.ofGame corridor .binary64).Resolved := fun _ => by decide
  refine ⟨⟨rfl, hresolved⟩, ?_⟩
  obtain ⟨A, e, -, he, -, -, hturns⟩ :=
    exists_play_eq_ok_licensed gemDomain corridor .binary64 .standard rfl hresolved rightward ()
  refine ⟨e, he, ?_⟩
  have hpos : 0 < e.turns :=
    turns_pos (World.sound_ofGame corridor .binary64) hresolved.measurable rfl he
  obtain ⟨s, t, atom, hs, ht, -, -, hchange, hmoves⟩ := hturns 0 hpos
  obtain rfl : (⟨"avatar", ⟨0, 0⟩⟩ : Sprite) = s := Option.some.inj (Eq.trans rfl hs)
  obtain rfl : (⟨"avatar", ⟨1, 0⟩⟩ : Sprite) = t := Option.some.inj (Eq.trans rfl ht)
  obtain ⟨d, hmove, hcell, hinside⟩ := hchange (by decide)
  obtain rfl : d = .right := Cell.neighbour_inj.1 (hcell.symm.trans rfl)
  obtain ⟨x, y, hlicensed⟩ := hmoves .right hmove
  obtain ⟨link, hjoins, hstates⟩ := hlicensed.inside hinside
  obtain rfl := Except.ok.inj ((gemDomain.cellObject_eq _).symm.trans hlicensed.source)
  obtain rfl := Except.ok.inj ((gemDomain.cellObject_eq _).symm.trans hlicensed.target)
  obtain rfl := (Domain.joins_iff (l := ⟨⟨0, 0⟩, .right, ⟨1, 0⟩⟩)).1 hjoins
  exact hstates

end Episode

end PlayTrace
