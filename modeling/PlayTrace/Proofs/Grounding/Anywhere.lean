import PlayTrace.Proofs.Grid.Snapshot
import PlayTrace.Proofs.Grounding.Blocks

/-!
# Actions from cells that lie anywhere

An action may be asked for from a cell that lies in no grid. Then the one thing that can stand in
its way is the length of a number: a cell is named by its column and row, and an integer is never
written with more than a certain count of digits. Each object that the action names is checked by
itself when it is named, and all these checks come to one, made beforehand: `Domain.cellsNamed`
lists the cells whose objects an action names, and the action can be told if and only if the numbers
of all of them can be written.

A grid has no such cells. Its numbers are smaller than its measures, and where these can be written,
all that is said about the grid can be written.

## Main definitions

* `Domain.cellsNamed` — the cells whose objects an action names

## Main results

* `Domain.tellAction_objectAnywhere` — the checks are one check
* `Domain.tellAction_of_isWritable`, `Domain.tellAction_of_not_isWritable` — its two outcomes
* `Domain.isWritable_of_mem_stateFacts` — the facts of a state of a grid
-/

namespace PlayTrace

/-- A cell too far to the right has no name. -/
theorem Cell.not_isWritable_of_le {c : Cell} (h : (Text.writableBound : Int) ≤ c.x) :
    c.isWritable = false := by
  rw [isWritable, Text.not_isWritable_of_le h, Bool.false_and]

/-- The cell to the right of the last one that has a name has none. -/
theorem Cell.not_isWritable_neighbour_right :
    (Cell.neighbour ⟨Text.writableBound - 1, 0⟩ .right).isWritable = false :=
  not_isWritable_of_le (show (Text.writableBound : Int) ≤ Text.writableBound - 1 + 1 by omega)

/-- The cells whose objects an action names for being cells. -/
def Mode.cellsNamed (mode : Mode) (source target : Cell) : List Cell :=
  match mode with
  | cell => [source, target]
  | numeric => []

namespace Domain

variable (D : Domain) (mode : Mode)

/-- The cells whose objects a move names for the resource it collected. -/
def pickupCells (picked : Option String) (target : Cell) : List Cell :=
  match picked.bind D.resourceVariable? with
  | none => []
  | some _ => [target]

/-- The cells whose objects an action names that is no turn: in the notation with cells the cell it
starts from and the cell it is aimed at, and in both notations the latter for a resource that was
collected there and has a variable of its own. -/
def cellsNamed (a : Action) (source target : Cell) (picked : Option String) : List Cell :=
  mode.cellsNamed source target ++
    match a with
    | .use => []
    | .move _ => D.pickupCells picked target

/-- With cells as objects, an action names the cells it leads from and to. -/
theorem mem_cellsNamed_cell {a : Action} {source target c : Cell} {picked : Option String}
    (h : c = source ∨ c = target) : c ∈ D.cellsNamed .cell a source target picked :=
  List.mem_append_left _ (by simpa [Mode.cellsNamed] using h)

variable {D mode} in
/-- An action names no other cells than those. -/
theorem eq_of_mem_cellsNamed {a : Action} {source target c : Cell} {picked : Option String}
    (h : c ∈ D.cellsNamed mode a source target picked) : c = source ∨ c = target := by
  rcases List.mem_append.1 h with h | h
  · cases mode with
    | cell => simpa [Mode.cellsNamed] using h
    | numeric => cases h
  · cases a with
    | use => cases h
    | move d =>
      simp only [pickupCells] at h
      split at h
      · cases h
      · exact .inr (List.mem_singleton.1 h)

/-! ### One object -/

variable {D} in
theorem objectAnywhere_eq {v : String} (h : D.Declares v) (c : Cell) :
    D.objectAnywhere v c =
      if c.isWritable then .ok (D.thingAt v c) else .error .longInteger := by
  rw [objectAnywhere, objectAt_eq h, ok_bind]
  rfl

/-! ### An action -/

theorem cellArguments_objectAnywhere (source target : Cell) :
    D.cellArguments D.objectAnywhere mode source target =
      if (mode.cellsNamed source target).all Cell.isWritable then
        .ok (D.cellArgs mode source target)
      else .error .longInteger := by
  cases mode with
  | numeric => rfl
  | cell =>
    rw [cellArguments, objectAnywhere_eq D.declared_cell, objectAnywhere_eq D.declared_cell]
    cases hsource : source.isWritable <;> cases htarget : target.isWritable <;>
      simp [Mode.cellsNamed, hsource, htarget] <;> rfl

theorem withPickup_objectAnywhere (a : Atom) (picked : Option String) (target : Cell) :
    D.withPickup D.objectAnywhere a picked target =
      if (D.pickupCells picked target).all Cell.isWritable then
        D.withPickup D.objectAt a picked target
      else .error .longInteger := by
  cases picked with
  | none => rfl
  | some key =>
    cases hv : D.resourceVariable? key with
    | none => simp [withPickup, pickupCells, hv]
    | some v =>
      have hdeclared := (resourceVariable?_eq_some hv).1
      simp only [withPickup, pickupCells, Option.bind_some, hv, objectAnywhere_eq hdeclared,
        objectAt_eq hdeclared]
      cases htarget : target.isWritable <;> simp [htarget]

/-- A turn names no cell, so it does not matter how cells come by their names. -/
theorem tellAction_turned (name : Naming) (a : Action) (source : Cell) (before : Orientation)
    (picked : Option String) :
    D.tellAction name mode true a source before picked =
      .ok ⟨⟨a.turnName, [.object D.theAvatar]⟩, none⟩ := by
  rw [tellAction, avatarObject_eq]
  rfl

/-- **The checks are one check**: an action that is no turn can be told from anywhere if the cells
that it names can be named. -/
theorem tellAction_objectAnywhere {a : Action} {source target : Cell} {before : Orientation}
    (picked : Option String) (h : a.target source before = .ok target) :
    D.tellAction D.objectAnywhere mode false a source before picked =
      if (D.cellsNamed mode a source target picked).all Cell.isWritable then
        D.tellAction D.objectAt mode false a source before picked
      else .error .longInteger := by
  simp only [tellAction, avatarObject_eq, ok_bind, Bool.false_eq_true, if_false, h,
    cellArguments_objectAnywhere, cellArguments_eq, withPickup_objectAnywhere, cellsNamed,
    List.all_append]
  cases hcells : (mode.cellsNamed source target).all Cell.isWritable with
  | false => simp; rfl
  | true =>
    cases a with
    | use => simp; rfl
    | move d => simp

variable {D mode} {a : Action} {source target : Cell} {before : Orientation}
  {picked : Option String} {turned : Bool}

/-- An action whose cells can be named is told as from a grid. -/
theorem tellAction_of_isWritable (htarget : a.target source before = .ok target)
    (h : turned = false → ∀ c ∈ D.cellsNamed mode a source target picked, c.isWritable = true) :
    D.tellAction D.objectAnywhere mode turned a source before picked =
      D.tellAction D.objectAt mode turned a source before picked := by
  cases turned with
  | true => rw [tellAction_turned, tellAction_turned]
  | false =>
    rw [tellAction_objectAnywhere D mode picked htarget, if_pos (List.all_eq_true.2 (h rfl))]

/-- An action cannot be told if it names a cell that cannot be named. -/
theorem tellAction_of_not_isWritable (htarget : a.target source before = .ok target) {c : Cell}
    (hc : c ∈ D.cellsNamed mode a source target picked) (h : c.isWritable = false) :
    D.tellAction D.objectAnywhere mode false a source before picked = .error .longInteger := by
  have hall : ¬ (D.cellsNamed mode a source target picked).all Cell.isWritable = true := by
    rw [List.all_eq_true]
    intro hall
    rw [hall c hc] at h
    cases h
  rw [tellAction_objectAnywhere D mode picked htarget, if_neg hall]

/-! ### Inside a grid -/

variable {s : Snapshot}

/-- A cell inside a grid has a name if the measures of the grid can be written. -/
theorem isWritable_of_mem_cells {c : Cell} (hwidth : Text.isWritable s.width = true)
    (hheight : Text.isWritable s.height = true) (h : c ∈ s.cells) : c.isWritable = true := by
  obtain ⟨⟨hx, hxlt⟩, hy, hylt⟩ := Snapshot.inBounds_iff.1 (Snapshot.mem_cells_iff.1 h)
  rw [Cell.isWritable, Text.isWritable_of_lt hx hxlt hwidth, Text.isWritable_of_lt hy hylt hheight]
  rfl

theorem isWritable_factAt {site : Site} (h : site.cell.isWritable = true) :
    (D.factAt mode site).isWritable = true := by
  rw [Cell.isWritable, Bool.and_eq_true] at h
  cases mode with
  | cell => rfl
  | numeric =>
    rw [factAt, Fact.isWritable, Template.coordinate]
    split
    · exact h.1
    · exact h.2

/-- **All that is said in a state of a grid can be written**, if the measures of the grid can. -/
theorem isWritable_of_mem_stateFacts {g : Connectivity} {o : Orientation} {taken : String → Int}
    {f : Fact} (hwidth : Text.isWritable s.width = true)
    (hheight : Text.isWritable s.height = true) (h : f ∈ D.stateFacts mode g s o taken) :
    f.isWritable = true := by
  rw [stateFacts, List.mem_append, List.mem_append] at h
  rcases h with (hsprite | hcollected) | hconnectivity
  · rcases eq_factAt_or_mem_facingFacts hsprite with ⟨site, hsite, rfl⟩ | hfacing
    · obtain ⟨c, hc, -, -, t, -, rfl⟩ := mem_sites_iff.1 hsite
      exact isWritable_factAt (isWritable_of_mem_cells hwidth hheight hc)
    · obtain ⟨t, rfl⟩ := exists_fill_of_mem_facingFacts hfacing
      rfl
  · obtain ⟨e, -, rfl⟩ := List.mem_map.1 hcollected
    rfl
  · cases mode with
    | cell =>
      obtain ⟨a, -, rfl⟩ := List.mem_map.1 hconnectivity
      rfl
    | numeric => cases hconnectivity

end Domain

end PlayTrace
