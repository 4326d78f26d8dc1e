import Mathlib.Data.List.Forall2
import PlayTrace.Proofs.Grounding.Anywhere

/-!
# The two notations agree

A place is an object in the one notation and a number in the other. For all that, they say the same.
A state in numbers becomes a state with cells when the values of its fluents are forgotten and the
connectivity is added, and the fluents stand for the sites of the snapshot, one for each, with the
column or the row of the site as the value. An action in numbers is the action with cells without
its two cells; a turn names no cells, and is the same in both.

Nothing is asked of the orientations here, so an action may be one that cannot be written. It then
cannot be written in either notation. There is one thing that only the notation with cells trips
over: a cell far outside any grid, whose numbers are too long, has no name.

## Main definitions

* `Domain.SameState`, `Domain.SameAction` — a state, an action in two notations
* `Action.CellsWritable` — the cells of an action have names

## Main results

* `Domain.sameState_stateFacts` — the facts of a state
* `Domain.alike_tellAction` — the atom of an action, however cells come by their names
* `Domain.alike_groundAction`, `Domain.alike_tellAction_objectAnywhere` — from a grid, from anywhere
-/

namespace PlayTrace

/-! ### The word that marks columns -/

/-- Looking for a word from every place on finds it where it occurs. -/
theorem Text.occursIn_iff {word cs : List Char} : Text.occursIn word cs = true ↔ word <:+: cs := by
  induction cs with
  | nil => simp [Text.occursIn]
  | cons c cs ih => rw [Text.occursIn, Bool.or_eq_true, ih, List.isPrefixOf_iff_prefix,
      List.infix_cons_iff]

/-- A template speaks of columns: its name, in small letters, contains the word. -/
def Template.SpeaksOfColumns (t : Template) : Prop :=
  "column".toList <:+: (Text.lowerAscii t.name).toList

theorem Template.takesColumn_iff (t : Template) : t.takesColumn = true ↔ t.SpeaksOfColumns :=
  Text.occursIn_iff

/-! ### The cells of an action -/

/-- The numbers of the cell that an action starts from and of the one that it is aimed at can be
written. -/
def Action.CellsWritable (a : Action) (source : Cell) (before : Orientation) : Prop :=
  ∀ target, a.target source before = .ok target →
    source.isWritable = true ∧ target.isWritable = true

/-! ### States -/

namespace Fact

/-- The fact that is left of a fluent when its value is forgotten. -/
def forget (f : Fact) : Fact := .plain f.atom

/-- A fluent with its value. -/
def fluent? : Fact → Option (Atom × Int)
  | plain _ => none
  | fluent a value => some (a, value)

end Fact

namespace Domain

/-- A fluent stands for a site: its atom is the template of the site, and its value the column of
the cell if the template speaks of columns, and the row otherwise. -/
structure StandsFor (D : Domain) (f : Atom × Int) (site : Site) : Prop where
  atom : site.template.instantiate (D.cellBinding site.cell) = .ok f.1
  column : site.template.SpeaksOfColumns → f.2 = site.cell.x
  row : ¬ site.template.SpeaksOfColumns → f.2 = site.cell.y

/-- The facts of one state in two notations. -/
structure SameState (D : Domain) (g : Connectivity) (s : Snapshot) (cell numeric : List Fact) :
    Prop where
  /-- the facts with cells are those in numbers without the values, and the connectivity -/
  cell_eq : cell = numeric.map Fact.forget ++ g.atoms.map .plain
  /-- the fluents stand for the sites of the snapshot -/
  fluents : List.Forall₂ D.StandsFor (numeric.filterMap Fact.fluent?) (D.sites s)

variable {D : Domain}

/-! Everything that is said about the avatar alone is said without places. -/

theorem map_forget_facingFacts (o : Orientation) :
    (D.facingFacts o).map Fact.forget = D.facingFacts o := by
  unfold facingFacts
  split
  · rename_i table d _ _
    cases table.get? d <;> rfl
  · rfl

theorem fluents_facingFacts (o : Orientation) : (D.facingFacts o).filterMap Fact.fluent? = [] := by
  unfold facingFacts
  split
  · rename_i table d _ _
    cases table.get? d <;> rfl
  · rfl

theorem map_forget_collectedFacts (picked : String → Int) :
    (D.collectedFacts picked).map Fact.forget = D.collectedFacts picked := by
  rw [collectedFacts, List.map_map]
  rfl

theorem fluents_collectedFacts (picked : String → Int) :
    (D.collectedFacts picked).filterMap Fact.fluent? = [] := by
  rw [collectedFacts, List.filterMap_map]
  exact List.filterMap_eq_nil_iff.2 fun _ _ => rfl

theorem map_forget_spriteFacts (o : Orientation) (sites : List Site) :
    (D.spriteFacts .numeric o sites).map Fact.forget = D.spriteFacts .cell o sites := by
  induction sites with
  | nil => rfl
  | cons site rest ih =>
    rw [spriteFacts, spriteFacts]
    split
    · rw [List.map_append, map_forget_facingFacts, List.map_map]
      rfl
    · rw [List.map_cons, ih]
      rfl

/-- The fluent at a site. -/
def siteFluent (D : Domain) (site : Site) : Atom × Int :=
  (site.template.fill (D.cellFill site.cell), site.template.coordinate site.cell)

/-- The fluents among the facts at sites are those of the sites, whatever comes in between. -/
theorem fluents_spriteFacts (o : Orientation) (sites : List Site) :
    (D.spriteFacts .numeric o sites).filterMap Fact.fluent? = sites.map D.siteFluent := by
  induction sites with
  | nil => rfl
  | cons site rest ih =>
    rw [spriteFacts]
    split
    · have hsite : Fact.fluent? ∘ D.factAt .numeric = some ∘ D.siteFluent := rfl
      rw [List.filterMap_append, fluents_facingFacts, List.nil_append, List.filterMap_map, hsite,
        List.filterMap_eq_map]
    · rw [List.map_cons, ← ih]
      rfl

theorem standsFor_siteFluent {site : Site}
    (h : ∀ v ∈ site.template.variableNames, D.Declares v) :
    D.StandsFor (D.siteFluent site) site where
  atom := instantiate_cellBinding_eq h site.cell
  column hcolumn := if_pos (site.template.takesColumn_iff.2 hcolumn)
  row hrow := if_neg (mt site.template.takesColumn_iff.1 hrow)

/-- **One state in two notations.** -/
theorem sameState_stateFacts (D : Domain) (g : Connectivity) (s : Snapshot) (o : Orientation)
    (picked : String → Int) :
    D.SameState g s (D.stateFacts .cell g s o picked) (D.stateFacts .numeric g s o picked) where
  cell_eq := by
    rw [stateFacts, stateFacts, List.map_append, List.map_append, map_forget_spriteFacts,
      map_forget_collectedFacts, connectivityFacts, connectivityFacts, List.map_nil,
      List.append_nil]
  fluents := by
    rw [stateFacts, List.filterMap_append, List.filterMap_append, fluents_spriteFacts,
      fluents_collectedFacts, connectivityFacts, List.filterMap_nil, List.append_nil,
      List.append_nil, List.forall₂_map_left_iff, List.forall₂_same]
    exact fun site hsite => standsFor_siteFluent fun v hv => declared_of_mem_sites hsite hv

/-! ### Actions -/

/-- The atoms of one action in two notations. -/
structure SameAction (D : Domain) (turned : Bool) (cell numeric : Atom) : Prop where
  name_eq : cell.name = numeric.name
  /-- a turn names no cells -/
  of_turned : turned = true → cell.args = numeric.args
  /-- anything else names two cells after the avatar, or none -/
  of_not_turned : turned = false → ∃ avatar here there rest source target,
    D.cellObject source = .ok here ∧ D.cellObject target = .ok there ∧
      cell.args = avatar :: .object here :: .object there :: rest ∧ numeric.args = avatar :: rest

/-- One grounded action in two notations. -/
def SameGrounded (D : Domain) (turned : Bool) (cell numeric : GroundedAction) : Prop :=
  D.SameAction turned cell.atom numeric.atom ∧ cell.warning? = numeric.warning?

theorem sameAction_turn (D : Domain) (a : Atom) : D.SameAction true a a :=
  ⟨rfl, fun _ => rfl, Bool.noConfusion⟩

/-- An action that names two cells before anything else it names. -/
theorem sameAction_cellArgs (D : Domain) (name : String) (avatar : Argument) (source target : Cell)
    (rest : List Argument) :
    D.SameAction false ⟨name, avatar :: (D.cellArgs .cell source target ++ rest)⟩
      ⟨name, avatar :: (D.cellArgs .numeric source target ++ rest)⟩ :=
  ⟨rfl, Bool.noConfusion, fun _ => ⟨avatar, _, _, rest, source, target, D.cellObject_eq source,
    D.cellObject_eq target, rfl, rfl⟩⟩

/-- A resource is named last, wherever it was found. -/
theorem alike_withPickup (D : Domain) (name : Naming) (word : String) (avatar : Argument)
    (source target : Cell) (picked : Option String) :
    Alike (D.SameGrounded false)
      (D.withPickup name ⟨word, avatar :: D.cellArgs .cell source target⟩ picked target)
      (D.withPickup name ⟨word, avatar :: D.cellArgs .numeric source target⟩ picked target) := by
  have hplain := D.sameAction_cellArgs word avatar source target []
  rw [List.append_nil, List.append_nil] at hplain
  cases picked with
  | none => exact .ok ⟨hplain, rfl⟩
  | some key =>
    simp only [withPickup]
    cases D.resourceVariable? key with
    | none => exact .ok ⟨hplain, rfl⟩
    | some v =>
      refine Alike.bind_same fun resource _ => .ok ⟨?_, rfl⟩
      exact D.sameAction_cellArgs (word ++ pickupSuffix) avatar source target [.object resource]

/-- **One action in two notations.** Where cells have names, an action that cannot be written in one
notation cannot be written in the other. -/
theorem alike_tellAction (D : Domain) (name : Naming) (turned : Bool) (a : Action) (source : Cell)
    (before : Orientation) (picked : Option String)
    (hname : turned = false → ∀ target, a.target source before = .ok target →
      D.cellArguments name .cell source target = .ok (D.cellArgs .cell source target)) :
    Alike (D.SameGrounded turned) (D.tellAction name .cell turned a source before picked)
      (D.tellAction name .numeric turned a source before picked) := by
  refine Alike.bind_same fun avatar _ => ?_
  cases turned with
  | true => exact .ok ⟨D.sameAction_turn _, rfl⟩
  | false =>
    refine Alike.bind_same fun target htarget => ?_
    have hnumeric : D.cellArguments name .numeric source target =
        .ok (D.cellArgs .numeric source target) := rfl
    rw [hname rfl target htarget, hnumeric, ok_bind, ok_bind]
    cases a with
    | use =>
      have hsame := D.sameAction_cellArgs Action.use.traceName (.object avatar) source target []
      rw [List.append_nil, List.append_nil] at hsame
      exact .ok ⟨hsame, rfl⟩
    | move d => exact D.alike_withPickup name _ _ source target picked

/-- An action from a cell of a grid. -/
theorem alike_groundAction (D : Domain) (a : Action) (source : Cell) (before after : Orientation)
    (picked : Option String) :
    Alike (D.SameGrounded (!before.isSame after))
      (D.groundAction .cell a source before after picked)
      (D.groundAction .numeric a source before after picked) :=
  D.alike_tellAction _ _ a source before picked fun _ target _ =>
    D.cellArguments_eq .cell source target

/-- An action from a cell that may lie anywhere. -/
theorem alike_tellAction_objectAnywhere (D : Domain) {turned : Bool} {a : Action} {source : Cell}
    {before : Orientation} (picked : Option String)
    (h : turned = false → a.CellsWritable source before) :
    Alike (D.SameGrounded turned)
      (D.tellAction D.objectAnywhere .cell turned a source before picked)
      (D.tellAction D.objectAnywhere .numeric turned a source before picked) := by
  refine D.alike_tellAction _ turned a source before picked fun hturned target htarget => ?_
  obtain ⟨hsource, htarget⟩ := h hturned target htarget
  rw [cellArguments_objectAnywhere, if_pos]
  simp [Mode.cellsNamed, hsource, htarget]

end Domain

end PlayTrace
