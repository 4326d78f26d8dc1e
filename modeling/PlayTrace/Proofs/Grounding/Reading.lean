import PlayTrace.Grounding.Action
import PlayTrace.Proofs.Domain.Consistency
import PlayTrace.Proofs.Grounding.Telling

/-!
# What grounding says

Grounding is written as a computation that may fail: a variable may lack a type, a placeholder may
be bound to nothing, a direction may have no template. In a domain none of this can happen. So every
piece of grounding has a plain reading beside it, a function without failure, and grounding equals
its reading.

Everything else that is said about states and actions of a trace is said about the readings.

## Main definitions

* `Domain.stateFacts` — the facts of a state
* `Domain.connectivityOf` — the connectivity of a grid
* `Domain.moveAtom`, `Domain.actionAtom` — the atom of an action

## Main results

* `Template.instantiate_eq` — a template whose variables are all bound
* `Domain.build_eq`, `groundState_eq`, `groundAction_eq` — grounding equals its reading
-/

namespace PlayTrace

/-! ## Templates -/

/-- The argument that a token becomes when its variable stands for `f` of it. -/
def Token.fill (f : String → Argument) : Token → Argument
  | placeholder v => f v
  | literal t => .constant t

namespace Template

/-- The atom that a template becomes when every variable stands for `f` of it. -/
def fill (t : Template) (f : String → Argument) : Atom := ⟨t.name, t.tokens.map (Token.fill f)⟩

theorem mem_variableNames_iff {t : Template} {v : String} :
    v ∈ t.variableNames ↔ .placeholder v ∈ t.tokens := by
  rw [variableNames, List.mem_eraseDups, List.mem_filterMap]
  constructor
  · rintro ⟨token, hmem, htoken⟩
    cases token with
    | placeholder w => cases htoken; exact hmem
    | literal s => cases htoken
  · exact fun h => ⟨_, h, rfl⟩

/-- **Filling a template.** A template whose variables are all bound can be instantiated. -/
theorem instantiate_eq {t : Template} {binding : Binding} {f : String → Argument}
    (h : ∀ v ∈ t.variableNames, binding v = some (f v)) :
    t.instantiate binding = .ok (t.fill f) := by
  have htokens : ∀ token ∈ t.tokens, bindToken t.source binding token = .ok (token.fill f) := by
    intro token hmem
    cases token with
    | literal s => rfl
    | placeholder v => rw [bindToken, h v (mem_variableNames_iff.2 hmem)]; rfl
  rw [instantiate, mapM_eq_ok_map htokens]
  rfl

end Template

namespace Domain

variable (D : Domain)

/-! ## Objects -/

/-- The type of a variable; a variable without a type has the empty one. -/
def typeName (v : String) : String := (D.types.get? v).getD ""

/-- The avatar as an object. -/
def theAvatar : Object := .singleton D.avatar (D.typeName D.avatar)

/-- What a variable stands for at a cell. -/
def thingAt (v : String) (c : Cell) : Object := .atCell v (D.typeName v) c.x c.y

/-- A cell as an object. -/
def theCell (c : Cell) : Object := D.thingAt D.cell c

variable {D}

theorem typeOf_eq {v : String} (h : D.Declares v) : D.typeOf v = .ok (D.typeName v) := by
  obtain ⟨name, hname⟩ := Table.mem_keys_iff.1 h
  rw [typeOf, typeName, hname]
  rfl

theorem objectAt_eq {v : String} (h : D.Declares v) (c : Cell) :
    D.objectAt v c = .ok (D.thingAt v c) := by
  rw [objectAt, typeOf_eq h]
  rfl

variable (D)

theorem avatarObject_eq : D.avatarObject = .ok D.theAvatar := by
  rw [avatarObject, typeOf_eq D.declared_avatar]
  rfl

theorem cellObject_eq (c : Cell) : D.cellObject c = .ok (D.theCell c) :=
  objectAt_eq D.declared_cell c

/-! ## Connectivity -/

/-- What the variables of a connection stand for. -/
def linkFill (l : Link) (v : String) : Argument :=
  .object (D.theCell (if v = D.cell then l.source else l.target))

/-- The template of a direction. Every direction of a domain has one. -/
def connectionTemplate (d : Direction) : Template := (D.connections.get? d).getD ⟨"", "", []⟩

/-- The atom that says that two cells are neighbours. -/
def connectionAtom (l : Link) : Atom := (D.connectionTemplate l.direction).fill (D.linkFill l)

theorem linkBinding_eq (l : Link) (v : String) : D.linkBinding l v = some (D.linkFill l v) := by
  rw [linkBinding, cellObject_eq]
  rfl

theorem linkAtom_eq (l : Link) : D.linkAtom l = .ok (D.connectionAtom l) := by
  obtain ⟨p, hp, -⟩ := D.exists_connection l.direction
  rw [linkAtom, connectionAtom, connectionTemplate, hp]
  exact Template.instantiate_eq fun v _ => D.linkBinding_eq l v

/-- The connectivity of a grid. -/
def connectivityOf (s : Snapshot) : Connectivity :=
  ⟨s.cells, s.links, (s.links.map D.connectionAtom).eraseDups⟩

theorem build_eq (s : Snapshot) : Connectivity.build D s = .ok (D.connectivityOf s) := by
  rw [Connectivity.build, mapM_eq_ok_map fun l _ => D.linkAtom_eq l]
  rfl

/-! ## States -/

/-- What the variables of a sprite template stand for at a cell. -/
def cellFill (c : Cell) (v : String) : Argument :=
  .object (if v = D.avatar then D.theAvatar else D.thingAt v c)

/-- What the variables of a template stand for that speaks of the avatar alone. -/
def avatarFill (_ : String) : Argument := .object D.theAvatar

/-- The fact at a site. -/
def factAt (mode : Mode) (site : Site) : Fact :=
  match mode with
  | .cell => .plain (site.template.fill (D.cellFill site.cell))
  | .numeric =>
    .fluent (site.template.fill (D.cellFill site.cell)) (site.template.coordinate site.cell)

/-- What is said about where the avatar looks. -/
def facingFacts (o : Orientation) : List Fact :=
  match D.orientations, o.facing? with
  | some table, some d => ((table.get? d).map fun t => .plain (t.fill D.avatarFill)).toList
  | _, _ => []

/-- The facts at sites, with what is said about the orientation before the first site that
mentions the avatar. -/
def spriteFacts (mode : Mode) (o : Orientation) : List Site → List Fact
  | [] => []
  | site :: rest =>
    if site.template.uses D.avatar then
      D.facingFacts o ++ (site :: rest).map (D.factAt mode)
    else D.factAt mode site :: spriteFacts mode o rest

/-- The facts about collected resources. -/
def collectedFacts (picked : String → Int) : List Fact :=
  (D.pickups.entries.filter fun e => 0 < picked e.1).map fun e => .plain (e.2.fill D.avatarFill)

/-- The facts of a state. -/
def stateFacts (mode : Mode) (g : Connectivity) (s : Snapshot) (o : Orientation)
    (picked : String → Int) : List Fact :=
  D.spriteFacts mode o (D.sites s) ++ D.collectedFacts picked ++ connectivityFacts mode g

variable {D}

/-- The variables of a site's template have types. -/
theorem declared_of_mem_sites {s : Snapshot} {site : Site} (h : site ∈ D.sites s) {v : String}
    (hv : v ∈ site.template.variableNames) : D.Declares v := by
  obtain ⟨e, -, he⟩ := List.mem_flatMap.1 h
  obtain ⟨key, -, hkey⟩ := List.mem_flatMap.1 he
  obtain ⟨t, ht, rfl⟩ := List.mem_map.1 hkey
  exact declared_of_mem_templatesOf ht hv

theorem cellBinding_eq {v : String} (h : D.Declares v) (c : Cell) :
    D.cellBinding c v = some (D.cellFill c v) := by
  rw [cellBinding, cellFill, avatarObject_eq, objectAt_eq h]
  split <;> rfl

theorem instantiate_cellBinding_eq {t : Template} (h : ∀ v ∈ t.variableNames, D.Declares v)
    (c : Cell) : t.instantiate (D.cellBinding c) = .ok (t.fill (D.cellFill c)) :=
  Template.instantiate_eq fun v hv => cellBinding_eq (h v hv) c

theorem siteFact_eq {mode : Mode} {site : Site}
    (h : ∀ v ∈ site.template.variableNames, D.Declares v) :
    D.siteFact mode site = .ok (D.factAt mode site) := by
  rw [siteFact, elementFact, instantiate_cellBinding_eq h]
  cases mode <;> rfl

theorem avatarBinding_eq {v : String} (h : v = D.avatar) :
    D.avatarBinding v = some (D.avatarFill v) := by
  rw [avatarBinding, if_pos h, avatarObject_eq]
  rfl

/-- A template that speaks of the avatar alone. -/
theorem instantiate_avatarBinding_eq {t : Template} (h : ∀ v ∈ t.variableNames, v = D.avatar) :
    t.instantiate D.avatarBinding = .ok (t.fill D.avatarFill) :=
  Template.instantiate_eq fun v hv => avatarBinding_eq (h v hv)

theorem orientationFacts_eq (o : Orientation) : D.orientationFacts o = .ok (D.facingFacts o) := by
  unfold orientationFacts facingFacts
  cases htable : D.orientations with
  | none => rfl
  | some table =>
    cases hd : o.facing? with
    | none => rfl
    | some d =>
      obtain ⟨t, ht, hall⟩ := exists_orientation htable d
      simp only [ht, instantiate_avatarBinding_eq hall]
      rfl

theorem siteFacts_eq {mode : Mode} (o : Orientation) {sites : List Site}
    (h : ∀ site ∈ sites, ∀ v ∈ site.template.variableNames, D.Declares v) :
    D.siteFacts mode o sites = .ok (D.spriteFacts mode o sites) := by
  induction sites with
  | nil => rfl
  | cons site rest ih =>
    have hsites : ∀ s ∈ site :: rest, D.siteFact mode s = .ok (D.factAt mode s) :=
      fun s hs => siteFact_eq (h s hs)
    rw [siteFacts, spriteFacts]
    split
    · rw [orientationFacts_eq, ok_bind, mapM_eq_ok_map hsites]
      rfl
    · rw [hsites site List.mem_cons_self, ok_bind,
        ih fun s hs => h s (List.mem_cons_of_mem site hs)]
      rfl

theorem pickupFacts_eq (picked : String → Int) :
    D.pickupFacts picked = .ok (D.collectedFacts picked) := by
  apply mapM_eq_ok_map
  intro e he
  have hmem : e ∈ D.pickups.entries := (List.mem_filter.1 he).1
  rw [instantiate_avatarBinding_eq fun v hv => eq_avatar_of_mem_pickups hmem hv]
  rfl

/-- **Grounding a state never fails.** -/
theorem groundState_eq (D : Domain) (mode : Mode) (g : Connectivity) (s : Snapshot)
    (o : Orientation) (picked : String → Int) :
    D.groundState mode g s o picked = .ok (D.stateFacts mode g s o picked) := by
  rw [groundState, spritesTold_eq,
    siteFacts_eq o fun site hsite v hv => declared_of_mem_sites hsite hv, ok_bind, pickupFacts_eq]
  rfl

/-! ## Actions -/

variable (D : Domain)

/-- What an action says about the two cells it names. -/
def cellArgs (mode : Mode) (source target : Cell) : List Argument :=
  match mode with
  | .cell => [.object (D.theCell source), .object (D.theCell target)]
  | .numeric => []

/-- The atom of a move. It says what was collected if that has a variable of its own. -/
def moveAtom (mode : Mode) (d : Direction) (source : Cell) (picked : Option String) : Atom :=
  let cells := D.cellArgs mode source (source.neighbour d)
  match picked.bind D.resourceVariable? with
  | none => ⟨(Action.move d).traceName, .object D.theAvatar :: cells⟩
  | some v =>
    ⟨(Action.move d).traceName ++ pickupSuffix,
      .object D.theAvatar :: cells ++ [.object (D.thingAt v (source.neighbour d))]⟩

/-- The atom of an action, where `ahead` is the cell along the orientation. -/
def actionAtom (mode : Mode) (a : Action) (source ahead : Cell) (turned : Bool)
    (picked : Option String) : Atom :=
  if turned then ⟨a.turnName, [.object D.theAvatar]⟩
  else
    match a with
    | .use => ⟨a.traceName, .object D.theAvatar :: D.cellArgs mode source ahead⟩
    | .move d => D.moveAtom mode d source picked

theorem cellArguments_eq (mode : Mode) (source target : Cell) :
    D.cellArguments D.objectAt mode source target = .ok (D.cellArgs mode source target) := by
  cases mode with
  | cell =>
    rw [cellArguments, objectAt_eq D.declared_cell, ok_bind, objectAt_eq D.declared_cell]
    rfl
  | numeric => rfl

theorem withPickup_eq (mode : Mode) (d : Direction) (source : Cell) (picked : Option String) :
    ∃ warning?, D.withPickup D.objectAt
        ⟨(Action.move d).traceName,
          .object D.theAvatar :: D.cellArgs mode source (source.neighbour d)⟩
        picked (source.neighbour d) = .ok ⟨D.moveAtom mode d source picked, warning?⟩ := by
  cases picked with
  | none => exact ⟨none, rfl⟩
  | some key =>
    rw [moveAtom, withPickup, Option.bind_some]
    cases hv : D.resourceVariable? key with
    | none => exact ⟨_, rfl⟩
    | some v =>
      simp only [objectAt_eq (resourceVariable?_eq_some hv).1]
      exact ⟨none, rfl⟩

/-- **Telling an action** fails only where the action is aimed at no cell. -/
theorem tellAction_eq (mode : Mode) (turned : Bool) {a : Action} {source target : Cell}
    {before : Orientation} (picked : Option String) (h : a.target source before = .ok target) :
    ∃ warning?, D.tellAction D.objectAt mode turned a source before picked =
      .ok ⟨D.actionAtom mode a source target turned picked, warning?⟩ := by
  rw [tellAction, avatarObject_eq, ok_bind]
  unfold actionAtom
  cases turned with
  | true => exact ⟨none, rfl⟩
  | false =>
    simp only [Bool.false_eq_true, if_false, h, ok_bind, cellArguments_eq]
    cases a with
    | use => exact ⟨none, rfl⟩
    | move d =>
      obtain rfl := Except.ok.inj h
      exact D.withPickup_eq mode d source picked

/-- **Grounding an action** fails only where the orientation names no cell. -/
theorem groundAction_eq (mode : Mode) (a : Action) {source ahead : Cell} {before : Orientation}
    (after : Orientation) (picked : Option String) (h : source.along before = .ok ahead) :
    ∃ warning?, D.groundAction mode a source before after picked =
      .ok ⟨D.actionAtom mode a source ahead (!before.isSame after) picked, warning?⟩ := by
  cases a with
  | use => exact D.tellAction_eq mode _ picked h
  | move d =>
    have hmove : (Action.move d).target source before = .ok (source.neighbour d) := rfl
    obtain ⟨warning?, haction⟩ := D.tellAction_eq mode (!before.isSame after) picked hmove
    exact ⟨warning?, haction⟩

end Domain

end PlayTrace
