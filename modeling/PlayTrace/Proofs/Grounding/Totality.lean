import PlayTrace.Proofs.Grid.Pixel
import PlayTrace.Proofs.Grounding.Anywhere

/-!
# Grounding never misses anything

A template is filled in five ways, each with bindings of its own: the templates of sprites at a
cell, those of collected resources and of orientations with the avatar alone, connections with two
cells, and the resource of a move with its own variable. Each way relies on a check of its own that the
domain has passed. `Domain.Complete` says that the checks are enough: whatever is looked up is
there, and whatever is to be filled is bound.

So grounding succeeds, whatever there is to be grounded: any keys in any grid, cells outside the
grid, resources that the domain does not know. Two things have to be minded, and neither is a matter
of the domain. The avatar has to look along a vector of finite numbers, for a use names the cell
along it. And an action that is asked for from a cell far outside any grid names cells, or a resource
at a cell, that have no name if their numbers are too long to be written. This is the only way for
it to fail, and it does fail then.

## Main definitions

* `Orientation.IsFinite` — a vector of finite numbers
* `Domain.Complete` — no look-up misses and no placeholder is unbound

## Main results

* `Domain.complete` — every domain is complete
* `Domain.grounding_ok` — grounding fails for numbers that cannot be written, and for nothing else
-/

namespace PlayTrace

/-! ### Finite vectors -/

/-- A number that stands for a rational. -/
def Number.IsFinite (a : Number) : Prop := ∃ q, a.toRat? = some q

/-- A vector of finite numbers. -/
def Orientation.IsFinite (o : Orientation) : Prop := o.x.IsFinite ∧ o.y.IsFinite

theorem Number.IsFinite.truncate_ok {a : Number} (h : a.IsFinite) : ∃ n, a.truncate = .ok n := by
  obtain ⟨q, hq⟩ := h
  cases a with
  | finite r => exact ⟨_, rfl⟩
  | negZero => exact ⟨_, rfl⟩
  | infinite s => cases hq
  | undefined => cases hq

/-- Along a finite vector there is a cell. -/
theorem Cell.along_ok (c : Cell) {o : Orientation} (h : o.IsFinite) :
    ∃ ahead, c.along o = .ok ahead := by
  obtain ⟨dx, hx⟩ := h.1.truncate_ok
  obtain ⟨dy, hy⟩ := h.2.truncate_ok
  refine ⟨c.displace dx dy, ?_⟩
  rw [along, hx, mapError_ok, ok_bind, hy]
  rfl

/-- An action aims at a cell. -/
theorem Action.target_ok (a : Action) (source : Cell) {before : Orientation}
    (h : before.IsFinite) : ∃ target, a.target source before = .ok target := by
  cases a with
  | use => exact source.along_ok h
  | move d => exact ⟨source.neighbour d, rfl⟩

namespace Domain

/-! ### Completeness -/

/-- No look-up of a domain misses, and no placeholder of a template is unbound where the template is
filled. -/
structure Complete (D : Domain) : Prop where
  /-- the two leading variables have types -/
  roles : D.types.contains D.avatar = true ∧ D.types.contains D.cell = true
  /-- the templates of sprites, at any cell -/
  elements : ∀ key, ∀ t ∈ D.templatesOf key, ∀ v ∈ t.variableNames,
    D.types.contains v = true ∧ ∀ c, D.cellBinding c v ≠ none
  /-- the variable that names a resource -/
  resources : ∀ key, ∀ v ∈ D.resourceVariable? key, D.types.contains v = true
  /-- the predicates for collected resources -/
  pickups : ∀ e ∈ D.pickups.entries, ∀ v ∈ e.2.variableNames, D.avatarBinding v ≠ none
  /-- the connections, for any two cells -/
  connections : ∀ d, ∃ t, D.connections.get? d = some t ∧
    ∀ v ∈ t.variableNames, ∀ l, D.linkBinding l v ≠ none
  /-- the orientations, where the domain has them -/
  orientations : ∀ table ∈ D.orientations, ∀ d, ∃ t, table.get? d = some t ∧
    ∀ v ∈ t.variableNames, D.avatarBinding v ≠ none

/-- **Every domain is complete.** -/
theorem complete (D : Domain) : D.Complete where
  roles := ⟨Table.contains_iff.2 D.declared_avatar, Table.contains_iff.2 D.declared_cell⟩
  elements := by
    intro key t ht v hv
    have hdeclared := declared_of_mem_templatesOf ht hv
    refine ⟨Table.contains_iff.2 hdeclared, fun c => ?_⟩
    rw [cellBinding_eq hdeclared]
    exact Option.some_ne_none _
  resources := fun _ _ hv => Table.contains_iff.2 (resourceVariable?_eq_some hv).1
  pickups := by
    intro e he v hv
    rw [avatarBinding_eq (eq_avatar_of_mem_pickups he hv)]
    exact Option.some_ne_none _
  connections := by
    intro d
    obtain ⟨t, ht, -⟩ := D.exists_connection d
    refine ⟨t, ht, fun v _ l => ?_⟩
    rw [linkBinding_eq]
    exact Option.some_ne_none _
  orientations := by
    intro table htable d
    obtain ⟨t, ht, hall⟩ := exists_orientation htable d
    refine ⟨t, ht, fun v hv => ?_⟩
    rw [avatarBinding_eq (hall v hv)]
    exact Option.some_ne_none _

/-! ### Grounding -/

/-- **Grounding never misses anything.** The connectivity of any grid can be built and any snapshot
can be grounded. An action aims at a cell. If it is a turn, or the numbers of all the cells that it
names can be written, then it can be grounded, and otherwise the length of a number is the reason
why it cannot. -/
theorem grounding_ok (D : Domain) (mode : Mode) (g : Connectivity) (s : Snapshot)
    (o : Orientation) (picked : String → Int) (a : Action) (source : Cell)
    (before after : Orientation) (resource : Option String) (hbefore : before.IsFinite) :
    (∃ built, Connectivity.build D s = .ok built) ∧
      (∃ facts, D.groundState mode g s o picked = .ok facts) ∧
      D.Complete ∧
      ∃ target, a.target source before = .ok target ∧
        ((before.isSame after = true →
            ∀ c ∈ D.cellsNamed mode a source target resource, c.isWritable = true) →
          ∃ grounded, D.groundActionAnywhere mode a source before after resource = .ok grounded) ∧
        (before.isSame after = true →
          (∃ c ∈ D.cellsNamed mode a source target resource, c.isWritable = false) →
          D.groundActionAnywhere mode a source before after resource = .error .longInteger) := by
  obtain ⟨target, htarget⟩ := a.target_ok source hbefore
  obtain ⟨warning?, haction⟩ := D.tellAction_eq mode (!before.isSame after) resource htarget
  refine ⟨⟨_, D.build_eq s⟩, ⟨_, D.groundState_eq mode g s o picked⟩, D.complete, target, htarget,
    ?_, ?_⟩
  · intro hwritable
    refine ⟨_, (tellAction_of_isWritable htarget fun hturned => hwritable ?_).trans haction⟩
    simpa using hturned
  · rintro hsame ⟨c, hc, hlong⟩
    rw [groundActionAnywhere, hsame]
    exact tellAction_of_not_isWritable htarget hc hlong

/-- A domain that cares where the avatar looks, and whose ghosts have no variable of their own. -/
def compassTables : DomainTables where
  avatar := "?a"
  cell := "?c"
  types := .ofList [("?a", "avatar"), ("?c", "cell"), ("?g", "ghost")]
  elements := .ofList [("avatar", [⟨"", "AT", [.placeholder "?a", .placeholder "?c"]⟩]),
    ("ghost", [⟨"", "HAUNTED", [.placeholder "?c"]⟩])]
  pickups := .ofList [("ghost", ⟨"", "CAUGHT", [.placeholder "?a", .literal "one"]⟩)]
  connections := .ofList (Direction.all.map fun d =>
    (d, ⟨"", "NEXT_" ++ d.name, [.placeholder "?g", .placeholder "?c"]⟩))
  orientations := some (.ofList (Direction.all.map fun d =>
    (d, ⟨"", "LOOKS_" ++ d.name, [.placeholder "?a"]⟩)))

/-- The domain of a compass. -/
def compassDomain : Domain := ⟨compassTables, by decide⟩

/-- One cell with a ghost and something that the domain does not know. -/
def ghostSnapshot : Snapshot where
  width := 1
  height := 1
  columns := [[["ghost", "stranger"]]]
  width_pos := Nat.one_pos
  height_pos := Nat.one_pos
  length_columns := rfl
  length_column := by simp
  cell_ne_nil := by simp

/-- Half a step to the left from a cell outside, with a stranger collected. -/
theorem grounding_compass_ok :
    Orientation.IsFinite ⟨.finite (-1 / 2), .negZero⟩ ∧
      (∃ built, Connectivity.build compassDomain ghostSnapshot = .ok built) ∧
      (∃ facts, compassDomain.groundState .cell ⟨[], [], []⟩ ghostSnapshot
        ⟨.infinite true, .undefined⟩ (fun _ => 1) = .ok facts) ∧
      ∃ grounded, compassDomain.groundActionAnywhere .cell .use ⟨-3, 7⟩
        ⟨.finite (-1 / 2), .negZero⟩ ⟨.finite (-1 / 2), .negZero⟩ (some "stranger") =
          .ok grounded := by
  have hfinite : Orientation.IsFinite ⟨.finite (-1 / 2), .negZero⟩ := ⟨⟨_, rfl⟩, ⟨_, rfl⟩⟩
  obtain ⟨hbuilt, hfacts, -, target, htarget, hgrounded, -⟩ := grounding_ok compassDomain .cell
    ⟨[], [], []⟩ ghostSnapshot ⟨.infinite true, .undefined⟩ (fun _ => 1) .use ⟨-3, 7⟩
    ⟨.finite (-1 / 2), .negZero⟩ ⟨.finite (-1 / 2), .negZero⟩ (some "stranger") hfinite
  have hhere : Action.use.target ⟨-3, 7⟩ ⟨.finite (-1 / 2), .negZero⟩ = .ok ⟨-3, 7⟩ := by
    decide +kernel
  obtain rfl := Except.ok.inj (htarget.symm.trans hhere)
  have hwritable : ∀ c ∈ compassDomain.cellsNamed .cell .use ⟨-3, 7⟩ ⟨-3, 7⟩ (some "stranger"),
      c.isWritable = true := by
    decide +kernel
  exact ⟨hfinite, hbuilt, hfacts, hgrounded fun _ => hwritable⟩

/-- A step to the right from the last column that can be written cannot be told. -/
theorem not_exists_groundActionAnywhere_compass_ok :
    ¬ ∃ grounded, compassDomain.groundActionAnywhere .cell (.move .right)
      ⟨Text.writableBound - 1, 0⟩ ⟨.finite 1, .finite 0⟩ ⟨.finite 1, .finite 0⟩ none =
        .ok grounded := by
  rintro ⟨grounded, hgrounded⟩
  have htarget : (Action.move .right).target ⟨Text.writableBound - 1, 0⟩
      ⟨.finite 1, .finite 0⟩ = .ok (Cell.neighbour ⟨Text.writableBound - 1, 0⟩ .right) := rfl
  have hsame : Orientation.isSame ⟨.finite 1, .finite 0⟩ ⟨.finite 1, .finite 0⟩ = true := by
    decide
  rw [groundActionAnywhere, hsame, Bool.not_true, tellAction_of_not_isWritable htarget
    (compassDomain.mem_cellsNamed_cell (.inr rfl)) Cell.not_isWritable_neighbour_right] at hgrounded
  cases hgrounded

end Domain

end PlayTrace
