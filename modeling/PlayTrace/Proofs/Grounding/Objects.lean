import PlayTrace.Domain.Document
import PlayTrace.Proofs.Grounding.Blocks
import PlayTrace.Proofs.Template.Names

/-!
# What objects stand for

An object stands for the avatar, or for a variable at a cell. Whatever is grounded is made of such
objects: the facts about sprites, about where the avatar looks and about what was collected, the
connectivity, and the actions. What is behind an object is told by its name, as long as the variables
are placeholders and the avatar's variable is not spelled like another one with a cell at its end.

The variables of a template are placeholders when the template was read from a text, and so they are
in a domain that was read from a document.

## Main definitions

* `Domain.UsesPlaceholders` — the variables in the templates of the sprites are placeholders
* `Referent`, `Domain.Denotes` — what an object stands for
* `Domain.Refers` — every object in an atom stands for something

## Main results

* `Domain.usesPlaceholders_of_ofValue` — domains that were read from a document
* `Domain.Denotes.referent_eq` — objects of the same name stand for the same
* `Domain.refers_stateFacts`, `refers_actionAtom` — the objects of facts and actions
-/

namespace PlayTrace

/-- The object that an argument is, if it is one. -/
def Argument.object? : Argument → Option Object
  | object o => some o
  | constant _ => none

/-- The objects among the arguments of an atom. -/
def Atom.objects (a : Atom) : List Object := a.args.filterMap Argument.object?

/-- What an object can stand for: the avatar, or a variable at a cell. -/
inductive Referent where
  | avatar
  | thing (v : String) (c : Cell)
deriving DecidableEq

namespace Atom

variable {o : Object}

theorem mem_objects_iff {a : Atom} : o ∈ a.objects ↔ .object o ∈ a.args := by
  rw [objects, List.mem_filterMap]
  constructor
  · rintro ⟨arg, harg, ho⟩
    cases arg with
    | object p =>
      cases ho
      exact harg
    | constant t => cases ho
  · exact fun h => ⟨.object o, h, rfl⟩

/-- The objects of a filled template are those that its variables stand for. -/
theorem exists_of_mem_objects_fill {t : Template} {f : String → Argument}
    (h : o ∈ (t.fill f).objects) : ∃ v ∈ t.variableNames, f v = .object o := by
  obtain ⟨token, htoken, ho⟩ := List.mem_map.1 (mem_objects_iff.1 h)
  cases token with
  | placeholder v => exact ⟨v, Template.mem_variableNames_iff.2 htoken, ho⟩
  | literal t => cases ho

end Atom

namespace Domain

variable {D : Domain} {o o' : Object} {r r' : Referent} {v : String} {c : Cell}

/-! ### Placeholders -/

/-- The variables in the templates of the sprites are placeholders. -/
def UsesPlaceholders (D : Domain) : Prop :=
  ∀ key, ∀ t ∈ D.templatesOf key, ∀ v ∈ t.variableNames, Template.isPlaceholder v = true

theorem isPlaceholder_of_readTemplate {place : DomainPlace} {value : Value} {t : Template}
    (h : DomainTables.readTemplate place value = .ok t) (hv : v ∈ t.variableNames) :
    Template.isPlaceholder v = true := by
  obtain ⟨written, -, h⟩ := bind_eq_ok.1 h
  cases hread : Template.ofValue written with
  | error f =>
    rw [hread] at h
    cases h
  | ok t' =>
    rw [hread] at h
    cases h
    cases written with
    | text s => exact Template.isPlaceholder_of_parse hread (Template.mem_variableNames_iff.1 hv)
    | _ => cases hread

theorem isPlaceholder_of_readElements {entries : List (Value × Value)}
    {table : Table String (List Template)} (h : DomainTables.readElements entries = .ok table)
    {key : String} {ts : List Template} (hkey : table.get? key = some ts) {t : Template}
    (ht : t ∈ ts) (hv : v ∈ t.variableNames) : Template.isPlaceholder v = true := by
  obtain ⟨read, hread, h⟩ := bind_eq_ok.1 h
  cases h
  obtain ⟨before, after, rfl, -⟩ := Table.get?_ofList_eq_some_iff.1 hkey
  obtain ⟨e, -, he⟩ := exists_of_mem_mapM hread (b := (key, ts)) (by simp)
  obtain ⟨key', -, he⟩ := bind_eq_ok.1 he
  obtain ⟨ts', hts, he⟩ := bind_eq_ok.1 he
  cases he
  unfold DomainTables.readTemplates at hts
  split at hts
  · obtain ⟨item, -, hitem⟩ := exists_of_mem_mapM hts ht
    exact isPlaceholder_of_readTemplate hitem hv
  · cases hts

/-- The templates of a domain document are in one of its parts. -/
theorem exists_readElements_eq_ok {value : Value} {t : DomainTables}
    (h : DomainTables.ofValue value = .ok t) :
    ∃ entries, DomainTables.readElements entries = .ok t.elements := by
  cases value with
  | mapping document =>
    obtain ⟨types, -, h⟩ := bind_eq_ok.1 h
    obtain ⟨types', -, h⟩ := bind_eq_ok.1 h
    obtain ⟨entries, -, h⟩ := bind_eq_ok.1 h
    obtain ⟨elements, helements, h⟩ := bind_eq_ok.1 h
    obtain ⟨pickups, -, h⟩ := bind_eq_ok.1 h
    obtain ⟨orientations, -, h⟩ := bind_eq_ok.1 h
    obtain ⟨avatar, -, h⟩ := bind_eq_ok.1 h
    obtain ⟨cell, -, h⟩ := bind_eq_ok.1 h
    obtain ⟨connections, -, h⟩ := bind_eq_ok.1 h
    cases h
    exact ⟨entries, helements⟩
  | _ => cases h

/-- **A domain that was read from a document** has placeholders for variables. -/
theorem usesPlaceholders_of_ofValue {value : Value} (h : Domain.ofValue value = .ok D) :
    D.UsesPlaceholders := by
  intro key t ht v hv
  obtain ⟨tables, htables, hD⟩ := bind_eq_ok.1 h
  obtain rfl : D.toDomainTables = tables := by
    unfold ofTables at hD
    split at hD
    · cases hD
    · cases hD
      rfl
  obtain ⟨entries, hentries⟩ := exists_readElements_eq_ok htables
  obtain ⟨ts, hkey, ht⟩ := exists_get?_of_mem_templatesOf ht
  exact isPlaceholder_of_readElements hentries hkey ht hv

/-! ### Objects and what they stand for -/

/-- What an object stands for. -/
def Denotes (D : Domain) (o : Object) : Referent → Prop
  | .avatar => D.avatarObject = .ok o
  | .thing v c => v ≠ D.avatar ∧ Template.isPlaceholder v = true ∧ D.objectAt v c = .ok o

theorem objectAt_eq_ok_iff : D.objectAt v c = .ok o ↔ D.Declares v ∧ o = D.thingAt v c := by
  constructor
  · intro h
    obtain ⟨type, htype, -⟩ := bind_eq_ok.1 h
    have hv : D.Declares v := by
      unfold typeOf at htype
      split at htype
      · rename_i t ht
        exact Table.mem_keys_iff.2 ⟨t, ht⟩
      · cases htype
    rw [objectAt_eq hv] at h
    exact ⟨hv, (Except.ok.inj h).symm⟩
  · rintro ⟨hv, rfl⟩
    exact objectAt_eq hv c

theorem denotes_avatar_iff : D.Denotes o .avatar ↔ o = D.theAvatar := by
  rw [Denotes, avatarObject_eq, Except.ok.injEq, eq_comm]

theorem denotes_thing_iff : D.Denotes o (.thing v c) ↔
    v ≠ D.avatar ∧ Template.isPlaceholder v = true ∧ D.Declares v ∧ o = D.thingAt v c := by
  rw [Denotes, objectAt_eq_ok_iff]

theorem denotes_theAvatar (D : Domain) : D.Denotes D.theAvatar .avatar := D.avatarObject_eq

theorem denotes_theCell (D : Domain) (c : Cell) : D.Denotes (D.theCell c) (.thing D.cell c) :=
  denotes_thing_iff.2 ⟨D.is_consistent.avatar_ne_cell.symm, D.is_consistent.cell.1, D.declared_cell,
    rfl⟩

/-- What stands for the same is the same object. -/
theorem Denotes.unique (h : D.Denotes o r) (h' : D.Denotes o' r) : o = o' := by
  cases r with
  | avatar => exact Except.ok.inj (h.symm.trans h')
  | thing v c => exact Except.ok.inj (h.2.2.symm.trans h'.2.2)

/-- **Objects of the same name stand for the same**, unless the avatar's variable is spelled like
another one with a cell at its end. -/
theorem Denotes.referent_eq
    (hapart : ∀ v, D.Declares v → ∀ x y : Int, D.avatar ≠ s!"{v}_{x}_{y}")
    (h : D.Denotes o r) (h' : D.Denotes o' r') (hname : o.name = o'.name) : r = r' := by
  have havatar := D.is_consistent.avatar.1
  cases r with
  | avatar =>
    cases r' with
    | avatar => rfl
    | thing v c =>
      obtain ⟨-, hv, hdeclared, rfl⟩ := denotes_thing_iff.1 h'
      rw [denotes_avatar_iff.1 h] at hname
      exact absurd ((Template.name_singleton_eq_iff havatar hv).1 hname) (hapart v hdeclared _ _)
  | thing v c =>
    obtain ⟨-, hv, hdeclared, rfl⟩ := denotes_thing_iff.1 h
    cases r' with
    | avatar =>
      rw [denotes_avatar_iff.1 h'] at hname
      exact absurd ((Template.name_singleton_eq_iff havatar hv).1 hname.symm)
        (hapart v hdeclared _ _)
    | thing v' c' =>
      obtain ⟨-, hv', -, rfl⟩ := denotes_thing_iff.1 h'
      obtain ⟨rfl, hx, hy⟩ := (Template.name_atCell_inj_of_isPlaceholder hv hv').1 hname
      obtain rfl : c = c' := by
        cases c
        cases c'
        cases hx
        cases hy
        rfl
      rfl

/-! ### Facts -/

/-- Every object in an atom stands for something. -/
def Refers (D : Domain) (a : Atom) : Prop := ∀ o ∈ a.objects, ∃ r, D.Denotes o r

theorem refers_fill {t : Template} {f : String → Argument}
    (h : ∀ v ∈ t.variableNames, ∃ o r, f v = .object o ∧ D.Denotes o r) : D.Refers (t.fill f) := by
  intro o ho
  obtain ⟨v, hv, hf⟩ := Atom.exists_of_mem_objects_fill ho
  obtain ⟨p, r, hp, hr⟩ := h v hv
  cases hf.symm.trans hp
  exact ⟨r, hr⟩

/-- A template that is filled with the avatar alone. -/
theorem refers_fill_avatar (D : Domain) (t : Template) : D.Refers (t.fill D.avatarFill) :=
  refers_fill fun _ _ => ⟨D.theAvatar, .avatar, rfl, D.denotes_theAvatar⟩

theorem refers_connectionAtom (D : Domain) (l : Link) : D.Refers (D.connectionAtom l) :=
  refers_fill fun _ _ => ⟨_, _, rfl, D.denotes_theCell _⟩

variable {mode : Mode} {g : Connectivity} {s : Snapshot} {f : Fact}

theorem refers_factAt {site : Site} (h : ∀ v ∈ site.template.variableNames,
    D.Declares v ∧ Template.isPlaceholder v = true) : D.Refers (D.factAt mode site).atom := by
  have hatom : (D.factAt mode site).atom = site.template.fill (D.cellFill site.cell) := by
    cases mode <;> rfl
  rw [hatom]
  refine refers_fill fun v hv => ?_
  rw [cellFill]
  by_cases havatar : v = D.avatar
  · exact ⟨D.theAvatar, .avatar, by rw [if_pos havatar], D.denotes_theAvatar⟩
  · refine ⟨D.thingAt v site.cell, .thing v site.cell, by rw [if_neg havatar], ?_⟩
    exact denotes_thing_iff.2 ⟨havatar, (h v hv).2, (h v hv).1, rfl⟩

theorem refers_facingFacts {facing : Orientation} (h : f ∈ D.facingFacts facing) :
    D.Refers f.atom := by
  obtain ⟨t, rfl⟩ := exists_fill_of_mem_facingFacts h
  exact D.refers_fill_avatar t

theorem refers_spriteFacts (hD : D.UsesPlaceholders) {facing : Orientation}
    (h : f ∈ D.spriteFacts mode facing (D.sites s)) : D.Refers f.atom := by
  rcases eq_factAt_or_mem_facingFacts h with ⟨site, hsite, rfl⟩ | hfacing
  · -- Every template at a site is one of the templates of a key.
    obtain ⟨c, -, key, -, t, ht, rfl⟩ := mem_sites_iff.1 hsite
    exact refers_factAt fun v hv => ⟨declared_of_mem_templatesOf ht hv, hD key t ht v hv⟩
  · exact refers_facingFacts hfacing

/-- **The objects of a state** stand for something, if those of the connectivity do. -/
theorem refers_stateFacts (hD : D.UsesPlaceholders) (hg : ∀ a ∈ g.atoms, D.Refers a)
    {facing : Orientation} {picked : String → Int}
    (h : f ∈ D.stateFacts mode g s facing picked) : D.Refers f.atom := by
  rw [stateFacts, List.mem_append, List.mem_append] at h
  rcases h with (hsprite | hcollected) | hconnectivity
  · exact refers_spriteFacts hD hsprite
  · obtain ⟨e, -, rfl⟩ := List.mem_map.1 hcollected
    exact D.refers_fill_avatar e.2
  · cases mode with
    | cell =>
      obtain ⟨a, ha, rfl⟩ := List.mem_map.1 hconnectivity
      exact hg a ha
    | numeric => cases hconnectivity

theorem refers_connectivityOf (D : Domain) (s : Snapshot) :
    ∀ a ∈ (D.connectivityOf s).atoms, D.Refers a := by
  intro a ha
  obtain ⟨l, -, rfl⟩ := List.mem_map.1 (List.mem_eraseDups.1 ha)
  exact D.refers_connectionAtom l

/-! ### Actions -/

theorem exists_denotes_of_mem_cellArgs {source target : Cell}
    (h : .object o ∈ D.cellArgs mode source target) : ∃ r, D.Denotes o r := by
  cases mode with
  | cell =>
    simp only [cellArgs, List.mem_cons, Argument.object.injEq, List.not_mem_nil, or_false] at h
    rcases h with rfl | rfl
    · exact ⟨_, D.denotes_theCell source⟩
    · exact ⟨_, D.denotes_theCell target⟩
  | numeric => cases h

/-- A collected resource is named after a variable of its templates. -/
theorem denotes_resource (hD : D.UsesPlaceholders) {key : String}
    (h : D.resourceVariable? key = some v) (c : Cell) : D.Denotes (D.thingAt v c) (.thing v c) := by
  obtain ⟨hdeclared, -, havatar⟩ := resourceVariable?_eq_some h
  obtain ⟨t, ht, hv⟩ := List.mem_flatMap.1 (List.mem_of_find?_eq_some h)
  exact denotes_thing_iff.2 ⟨havatar, hD key t ht v hv, hdeclared, rfl⟩

/-- The avatar and the cells of an action. -/
theorem exists_denotes_of_mem_avatar_cons {source target : Cell}
    (h : .object o ∈ .object D.theAvatar :: D.cellArgs mode source target) :
    ∃ r, D.Denotes o r := by
  rcases List.mem_cons.1 h with heq | hcell
  · cases heq
    exact ⟨.avatar, D.denotes_theAvatar⟩
  · exact exists_denotes_of_mem_cellArgs hcell

theorem refers_moveAtom (hD : D.UsesPlaceholders) (d : Direction) (source : Cell)
    (picked : Option String) : D.Refers (D.moveAtom mode d source picked) := by
  intro o ho
  rw [Atom.mem_objects_iff] at ho
  simp only [moveAtom] at ho
  split at ho
  · exact exists_denotes_of_mem_avatar_cons ho
  · rename_i v hv
    obtain ⟨key, -, hkey⟩ := Option.bind_eq_some_iff.1 hv
    rcases List.mem_append.1 ho with hcell | hresource
    · exact exists_denotes_of_mem_avatar_cons hcell
    · cases List.mem_singleton.1 hresource
      exact ⟨_, denotes_resource hD hkey _⟩

/-- **The objects of an action** stand for something. -/
theorem refers_actionAtom (hD : D.UsesPlaceholders) (a : Action) (source ahead : Cell)
    (turned : Bool) (picked : Option String) :
    D.Refers (D.actionAtom mode a source ahead turned picked) := by
  unfold actionAtom
  split
  · intro o ho
    cases List.mem_singleton.1 (Atom.mem_objects_iff.1 ho)
    exact ⟨.avatar, D.denotes_theAvatar⟩
  · cases a with
    | use => exact fun o ho => exists_denotes_of_mem_avatar_cons (Atom.mem_objects_iff.1 ho)
    | move d => exact refers_moveAtom hD d source picked

/-- Every action names the avatar. -/
theorem theAvatar_mem_objects_actionAtom (D : Domain) (a : Action) (source ahead : Cell)
    (turned : Bool) (picked : Option String) :
    D.theAvatar ∈ (D.actionAtom mode a source ahead turned picked).objects := by
  rw [Atom.mem_objects_iff]
  unfold actionAtom
  split
  · exact List.mem_cons_self
  · cases a with
    | use => exact List.mem_cons_self
    | move d =>
      simp only [moveAtom]
      split
      · exact List.mem_cons_self
      · exact List.mem_append_left _ List.mem_cons_self

end Domain

end PlayTrace
