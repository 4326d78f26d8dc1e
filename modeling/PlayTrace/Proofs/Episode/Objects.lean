import PlayTrace.Proofs.Episode.Actions
import PlayTrace.Proofs.Grounding.Objects

/-!
# The objects of a trace

A trace gives its objects by name. The names come from several places: from the templates of the
sprites, from the connectivity, from the actions and from what they collect. Yet everywhere in a
trace a name belongs to one object, which has one type and stands for the avatar or for one variable
at one cell.

## Main definitions

* `Trace.objects` — the objects of a trace

## Main results

* `Episode.exists_denotes_of_mem_account` — every object of an episode stands for something
* `Episode.objects_told_by_names` — names of objects, alone and in traces
-/

namespace PlayTrace

/-- The objects in the states and actions of a trace. -/
def Trace.objects (t : Trace) : List Object :=
  (t.states.flatMap fun e => e.2.flatMap fun f => f.atom.objects) ++
    t.actions.flatMap fun e => e.2.objects

namespace Agent

open World

variable {A : Agent} {w : World} {l : Ledger} {a : Action} {atom : Atom}

/-- However an action is described, the atom is that of some cells and some resource. -/
theorem Describes.exists_actionAtom {hw : Sound w} (h : A.Describes l hw a atom) :
    ∃ source ahead turned picked,
      atom = A.domain.actionAtom A.mode a source ahead turned picked := by
  obtain ⟨source, -, hsource, -⟩ := id h
  obtain ⟨o, ho⟩ := hw.faces
  obtain ⟨picked, -, hatom⟩ := h.exists_atom_eq hsource ho
  exact ⟨source, _, _, picked, hatom⟩

theorem Describes.refers {hw : Sound w} (h : A.Describes l hw a atom)
    (hD : A.domain.UsesPlaceholders) : A.domain.Refers atom := by
  obtain ⟨source, ahead, turned, picked, rfl⟩ := h.exists_actionAtom
  exact Domain.refers_actionAtom hD a source ahead turned picked

theorem Describes.theAvatar_mem {hw : Sound w} (h : A.Describes l hw a atom) :
    A.domain.theAvatar ∈ atom.objects := by
  obtain ⟨source, ahead, turned, picked, rfl⟩ := h.exists_actionAtom
  exact A.domain.theAvatar_mem_objects_actionAtom a source ahead turned picked

end Agent

namespace Episode

open World Agent Template

variable {σ : Type} {D : Domain} {mode : Mode} {w : World} {hw : Sound w} {draw : Draw σ} {s : σ}
  {n : Nat} {atoms : Nat → Atom}

/-- **Every object of an episode stands for something.** -/
theorem exists_denotes_of_mem_account (hD : D.UsesPlaceholders)
    (h : Course D mode hw draw s n atoms) {o : Object}
    (ho : o ∈ (account D mode hw draw s n atoms).trace.objects) : ∃ r, D.Denotes o r := by
  rcases List.mem_append.1 ho with hstate | haction
  · obtain ⟨state, hstate, ho⟩ := List.mem_flatMap.1 hstate
    obtain ⟨i, -, rfl⟩ := List.mem_map.1 hstate
    obtain ⟨f, hf, ho⟩ := List.mem_flatMap.1 ho
    exact Domain.refers_stateFacts hD (D.refers_connectivityOf hw.picture) hf o ho
  · obtain ⟨action, haction, ho⟩ := List.mem_flatMap.1 haction
    obtain ⟨i, -, rfl⟩ := List.mem_map.1 haction
    exact (h.narrates i).refers hD o ho

/-- Every trace has the avatar in it. -/
theorem theAvatar_mem_objects_account (h : Course D mode hw draw s n atoms) :
    D.theAvatar ∈ (account D mode hw draw s n atoms).trace.objects := by
  refine List.mem_append_right _ (List.mem_flatMap.2 ⟨(0, atoms 0), ?_, (h.narrates 0).theAvatar_mem⟩)
  exact List.mem_map.2 ⟨0, List.mem_range.2 h.pos, rfl⟩

/-- **Objects are told by their names.** Placeholders at cells have the same name only if they are
the same placeholder at the same cell, and in capitals only if they are the same but for capitals at
the same cell. An object without a cell shares the name of one at a cell exactly if its placeholder
is spelled with that cell at its end. So, whatever is played in a domain of placeholders, such as
every domain that was read from a document, if its avatar is not spelled like that, each name in the
trace has one type and stands for the avatar or for one variable at one cell. -/
theorem objects_told_by_names :
    (∀ (u v type type' : String) (i j x y : Int), isPlaceholder u = true →
      isPlaceholder v = true →
        ((Object.atCell u type i j).name = (Object.atCell v type' x y).name ↔
          u = v ∧ i = x ∧ j = y) ∧
        (Text.upper (Object.atCell u type i j).name =
            Text.upper (Object.atCell v type' x y).name ↔
          Text.lowerAscii u = Text.lowerAscii v ∧ i = x ∧ j = y) ∧
        ((Object.singleton u type).name = (Object.atCell v type' x y).name ↔
          u = s!"{v}_{x}_{y}")) ∧
    (∀ value D, Domain.ofValue value = .ok D → D.UsesPlaceholders) ∧
    ∀ D : Domain, D.UsesPlaceholders →
      (∀ v, D.Declares v → ∀ x y : Int, D.avatar ≠ s!"{v}_{x}_{y}") →
      ∀ (g : Game) (p : Precision), (World.ofGame g p).Measurable →
      ∀ (settings : Settings) (draw : Draw σ) (source : σ),
        ∃ e, play D settings draw (World.ofGame g p) source = .ok e ∧
          (∀ o ∈ e.trace.objects, ∀ o' ∈ e.trace.objects, o.name = o'.name → o.type = o'.type) ∧
          ∀ o ∈ e.trace.objects, ∃ r, ∀ o' ∈ e.trace.objects, o'.name = o.name →
            ∀ r', D.Denotes o' r' ↔ r' = r := by
  refine ⟨fun u v type type' i j x y hu hv => ⟨name_atCell_inj_of_isPlaceholder hu hv,
    upper_name_atCell_inj hu hv, name_singleton_eq_iff hu hv⟩,
    fun value D => Domain.usesPlaceholders_of_ofValue, ?_⟩
  intro D hD hapart g p hm settings draw source
  obtain ⟨n, atoms, hcourse⟩ :=
    exists_course D settings.mode (World.sound_ofGame g p) hm rfl draw source
  refine ⟨_, hcourse.play_eq rfl, fun o ho o' ho' hname => ?_, fun o ho => ?_⟩
  · obtain ⟨r, hr⟩ := exists_denotes_of_mem_account hD hcourse ho
    obtain ⟨r', hr'⟩ := exists_denotes_of_mem_account hD hcourse ho'
    obtain rfl := hr.referent_eq hapart hr' hname
    rw [hr.unique hr']
  · -- The referent of one object is that of all others with its name.
    obtain ⟨r, hr⟩ := exists_denotes_of_mem_account hD hcourse ho
    refine ⟨r, fun o' ho' hname r' => ⟨fun h => h.referent_eq hapart hr hname, ?_⟩⟩
    rintro rfl
    obtain ⟨r', hr'⟩ := exists_denotes_of_mem_account hD hcourse ho'
    rwa [← hr'.referent_eq hapart hr hname]

/-- Underscores in a variable are not taken for those of a cell, and in the corridor the name of the
avatar stands for nothing else. -/
theorem objects_told_by_names_corridor :
    (isPlaceholder "?gem_1" = true ∧ isPlaceholder "?gem" = true ∧
      (Object.atCell "?gem_1" "gem" 2 3).name ≠ (Object.atCell "?gem" "gem" 1 2).name) ∧
    gemDomain.UsesPlaceholders ∧
    (∀ v, gemDomain.Declares v → ∀ x y : Int, gemDomain.avatar ≠ s!"{v}_{x}_{y}") ∧
    (World.ofGame corridor .binary64).Measurable ∧
      ∃ e, play gemDomain .standard rightward (World.ofGame corridor .binary64) () = .ok e ∧
        gemDomain.theAvatar ∈ e.trace.objects ∧
        ∀ o ∈ e.trace.objects, o.name = gemDomain.theAvatar.name →
          ∀ r, gemDomain.Denotes o r ↔ r = .avatar := by
  have hD : gemDomain.UsesPlaceholders := by
    have hall : ∀ e ∈ gemDomain.elements.entries, ∀ t ∈ e.2, ∀ v ∈ t.variableNames,
        isPlaceholder v = true := by
      decide +kernel
    intro key t ht
    obtain ⟨ts, hkey, ht⟩ := Domain.exists_get?_of_mem_templatesOf ht
    exact hall _ (Table.get?_eq_some_iff.1 hkey) t ht
  have hapart : ∀ v, gemDomain.Declares v → ∀ x y : Int, gemDomain.avatar ≠ s!"{v}_{x}_{y}" := by
    intro v _ x y h
    have hmem : '_' ∈ gemDomain.avatar.toList := by
      rw [h, String.toList_append, String.toList_append]
      exact List.mem_append_left _ (List.mem_append_right _ (by decide))
    exact absurd hmem (by decide)
  have hm : (World.ofGame corridor .binary64).Measurable := fun _ => by decide
  have hgem : isPlaceholder "?gem_1" = true ∧ isPlaceholder "?gem" = true := by decide +kernel
  obtain ⟨hnames, -, htraces⟩ := objects_told_by_names (σ := Unit)
  refine ⟨⟨hgem.1, hgem.2, fun h => ?_⟩, hD, hapart, hm, ?_⟩
  · obtain ⟨heq, -, -⟩ := (hnames _ _ _ _ _ _ _ _ hgem.1 hgem.2).1.1 h
    exact absurd heq (by decide)
  · obtain ⟨e, he, -, hreferent⟩ :=
      htraces gemDomain hD hapart corridor .binary64 hm .standard rightward ()
    have havatar : gemDomain.theAvatar ∈ e.trace.objects := by
      obtain ⟨n, atoms, hcourse⟩ := exists_course gemDomain Settings.standard.mode
        (World.sound_ofGame corridor .binary64) hm rfl rightward ()
      obtain rfl := Except.ok.inj (he.symm.trans (hcourse.play_eq rfl))
      exact theAvatar_mem_objects_account hcourse
    obtain ⟨r, hr⟩ := hreferent gemDomain.theAvatar havatar
    obtain rfl := (hr gemDomain.theAvatar havatar rfl .avatar).1 gemDomain.denotes_theAvatar
    exact ⟨e, he, havatar, hr⟩

end Episode

end PlayTrace
