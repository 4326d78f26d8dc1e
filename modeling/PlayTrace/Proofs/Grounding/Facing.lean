import PlayTrace.Proofs.Grounding.Blocks
import PlayTrace.Proofs.Grounding.Totality

/-!
# Where the avatar looks

A domain may have templates that say where the avatar looks. What they add to a state is at most one
fact, and it has a fixed place: right before the first fact that comes from a template mentioning
the avatar, however many cells, keys and templates mention it after that, and whatever other
templates of the same key come before it. If nothing mentions the avatar, or the orientation faces
no direction, the state is the one that a domain without these templates has.

So the states of the two domains are compared: of the domain as it is, and of the domain without its
orientations, which is the same in everything else.

## Main definitions

* `Domain.unoriented` — a domain without templates for where the avatar looks
* `Domain.MentionsAvatar` — some key of a snapshot has a template that mentions the avatar
* `Domain.FirstMention` — the first site whose template does
* `Domain.InsertsAtMention` — a state with one fact more, right before the first such fact

## Main results

* `Domain.exists_firstMention` — where the avatar is mentioned, it is mentioned first somewhere
* `Domain.spriteFacts_eq_insert` — the place of what is said about the orientation
* `Domain.exists_groundState_eq_ok_insert` — the two states compared
-/

namespace PlayTrace

namespace Domain

variable {D : Domain} {mode : Mode} {s : Snapshot} {o : Orientation}

/-- The domain without templates for where the avatar looks. -/
def unoriented (D : Domain) : Domain where
  toDomainTables := { D.toDomainTables with orientations := none }
  consistent := by
    have h := D.is_consistent
    exact DomainTables.fault?_eq_none_iff.2
      ⟨h.avatar, h.cell, h.avatar_ne_cell, h.elements, h.pickups, h.connections, by simp⟩

/-! ### Mentions of the avatar -/

/-- A key in the grid has a template that mentions the avatar. -/
def MentionsAvatar (D : Domain) (s : Snapshot) : Prop :=
  ∃ key, 0 < s.count key ∧ ∃ t ∈ D.templatesOf key, t.uses D.avatar = true

/-- The first of the sites of a snapshot whose template mentions the avatar, with the sites before
and after it. Sites are listed row by row, in a cell by its distinct keys in the order of their
first appearance, and for a key by its templates. -/
structure FirstMention (D : Domain) (s : Snapshot) (before : List Site) (site : Site)
    (after : List Site) : Prop where
  sites_eq : D.sites s = before ++ site :: after
  uses_before : ∀ p ∈ before, p.template.uses D.avatar = false
  uses_site : site.template.uses D.avatar = true

/-- A state with one fact more than another, right before the first fact that comes from a template
mentioning the avatar. -/
def InsertsAtMention (D : Domain) (mode : Mode) (s : Snapshot) (said : Fact)
    (plain facts : List Fact) : Prop :=
  ∃ before site after front fact rest, D.FirstMention s before site after ∧
    before.mapM (D.siteFact mode) = .ok front ∧ D.siteFact mode site = .ok fact ∧
    plain = front ++ fact :: rest ∧ facts = front ++ said :: fact :: rest

theorem mentionsAvatar_iff :
    D.MentionsAvatar s ↔ ∃ site ∈ D.sites s, site.template.uses D.avatar = true := by
  constructor
  · rintro ⟨key, hkey, t, ht, huses⟩
    obtain ⟨c, hc, hmem⟩ := Snapshot.count_pos_iff.1 hkey
    exact ⟨⟨c, t⟩, mem_sites_iff.2 ⟨c, hc, key, hmem, t, ht, rfl⟩, huses⟩
  · rintro ⟨site, hsite, huses⟩
    obtain ⟨c, hc, key, hkey, t, ht, rfl⟩ := mem_sites_iff.1 hsite
    exact ⟨key, Snapshot.count_pos_iff.2 ⟨c, hc, hkey⟩, t, ht, huses⟩

/-- Where the avatar is mentioned, it is mentioned first somewhere. -/
theorem exists_firstMention (h : D.MentionsAvatar s) :
    ∃ before site after, D.FirstMention s before site after := by
  have hfound : ((D.sites s).find? fun site => site.template.uses D.avatar).isSome := by
    rw [List.find?_isSome]
    exact mentionsAvatar_iff.1 h
  obtain ⟨site, hsite⟩ := Option.isSome_iff_exists.1 hfound
  obtain ⟨huses, before, after, heq, hbefore⟩ := List.find?_eq_some_iff_append.1 hsite
  exact ⟨before, site, after, heq, fun p hp => by simpa using hbefore p hp, huses⟩

/-! ### The place of the orientation -/

/-- Nothing is said about the orientation where there is nothing to say. -/
theorem spriteFacts_of_facingFacts_eq_nil (h : D.facingFacts o = []) (sites : List Site) :
    D.spriteFacts mode o sites = sites.map (D.factAt mode) := by
  induction sites with
  | nil => rfl
  | cons site rest ih =>
    rw [spriteFacts, ih, h]
    split <;> rfl

/-- Nothing is said about the orientation before a mention of the avatar. -/
theorem spriteFacts_append {before : List Site}
    (h : ∀ p ∈ before, p.template.uses D.avatar = false) (rest : List Site) :
    D.spriteFacts mode o (before ++ rest) =
      before.map (D.factAt mode) ++ D.spriteFacts mode o rest := by
  induction before with
  | nil => rfl
  | cons p before ih =>
    have huses := h p List.mem_cons_self
    rw [List.cons_append, spriteFacts, if_neg (by simp [huses]),
      ih fun q hq => h q (List.mem_cons_of_mem p hq)]
    rfl

/-- **The place of what is said about the orientation**: right before the first site that mentions
the avatar. -/
theorem spriteFacts_eq_insert {before after : List Site} {site : Site}
    (h : D.FirstMention s before site after) :
    D.spriteFacts mode o (D.sites s) =
      before.map (D.factAt mode) ++
        (D.facingFacts o ++ D.factAt mode site :: after.map (D.factAt mode)) := by
  rw [h.sites_eq, spriteFacts_append h.uses_before, spriteFacts, if_pos h.uses_site, List.map_cons]

/-- Nothing is said about the orientation where the avatar is not mentioned. -/
theorem spriteFacts_of_not_mentionsAvatar (h : ¬ D.MentionsAvatar s) :
    D.spriteFacts mode o (D.sites s) = (D.sites s).map (D.factAt mode) := by
  have huses : ∀ site ∈ D.sites s, site.template.uses D.avatar = false := by
    intro site hsite
    by_contra hne
    exact h (mentionsAvatar_iff.2 ⟨site, hsite, by simpa using hne⟩)
  have hall : D.spriteFacts mode o (D.sites s ++ []) = _ := spriteFacts_append huses []
  rwa [List.append_nil, spriteFacts, List.append_nil] at hall

/-! ### The two domains -/

variable (D mode) in
/-- A domain without orientations has a fact for each site and no other fact about sprites. -/
theorem stateFacts_unoriented (g : Connectivity) (s : Snapshot) (o : Orientation)
    (picked : String → Int) :
    D.unoriented.stateFacts mode g s o picked =
      (D.sites s).map (D.factAt mode) ++ D.collectedFacts picked ++ connectivityFacts mode g := by
  rw [stateFacts, spriteFacts_of_facingFacts_eq_nil rfl]
  rfl

/-- **What the orientations of a domain add to a state.** Without a direction that is faced, or
without a mention of the avatar, nothing. Otherwise one fact, the template of the direction about
the avatar, right before the first fact that comes from a template mentioning the avatar. -/
theorem exists_groundState_eq_ok_insert {table : Table Direction Template}
    (htable : D.orientations = some table) (mode : Mode) (g : Connectivity) (s : Snapshot)
    (o : Orientation) (picked : String → Int) :
    ∃ plain facts, D.unoriented.groundState mode g s o picked = .ok plain ∧
      D.groundState mode g s o picked = .ok facts ∧
      (o.facing? = none ∨ ¬ D.MentionsAvatar s → facts = plain) ∧
      ∀ d, o.facing? = some d → D.MentionsAvatar s →
        ∃ t a, table.get? d = some t ∧ t.instantiate D.avatarBinding = .ok a ∧
          D.InsertsAtMention mode s (.plain a) plain facts := by
  refine ⟨_, _, groundState_eq .., groundState_eq .., ?_, ?_⟩
  · intro h
    rw [stateFacts_unoriented, stateFacts]
    rcases h with hnone | hmentions
    · rw [spriteFacts_of_facingFacts_eq_nil (by rw [facingFacts, htable, hnone])]
    · rw [spriteFacts_of_not_mentionsAvatar hmentions]
  · intro d hd hmentions
    obtain ⟨t, ht, honly⟩ := exists_orientation htable d
    obtain ⟨before, site, after, hfirst⟩ := exists_firstMention hmentions
    have hdeclared : ∀ p ∈ D.sites s, D.siteFact mode p = .ok (D.factAt mode p) :=
      fun p hp => siteFact_eq fun v hv => declared_of_mem_sites hp hv
    rw [hfirst.sites_eq] at hdeclared
    have hfacing : D.facingFacts o = [.plain (t.fill D.avatarFill)] := by
      rw [facingFacts, htable, hd]
      simp [ht]
    refine ⟨t, _, ht, instantiate_avatarBinding_eq honly, before, site, after, _, _,
      after.map (D.factAt mode) ++ D.collectedFacts picked ++ connectivityFacts mode g, hfirst,
      mapM_eq_ok_map fun p hp => hdeclared p (List.mem_append_left _ hp),
      hdeclared site (by simp), ?_, ?_⟩
    · rw [stateFacts_unoriented, hfirst.sites_eq]
      simp
    · rw [stateFacts, spriteFacts_eq_insert hfirst, hfacing]
      simp

/-- The domain of a compass whose avatar haunts its cell before anything is said of the avatar
itself. -/
def hauntingDomain : Domain where
  toDomainTables := { compassTables with
    elements := .ofList [("avatar", [⟨"", "HAUNTED", [.placeholder "?c"]⟩,
        ⟨"", "AT", [.placeholder "?a", .placeholder "?c"]⟩, ⟨"", "ALIVE", [.placeholder "?a"]⟩]),
      ("ghost", [⟨"", "HAUNTED", [.placeholder "?c"]⟩])] }
  consistent := by decide

/-- A ghost in one cell, and in the next a ghost and the avatar twice. -/
def hauntedHall : Snapshot where
  width := 2
  height := 1
  columns := [[["ghost"]], [["ghost", "avatar", "avatar"]]]
  width_pos := by decide
  height_pos := by decide
  length_columns := rfl
  length_column := by simp
  cell_ne_nil := by simp

/-- That the avatar looks to the right is said after its cell is called haunted, and right before it
is said where the avatar is. -/
theorem exists_groundState_hauntedHall_eq_ok_insert :
    ∃ table, hauntingDomain.orientations = some table ∧
      Orientation.facing? ⟨1, .undefined⟩ = some .right ∧
      hauntingDomain.MentionsAvatar hauntedHall ∧
      ∃ plain facts t a,
        hauntingDomain.unoriented.groundState .numeric ⟨[], [], []⟩ hauntedHall ⟨1, .undefined⟩
          (fun _ => 1) = .ok plain ∧
        hauntingDomain.groundState .numeric ⟨[], [], []⟩ hauntedHall ⟨1, .undefined⟩
          (fun _ => 1) = .ok facts ∧
        table.get? .right = some t ∧ t.instantiate hauntingDomain.avatarBinding = .ok a ∧
        hauntingDomain.InsertsAtMention .numeric hauntedHall (.plain a) plain facts := by
  have hright : Orientation.facing? ⟨1, .undefined⟩ = some .right := by decide
  have hmentions : hauntingDomain.MentionsAvatar hauntedHall :=
    ⟨"avatar", by decide, ⟨"", "AT", [.placeholder "?a", .placeholder "?c"]⟩, by decide, by decide⟩
  obtain ⟨plain, facts, hplain, hfacts, -, hinsert⟩ := exists_groundState_eq_ok_insert
    (D := hauntingDomain) rfl .numeric ⟨[], [], []⟩ hauntedHall ⟨1, .undefined⟩ (fun _ => 1)
  obtain ⟨t, a, ht, ha, hplace⟩ := hinsert .right hright hmentions
  exact ⟨_, rfl, hright, hmentions, plain, facts, t, a, hplain, hfacts, ht, ha, hplace⟩

end Domain

end PlayTrace
