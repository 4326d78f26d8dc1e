import Mathlib.Data.List.Perm.Subperm
import PlayTrace.Proofs.Domain.Consistency
import PlayTrace.Proofs.Domain.Reading
import PlayTrace.Proofs.Lists

/-!
# Which documents are domains

A domain document may be any value, and reading it passes some twenty checks in an order of its own.
`Domain.WellFormed` says without that order, and without the tables that the reader builds, which
documents are domains: what each part has to be, which texts have to be templates, and which
variables each template may and must speak of. Of the templates that are listed for a direction only
the last one counts, since keys that differ in their capitals name the same direction; the others
have to be templates, but may speak of anything.

A document in JSON is read as a domain if and only if it is well-formed, and if it is not, the
document is to blame for it and not a text that cannot be written.

## Main definitions

* `Domain.WellFormed` — the documents that are domains

## Main results

* `Domain.exists_says_iff` — a document says consistent tables if and only if it is well-formed
* `Domain.ofValue_ok_iff_wellFormed` — reading a domain from a document in JSON
-/

namespace PlayTrace

namespace Domain

open DomainTables Value

/-! ### Well-formed documents -/

/-- A variable is a key of a mapping. -/
def DeclaredIn (types : List (Value × Value)) (x : String) : Prop := ∃ e ∈ types, e.1 = .text x

/-- A template is the one that counts for a direction: its key names the direction, and no later key
does. -/
def Counts (es : List (Value × Value)) (d : Direction) (t : Template) : Prop :=
  ∃ before e after, es = before ++ e :: after ∧ e.1.Names d ∧ (∀ f ∈ after, ¬ f.1.Names d) ∧
    e.2.Writes t

/-- A mapping lists templates for all directions and for nothing else. -/
structure ListsDirections (es : List (Value × Value)) : Prop where
  keys : ∀ e ∈ es, ∃ d, e.1.Names d
  templates : ∀ e ∈ es, ∃ t, e.2.Writes t
  all : ∀ d, ∃ e ∈ es, e.1.Names d

/-- The entries of a document, its parts and its two leading variables are those of a domain. -/
structure WellFormedParts (document types elements connections : List (Value × Value))
    (avatar cell : String) : Prop where
  types_eq : lookup? document "variablesTypes" = some (.mapping types)
  elements_eq : lookup? document "gameElementsCorrespondence" = some (.mapping elements)
  connections_eq : lookup? document "connections" = some (.mapping connections)
  avatar_eq : lookup? document "avatarVariable" = some (.text avatar)
  cell_eq : lookup? document "cellVariable" = some (.text cell)
  avatar_ne_cell : avatar ≠ cell
  leading_avatar : Template.isPlaceholder avatar = true ∧ DeclaredIn types avatar
  leading_cell : Template.isPlaceholder cell = true ∧ DeclaredIn types cell
  /-- the sprites: lists of templates whose variables all have types -/
  sprite_templates : ∀ e ∈ elements, ∃ items, e.2 = .list items ∧
    ∀ item ∈ items, ∃ t, item.Writes t ∧ ∀ x ∈ t.variableNames, DeclaredIn types x
  /-- the collected resources: missing, not present, or templates about the avatar alone -/
  pickup_templates : ∀ v, lookup? document "pickedResourcesPredicates" = some v →
    v.isPresent = false ∨ ∃ es, v = .mapping es ∧
      ∀ e ∈ es, ∃ t, e.2.Writes t ∧ ∀ x ∈ t.variableNames, x = avatar
  /-- the connections: of the cell with exactly one neighbour, all with types -/
  connection_templates : ListsDirections connections ∧ ∀ d t, Counts connections d t →
    (∀ x ∈ t.variableNames, DeclaredIn types x) ∧ cell ∈ t.variableNames ∧
      ∃! x, x ∈ t.variableNames ∧ x ≠ cell
  /-- the orientations: missing, null, or templates about the avatar alone -/
  orientation_templates : ∀ v, lookup? document "orientationCorrespondence" = some v →
    v = .null ∨ ∃ es, v = .mapping es ∧ ListsDirections es ∧
      ∀ d t, Counts es d t → ∀ x ∈ t.variableNames, x = avatar

/-- A document is that of a domain. -/
def WellFormed (v : Value) : Prop :=
  ∃ document types elements connections avatar cell, v = .mapping document ∧
    WellFormedParts document types elements connections avatar cell

/-! ### Tables of a document -/

variable {es : List (Value × Value)}

theorem declares_iff {t : DomainTables} (h : Lists Spells Shows es t.types) {x : String} :
    t.Declares x ↔ DeclaredIn es x := by
  obtain ⟨read, hread, htypes⟩ := h
  rw [Declares, htypes, Table.mem_keys_ofList, List.mem_map]
  constructor
  · rintro ⟨r, hr, rfl⟩
    obtain ⟨e, he, hkey, -⟩ := exists_of_forall₂_right hread hr
    exact ⟨e, he, hkey⟩
  · rintro ⟨e, he, hkey⟩
    obtain ⟨r, hr, hspells, -⟩ := exists_of_forall₂_left hread he
    exact ⟨r, hr, (Value.text.inj (hkey.symm.trans hspells)).symm⟩

/-- If keys and values can be read, the mapping can. -/
theorem exists_entries {κ α : Type} {K : Value → κ → Prop} {V : Value → α → Prop}
    (keys : ∀ e ∈ es, ∃ k, K e.1 k) (values : ∀ e ∈ es, ∃ a, V e.2 a) :
    ∃ read, List.Forall₂ (Entry K V) es read := by
  refine exists_forall₂ fun e he => ?_
  obtain ⟨k, hk⟩ := keys e he
  obtain ⟨a, ha⟩ := values e he
  exact ⟨(k, a), hk, ha⟩

/-- The keys of a table are those of its mapping, so they are as distinct. -/
theorem nodup_keys_of_spells {α : Type} {V : Value → α → Prop} {read : List (String × α)}
    (h : List.Forall₂ (Entry Spells V) es read) (distinct : (es.map Prod.fst).Nodup) :
    (read.map Prod.fst).Nodup := by
  have hkeys : es.map Prod.fst = (read.map Prod.fst).map .text := by
    induction h with
    | nil => rfl
    | cons hentry _ ih =>
      rw [List.map_cons, List.map_cons, List.map_cons, hentry.1, ih (List.nodup_cons.1 distinct).2]
  exact List.Nodup.of_map Value.text (hkeys ▸ distinct)

/-- A mapping with distinct texts as keys is a table whose values have a property if and only if
each of its values is one. -/
theorem exists_lists_iff {α : Type} {V : Value → α → Prop} {Q : α → Prop}
    (keys : ∀ e ∈ es, ∃ k, e.1 = .text k) (distinct : (es.map Prod.fst).Nodup) :
    (∃ table, Lists Spells V es table ∧ ∀ r ∈ table.entries, Q r.2) ↔
      ∀ e ∈ es, ∃ a, V e.2 a ∧ Q a := by
  constructor
  · rintro ⟨_, ⟨read, hread, rfl⟩, hQ⟩ e he
    rw [Table.entries_ofList (nodup_keys_of_spells hread distinct)] at hQ
    obtain ⟨r, hr, -, hV⟩ := exists_of_forall₂_left hread he
    exact ⟨r.2, hV, hQ r hr⟩
  · intro h
    have hentry : ∀ e ∈ es, ∃ r, Entry Spells V e r ∧ Q r.2 := by
      intro e he
      obtain ⟨k, hk⟩ := keys e he
      obtain ⟨a, hV, hQ⟩ := h e he
      exact ⟨(k, a), ⟨hk, hV⟩, hQ⟩
    obtain ⟨read, hread, hQ⟩ := exists_forall₂_iff.2 hentry
    refine ⟨_, ⟨read, hread, rfl⟩, ?_⟩
    rwa [Table.entries_ofList (nodup_keys_of_spells hread distinct)]

/-- The same for values that are lists of templates. -/
theorem exists_lists_writesAll_iff {P : Template → Prop} (keys : ∀ e ∈ es, ∃ k, e.1 = .text k)
    (distinct : (es.map Prod.fst).Nodup) :
    (∃ table, Lists Spells WritesAll es table ∧ ∀ r ∈ table.entries, ∀ p ∈ r.2, P p) ↔
      ∀ e ∈ es, ∃ items, e.2 = .list items ∧ ∀ item ∈ items, ∃ t, item.Writes t ∧ P t := by
  rw [exists_lists_iff (Q := fun ts => ∀ p ∈ ts, P p) keys distinct]
  refine forall₂_congr fun e _ => ?_
  simp only [← exists_forall₂_iff, WritesAll]
  constructor
  · rintro ⟨ts, ⟨items, heq, hts⟩, hP⟩
    exact ⟨items, heq, ts, hts, hP⟩
  · rintro ⟨items, heq, ts, hts, hP⟩
    exact ⟨ts, ⟨items, heq, hts⟩, hP⟩

/-- The template that counts for a direction is the one that the table has. -/
theorem counts_iff {read : List (Direction × Template)}
    (h : List.Forall₂ (Entry Names Writes) es read) {d : Direction} {t : Template} :
    Counts es d t ↔ (Table.ofList read).get? d = some t := by
  rw [Table.get?_ofList_eq_some_iff]
  constructor
  · rintro ⟨before, e, after, rfl, hnames, hlast, hwrites⟩
    obtain ⟨before', r, after', rfl, ⟨hkey, hvalue⟩, hafter⟩ := exists_split_of_forall₂ h
    obtain rfl : r = (d, t) := Prod.ext (hkey.unique hnames) (hvalue.unique hwrites)
    refine ⟨before', after', rfl, ?_⟩
    rintro r' hr' rfl
    obtain ⟨f, hf, hkey', -⟩ := exists_of_forall₂_right hafter hr'
    exact hlast f hf hkey'
  · rintro ⟨before, after, rfl, hlast⟩
    obtain ⟨before', e, after', rfl, ⟨hkey, hvalue⟩, hafter⟩ := exists_split_of_forall₂ h.flip
    refine ⟨before', e, after', rfl, hkey, ?_, hvalue⟩
    intro f hf hnames
    obtain ⟨r, hr, hkey', -⟩ := exists_of_forall₂_left hafter.flip hf
    exact hlast r hr (hkey'.unique hnames)

/-- A mapping is a table that has a template with a property for every direction if and only if it
lists directions and the templates that count have the property. -/
theorem exists_directions_iff {P : Template → Prop} :
    (∃ table, Lists Names Writes es table ∧ ∀ d, ∃ t, table.get? d = some t ∧ P t) ↔
      ListsDirections es ∧ ∀ d t, Counts es d t → P t := by
  constructor
  · rintro ⟨_, ⟨read, hread, rfl⟩, hall⟩
    refine ⟨⟨?_, ?_, ?_⟩, ?_⟩
    · intro e he
      obtain ⟨r, -, hnames, -⟩ := exists_of_forall₂_left hread he
      exact ⟨r.1, hnames⟩
    · intro e he
      obtain ⟨r, -, -, hwrites⟩ := exists_of_forall₂_left hread he
      exact ⟨r.2, hwrites⟩
    · intro d
      obtain ⟨t, ht, -⟩ := hall d
      obtain ⟨before, e, after, rfl, hnames, -⟩ := (counts_iff hread).2 ht
      exact ⟨e, by simp, hnames⟩
    · intro d t hcounts
      obtain ⟨t', ht', hP⟩ := hall d
      rw [(counts_iff hread).1 hcounts] at ht'
      exact Option.some.inj ht' ▸ hP
  · rintro ⟨⟨keys, templates, all⟩, hcounts⟩
    obtain ⟨read, hread⟩ := exists_entries keys templates
    refine ⟨_, ⟨read, hread, rfl⟩, ?_⟩
    intro d
    obtain ⟨e, he, hnames⟩ := all d
    obtain ⟨r, hr, hkey, -⟩ := exists_of_forall₂_left hread he
    have hmem : d ∈ (Table.ofList read).keys :=
      Table.mem_keys_ofList.2 (List.mem_map.2 ⟨r, hr, hkey.unique hnames⟩)
    obtain ⟨t, ht⟩ := Table.mem_keys_iff.1 hmem
    exact ⟨t, ht, hcounts d t ((counts_iff hread).2 ht)⟩

/-! ### Parts that may be missing -/

variable {document : List (Value × Value)} {v : Value}

theorem part_eq_mapping_iff {key : String} :
    part document key = .mapping es ↔ lookup? document key = some (.mapping es) := by
  unfold part
  cases lookup? document key with
  | none => simp
  | some v => simp

/-- What holds of null holds of a part that may be missing if and only if it holds of the part. -/
theorem forall_lookup?_iff {key : String} {Q : Value → Prop} (hnull : Q .null) :
    (∀ v, lookup? document key = some v → Q v) ↔ Q (part document key) := by
  unfold part
  cases lookup? document key with
  | none => simpa using hnull
  | some v => simp

theorem exists_saysPickups_iff (h : v.IsJson) {P : Template → Prop} :
    (∃ table, SaysPickups v table ∧ ∀ r ∈ table.entries, P r.2) ↔
      v.isPresent = false ∨ ∃ es, v = .mapping es ∧ ∀ e ∈ es, ∃ t, e.2.Writes t ∧ P t := by
  constructor
  · rintro ⟨table, ⟨hmissing, -⟩ | ⟨-, es, rfl, hlists⟩, hP⟩
    · exact .inl hmissing
    · cases h with
      | mapping keys distinct _ =>
        exact .inr ⟨es, rfl, (exists_lists_iff keys distinct).1 ⟨table, hlists, hP⟩⟩
  · intro hv
    cases hpresent : v.isPresent with
    | false => exact ⟨.empty, .inl ⟨hpresent, rfl⟩, by simp [Table.empty]⟩
    | true =>
      rcases hv with hmissing | ⟨es, rfl, hes⟩
      · cases hpresent.symm.trans hmissing
      · cases h with
        | mapping keys distinct _ =>
          obtain ⟨table, hlists, hP⟩ := (exists_lists_iff keys distinct).2 hes
          exact ⟨table, .inr ⟨hpresent, es, rfl, hlists⟩, hP⟩

theorem exists_saysDirections_iff {P : Template → Prop} :
    (∃ table, SaysDirections v table ∧ ∀ d, ∃ t, table.get? d = some t ∧ P t) ↔
      ∃ es, v = .mapping es ∧ ListsDirections es ∧ ∀ d t, Counts es d t → P t := by
  constructor
  · rintro ⟨table, ⟨es, rfl, hlists⟩, hall⟩
    exact ⟨es, rfl, exists_directions_iff.1 ⟨table, hlists, hall⟩⟩
  · rintro ⟨es, rfl, hes⟩
    obtain ⟨table, hlists, hall⟩ := exists_directions_iff.2 hes
    exact ⟨table, ⟨es, rfl, hlists⟩, hall⟩

theorem exists_saysOrientations_iff {P : Template → Prop} :
    (∃ o, SaysOrientations v o ∧ ∀ table, o = some table → ∀ d, ∃ t, table.get? d = some t ∧ P t) ↔
      v = .null ∨ ∃ es, v = .mapping es ∧ ListsDirections es ∧ ∀ d t, Counts es d t → P t := by
  rw [← exists_saysDirections_iff]
  constructor
  · rintro ⟨o, ⟨hnull, -⟩ | ⟨table, htold, rfl⟩, hall⟩
    · exact .inl hnull
    · exact .inr ⟨table, htold, hall table rfl⟩
  · rintro (rfl | ⟨table, htold, hall⟩)
    · exact ⟨none, .inl ⟨rfl, rfl⟩, by simp⟩
    · refine ⟨some table, .inr ⟨table, htold, rfl⟩, ?_⟩
      rintro _ ⟨⟩
      exact hall

/-! ### Variables of templates -/

theorem avatarOnly_iff {t : DomainTables} (h : t.Declares t.avatar) {p : Template} :
    t.AvatarOnly p ↔ ∀ x ∈ p.variableNames, x = t.avatar := by
  constructor
  · exact And.right
  · intro honly
    exact ⟨fun x hx => honly x hx ▸ h, honly⟩

/-- One element besides `c` is left when `c` is taken out. -/
theorem length_filter_ne_eq_one_iff {l : List String} (h : l.Nodup) {c : String} :
    (l.filter (· ≠ c)).length = 1 ↔ ∃! x, x ∈ l ∧ x ≠ c := by
  have hmem (x : String) : x ∈ l.filter (· ≠ c) ↔ x ∈ l ∧ x ≠ c := by simp
  have hnodup : (l.filter (· ≠ c)).Nodup := h.filter _
  generalize l.filter (· ≠ c) = rest at hmem hnodup
  constructor
  · intro hlength
    obtain ⟨x, rfl⟩ := List.length_eq_one_iff.1 hlength
    exact ⟨x, (hmem x).1 List.mem_cons_self, fun y hy => List.mem_singleton.1 ((hmem y).2 hy)⟩
  · rintro ⟨x, hx, hunique⟩
    have hall : ∀ y ∈ rest, y = x := fun y hy => hunique y ((hmem y).1 hy)
    have hsub : rest ⊆ [x] := fun y hy => List.mem_singleton.2 (hall y hy)
    have hle : rest.length ≤ 1 := (List.Nodup.subperm hnodup hsub).length_le
    have hpos : 0 < rest.length := List.length_pos_of_mem ((hmem x).2 hx)
    omega

section Checks

variable {t : DomainTables} {types : List (Value × Value)} {p : Template}

theorem allDeclared_iff (h : Lists Spells Shows types t.types) :
    t.AllDeclared p ↔ ∀ x ∈ p.variableNames, DeclaredIn types x :=
  forall₂_congr fun _ _ => declares_iff h

theorem connects_iff (h : Lists Spells Shows types t.types) :
    t.Connects p ↔ (∀ x ∈ p.variableNames, DeclaredIn types x) ∧ t.cell ∈ p.variableNames ∧
      ∃! x, x ∈ p.variableNames ∧ x ≠ t.cell := by
  have hnodup : p.variableNames.Nodup := nodup_eraseDups _
  rw [Connects, allDeclared_iff h, length_filter_ne_eq_one_iff hnodup]

end Checks

/-! ### Whole documents -/

theorem wellFormedParts_of_consistent (h : (Value.mapping document).IsJson) {t : DomainTables}
    (htold : Says document t) (hconsistent : t.Consistent) :
    ∃ types elements connections,
      WellFormedParts document types elements connections t.avatar t.cell := by
  obtain ⟨types, htypes, htable⟩ := htold.types
  obtain ⟨elements, helements, helementTable⟩ := htold.elements
  obtain ⟨connections, hconnections, hconnectionTable⟩ := htold.connections
  have honly {p : Template} (hp : t.AvatarOnly p) := (avatarOnly_iff hconsistent.avatar.2).1 hp
  refine ⟨types, elements, connections, ?_⟩
  exact
    { types_eq := htypes
      elements_eq := helements
      connections_eq := part_eq_mapping_iff.1 hconnections
      avatar_eq := htold.avatar.1
      cell_eq := htold.cell.1
      avatar_ne_cell := hconsistent.avatar_ne_cell
      leading_avatar := hconsistent.avatar.imp_right (declares_iff htable).1
      leading_cell := hconsistent.cell.imp_right (declares_iff htable).1
      sprite_templates := by
        cases isJson_of_lookup? h helements with
        | mapping keys distinct _ =>
          refine (exists_lists_writesAll_iff keys distinct).1 ⟨t.elements, helementTable, ?_⟩
          exact fun r hr p hp => (allDeclared_iff htable).1 (hconsistent.elements r hr p hp)
      pickup_templates := by
        refine (forall_lookup?_iff (.inl rfl)).2 ((exists_saysPickups_iff (isJson_part h _)).1 ?_)
        exact ⟨t.pickups, htold.pickups, fun r hr => honly (hconsistent.pickups r hr)⟩
      connection_templates := by
        refine exists_directions_iff.1 ⟨t.connections, hconnectionTable, fun d => ?_⟩
        obtain ⟨p, hp, hconnects⟩ := hconsistent.connections d
        exact ⟨p, hp, (connects_iff htable).1 hconnects⟩
      orientation_templates := by
        refine (forall_lookup?_iff (.inl rfl)).2 (exists_saysOrientations_iff.1 ?_)
        refine ⟨t.orientations, htold.orientations, fun table htable d => ?_⟩
        obtain ⟨p, hp, hp'⟩ := hconsistent.orientations table htable d
        exact ⟨p, hp, honly hp'⟩ }

theorem isEmpty_of_isPlaceholder {s : String} (h : Template.isPlaceholder s = true) :
    s.isEmpty = false := by
  rw [Bool.eq_false_iff]
  intro hempty
  rw [String.isEmpty_iff.1 hempty] at h
  exact absurd h (by decide)

theorem exists_says_of_wellFormedParts (h : (Value.mapping document).IsJson)
    {types elements connections : List (Value × Value)} {avatar cell : String}
    (hparts : WellFormedParts document types elements connections avatar cell) :
    ∃ t, Says document t ∧ t.Consistent := by
  obtain ⟨typeTable, htable⟩ : ∃ table, Lists Spells Shows types table := by
    cases isJson_of_lookup? h hparts.types_eq with
    | mapping keys _ _ =>
      obtain ⟨read, hread⟩ :=
        exists_entries (K := Spells) (V := Shows) keys fun e _ => ⟨e.2.plain, rfl⟩
      exact ⟨_, read, hread, rfl⟩
  obtain ⟨elementTable, helements, hdeclared⟩ :
      ∃ table, Lists Spells WritesAll elements table ∧ ∀ r ∈ table.entries, ∀ p ∈ r.2,
        ∀ x ∈ p.variableNames, DeclaredIn types x := by
    cases isJson_of_lookup? h hparts.elements_eq with
    | mapping keys distinct _ =>
      exact (exists_lists_writesAll_iff keys distinct).2 hparts.sprite_templates
  obtain ⟨pickups, hpickups, hpickup⟩ := (exists_saysPickups_iff (isJson_part h _)).2
    ((forall_lookup?_iff (.inl rfl)).1 hparts.pickup_templates)
  obtain ⟨orientations, horientations, horientation⟩ := exists_saysOrientations_iff.2
    ((forall_lookup?_iff (.inl rfl)).1 hparts.orientation_templates)
  obtain ⟨connectionTable, hconnections, hconnection⟩ :=
    exists_directions_iff.2 hparts.connection_templates
  let t : DomainTables :=
    ⟨avatar, cell, typeTable, elementTable, pickups, connectionTable, orientations⟩
  have htypes : Lists Spells Shows types t.types := htable
  have havatar : t.Declares t.avatar := (declares_iff htypes).2 hparts.leading_avatar.2
  have htold : Says document t :=
    { types := ⟨types, hparts.types_eq, htable⟩
      elements := ⟨elements, hparts.elements_eq, helements⟩
      pickups := hpickups
      orientations := horientations
      avatar := ⟨hparts.avatar_eq, isEmpty_of_isPlaceholder hparts.leading_avatar.1⟩
      cell := ⟨hparts.cell_eq, isEmpty_of_isPlaceholder hparts.leading_cell.1⟩
      connections := ⟨connections, part_eq_mapping_iff.2 hparts.connections_eq, hconnections⟩ }
  have hconsistent : t.Consistent :=
    { avatar := ⟨hparts.leading_avatar.1, havatar⟩
      cell := hparts.leading_cell.imp_right (declares_iff htypes).2
      avatar_ne_cell := hparts.avatar_ne_cell
      elements := fun r hr p hp => (allDeclared_iff htypes).2 (hdeclared r hr p hp)
      pickups := fun r hr => (avatarOnly_iff havatar).2 (hpickup r hr)
      connections := by
        intro d
        obtain ⟨p, hp, hconnects⟩ := hconnection d
        exact ⟨p, hp, (connects_iff htypes).2 hconnects⟩
      orientations := by
        intro table ho d
        obtain ⟨p, hp, honly⟩ := horientation table ho d
        exact ⟨p, hp, (avatarOnly_iff havatar).2 honly⟩ }
  exact ⟨t, htold, hconsistent⟩

/-- **What a document says is consistent if and only if the document is well-formed.** -/
theorem exists_says_iff (h : (Value.mapping document).IsJson) :
    (∃ t, Says document t ∧ t.Consistent) ↔ WellFormed (.mapping document) := by
  constructor
  · rintro ⟨t, htold, hconsistent⟩
    obtain ⟨types, elements, connections, hparts⟩ :=
      wellFormedParts_of_consistent h htold hconsistent
    exact ⟨document, types, elements, connections, _, _, rfl, hparts⟩
  · rintro ⟨document, types, elements, connections, avatar, cell, heq, hparts⟩
    cases heq
    exact exists_says_of_wellFormedParts h hparts

/-! ### Faults -/

theorem orElse_ne_some {α : Type} {a b : Option α} {x : α} (ha : a ≠ some x) (hb : b ≠ some x) :
    (a <|> b) ≠ some x := by
  cases a with
  | none => exact hb
  | some y => exact ha

theorem findSome?_ne_some {α β : Type} {l : List α} {f : α → Option β} {x : β}
    (h : ∀ a, f a ≠ some x) : l.findSome? f ≠ some x := by
  intro hf
  obtain ⟨a, -, ha⟩ := List.exists_of_findSome?_eq_some hf
  exact h a ha

theorem ite_none_some_ne_some {α : Type} {c : Prop} [Decidable c] {a x : α} (h : a ≠ x) :
    (if c then none else some a) ≠ some x := by
  split
  · simp
  · simpa using h

section Faults

variable (t : DomainTables) (place : DomainPlace) (p : Template)

theorem untypedFault?_ne_longInteger : t.untypedFault? place p ≠ some .longInteger := by
  simp [untypedFault?]

theorem avatarOnlyFault?_ne_longInteger : t.avatarOnlyFault? place p ≠ some .longInteger :=
  orElse_ne_some (untypedFault?_ne_longInteger t place p) (ite_none_some_ne_some (by simp))

theorem connectionFault?_ne_longInteger : t.connectionFault? place p ≠ some .longInteger :=
  orElse_ne_some (untypedFault?_ne_longInteger t place p)
    (orElse_ne_some (ite_none_some_ne_some (by simp)) (ite_none_some_ne_some (by simp)))

theorem missingFault?_ne_longInteger (table : Table Direction Template) :
    missingFault? place table ≠ some .longInteger :=
  ite_none_some_ne_some (by simp)

theorem rolesFault?_ne_longInteger : t.rolesFault? ≠ some .longInteger := by
  have hrole (role : DomainRole) (name : String) :
      t.roleFault? role name ≠ some .longInteger := by
    unfold roleFault?
    split
    · simp
    · split <;> simp
  refine orElse_ne_some (hrole _ _) (orElse_ne_some (hrole _ _) ?_)
  split <;> simp

theorem orientationsFault?_ne_longInteger : t.orientationsFault? ≠ some .longInteger := by
  unfold orientationsFault?
  split
  · simp
  · exact orElse_ne_some (missingFault?_ne_longInteger _ _)
      (findSome?_ne_some fun e => avatarOnlyFault?_ne_longInteger t _ e.2)

/-- No check asks for the text of a value, so what the checks find is wrong with the document. -/
theorem fault?_ne_longInteger : t.fault? ≠ some .longInteger := by
  have helements : t.elementsFault? ≠ some .longInteger :=
    findSome?_ne_some fun e => findSome?_ne_some fun p => untypedFault?_ne_longInteger t _ p
  have hpickups : t.pickupsFault? ≠ some .longInteger :=
    findSome?_ne_some fun e => avatarOnlyFault?_ne_longInteger t _ e.2
  have hconnections : t.connectionsFault? ≠ some .longInteger :=
    orElse_ne_some (missingFault?_ne_longInteger _ _)
      (findSome?_ne_some fun e => connectionFault?_ne_longInteger t _ e.2)
  exact orElse_ne_some (rolesFault?_ne_longInteger t) (orElse_ne_some helements
    (orElse_ne_some hpickups (orElse_ne_some hconnections (orientationsFault?_ne_longInteger t))))

end Faults

/-! ### Reading a domain -/

/-- Consistent tables are those of a domain, and the others have a fault. -/
theorem answers_ofTables (t : DomainTables) :
    Answers (Domain.ofTables t) fun D => t.Consistent ∧ D.toDomainTables = t := by
  unfold Domain.ofTables
  split
  · rename_i f hf
    refine .error_of ?_ ?_
    · rintro rfl
      exact fault?_ne_longInteger t hf
    · rintro D ⟨hconsistent, -⟩
      rw [fault?_eq_none_iff.2 hconsistent] at hf
      cases hf
  · rename_i hnone
    refine .ok_of ⟨fault?_eq_none_iff.1 hnone, rfl⟩ ?_
    rintro ⟨t', h⟩ ⟨-, rfl⟩
    rfl

/-- Reading a domain answers with what the document says, if that is consistent. -/
theorem answers_ofValue (h : v.IsJson) :
    Answers (Domain.ofValue v) fun D =>
      ∃ document t, v = .mapping document ∧ Says document t ∧ t.Consistent ∧
        D.toDomainTables = t := by
  cases v with
  | mapping document =>
    refine ((DomainTables.answers_ofValue h).bind fun t _ => answers_ofTables t).congr fun D => ?_
    constructor
    · rintro ⟨t, htold, hconsistent, htables⟩
      exact ⟨document, t, rfl, htold, hconsistent, htables⟩
    · rintro ⟨document, t, heq, htold, hconsistent, htables⟩
      cases heq
      exact ⟨t, htold, hconsistent, htables⟩
  | _ => exact .error_of (by simp) fun D ⟨document, t, heq, _⟩ => nomatch heq

theorem exists_ofValue_eq_ok_iff (h : v.IsJson) :
    (∃ D, Domain.ofValue v = .ok D) ↔ WellFormed v := by
  simp only [(answers_ofValue h).eq_ok_iff]
  constructor
  · rintro ⟨D, document, t, rfl, htold, hconsistent, -⟩
    exact (exists_says_iff h).1 ⟨t, htold, hconsistent⟩
  · intro hwell
    obtain ⟨document, _, _, _, _, _, rfl, -⟩ := id hwell
    obtain ⟨t, htold, hconsistent⟩ := (exists_says_iff h).2 hwell
    exact ⟨⟨t, fault?_eq_none_iff.2 hconsistent⟩, document, t, rfl, htold, hconsistent, rfl⟩

/-- **A document in JSON is read as a domain if and only if it is well-formed.** If it is not, the
document is to blame. The values of JSON are all that can be read from a text. -/
theorem ofValue_ok_iff_wellFormed :
    (∀ (s : String) (v : Value), Json.read s = .ok v → v.IsJson) ∧
      ∀ v : Value, v.IsJson →
        ((∃ D, Domain.ofValue v = .ok D) ↔ WellFormed v) ∧
          ∀ f, Domain.ofValue v = .error f → f ≠ .longInteger := by
  refine ⟨fun _ _ h => Json.isJson_of_read h, fun v h => ⟨exists_ofValue_eq_ok_iff h, ?_⟩⟩
  rintro f hf rfl
  exact (answers_ofValue h).ne_longInteger hf

/-- The document of a domain with two keys for one direction. -/
def compassDocument (first second : String) : Value := .mapping
  [(.text "avatarVariable", .text "?a"), (.text "cellVariable", .text "?c"),
    (.text "variablesTypes", .mapping
      [(.text "?a", .text "avatar"), (.text "?c", .text "cell"), (.text "?n", .bool true)]),
    (.text "gameElementsCorrespondence", .mapping
      [(.text "avatar", .list [.text "(at ?a ?c)"])]),
    (.text "connections", .mapping
      [(.text "up", .text first), (.text "UP", .text second), (.text "Down", .text "(south ?c ?n)"),
        (.text "left", .text "(west ?n ?c)"), (.text "right", .text "(east ?c ?n)")])]

theorem isJson_compassDocument (first second : String) : (compassDocument first second).IsJson := by
  have htext := IsJson.text
  have htemplates : (Value.list [.text "(at ?a ?c)"]).IsJson := .list (by simp [htext])
  refine .mapping (by simp) (by simp) ?_
  simp only [List.forall_mem_cons, List.not_mem_nil, false_imp_iff, implies_true, and_true]
  exact ⟨htext _, htext _, .mapping (by simp) (by simp) (by simp [htext, IsJson.bool]),
    .mapping (by simp) (by simp) (by simpa using htemplates),
    .mapping (by simp) (by simp) (by simp [htext])⟩

/-- Of two templates for one direction the last one counts, and the other may speak of anything. -/
theorem wellFormed_compassDocument :
    Json.read "[true]" = .ok (.list [.bool true]) ∧ (Value.list [.bool true]).IsJson ∧
      (compassDocument "(lost ?x)" "(north ?c ?n)").IsJson ∧
      WellFormed (compassDocument "(lost ?x)" "(north ?c ?n)") ∧
      ¬ WellFormed (compassDocument "(north ?c ?n)" "(lost ?x)") := by
  have hok : (Domain.ofValue (compassDocument "(lost ?x)" "(north ?c ?n)")).isOk = true := by
    decide +kernel
  have hnot : (Domain.ofValue (compassDocument "(north ?c ?n)" "(lost ?x)")).isOk = false := by
    decide +kernel
  obtain ⟨hjson, hread⟩ := ofValue_ok_iff_wellFormed
  obtain ⟨haccepts, -⟩ := hread _ (isJson_compassDocument "(lost ?x)" "(north ?c ?n)")
  obtain ⟨hrefuses, -⟩ := hread _ (isJson_compassDocument "(north ?c ?n)" "(lost ?x)")
  have hlist : Json.read "[true]" = .ok (.list [.bool true]) := rfl
  refine ⟨hlist, hjson _ _ hlist, isJson_compassDocument _ _, ?_, ?_⟩
  · cases hD : Domain.ofValue (compassDocument "(lost ?x)" "(north ?c ?n)") with
    | ok D => exact haccepts.1 ⟨D, hD⟩
    | error f => rw [hD] at hok; cases hok
  · intro hwell
    obtain ⟨D, hD⟩ := hrefuses.2 hwell
    rw [hD] at hnot
    cases hnot

end Domain

end PlayTrace
