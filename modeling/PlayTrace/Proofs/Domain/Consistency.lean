import PlayTrace.Domain.Basic
import PlayTrace.Proofs.Table

/-!
# What consistency of a domain gives

A domain is tables whose first inconsistency does not exist. This module says what that means, check
by check: which variables have a type, which templates speak of the avatar alone, and that every
direction has its templates. `DomainTables.Consistent` gathers it, and is just what the checks look
for. Everything that grounding relies on is here, and nothing later opens the checks again.

## Main definitions

* `DomainTables.AvatarOnly`, `DomainTables.Connects` — what the single checks look for
* `DomainTables.Consistent` — what all of them look for

## Main results

* `DomainTables.fault?_eq_none_iff` — tables are without fault if and only if they are consistent
* `Domain.declared_avatar`, `declared_cell` — the two leading variables
* `Domain.declared_of_mem_templatesOf` — the variables of sprite templates
* `Domain.eq_avatar_of_mem_pickups`, `exists_orientation` — templates about the avatar alone
* `Domain.exists_connection` — a connection for every direction
-/

namespace PlayTrace

/-- Of two checks in a row neither finds a fault when the first fault does not exist. -/
theorem orElse_eq_none_iff {α : Type} {a b : Option α} :
    (a <|> b) = none ↔ a = none ∧ b = none := by
  simp

/-- A check that finds a fault unless a condition holds. -/
theorem ite_none_some_eq_none_iff {α : Type} {c : Prop} [Decidable c] {a : α} :
    (if c then none else some a) = none ↔ c := by
  split <;> simp_all

namespace DomainTables

/-- A variable has a type. -/
def Declares (t : DomainTables) (v : String) : Prop := v ∈ t.types.keys

/-- All variables of a template have types. -/
def AllDeclared (t : DomainTables) (p : Template) : Prop := ∀ v ∈ p.variableNames, t.Declares v

/-- A template speaks of nothing but the avatar. -/
def AvatarOnly (t : DomainTables) (p : Template) : Prop :=
  t.AllDeclared p ∧ ∀ v ∈ p.variableNames, v = t.avatar

/-- A template connects the cell with one neighbour. -/
def Connects (t : DomainTables) (p : Template) : Prop :=
  t.AllDeclared p ∧ t.cell ∈ p.variableNames ∧ (p.variableNames.filter (· ≠ t.cell)).length = 1

variable {t : DomainTables} {place : DomainPlace} {p : Template}

/-! ### The single checks -/

theorem roleFault?_eq_none_iff {role : DomainRole} {v : String} :
    t.roleFault? role v = none ↔ Template.isPlaceholder v = true ∧ t.Declares v := by
  unfold roleFault?
  constructor
  · intro h
    split at h
    · cases h
    · split at h
      · cases h
      · rename_i hplaceholder hdeclared
        exact ⟨by simpa using hplaceholder, by simpa [Declares] using hdeclared⟩
  · rintro ⟨hplaceholder, hdeclared⟩
    simp [hplaceholder, Table.contains_iff.2 hdeclared]

theorem untypedFault?_eq_none_iff : t.untypedFault? place p = none ↔ t.AllDeclared p := by
  simp [untypedFault?, AllDeclared, Declares]

theorem avatarOnlyFault?_eq_none_iff : t.avatarOnlyFault? place p = none ↔ t.AvatarOnly p := by
  rw [avatarOnlyFault?, orElse_eq_none_iff, untypedFault?_eq_none_iff, ite_none_some_eq_none_iff,
    AvatarOnly]
  simp

theorem connectionFault?_eq_none_iff : t.connectionFault? place p = none ↔ t.Connects p := by
  rw [connectionFault?, orElse_eq_none_iff, orElse_eq_none_iff, untypedFault?_eq_none_iff,
    ite_none_some_eq_none_iff, ite_none_some_eq_none_iff, Connects, Template.uses,
    List.contains_iff_mem]

theorem missingFault?_eq_none_iff {table : Table Direction Template} :
    missingFault? place table = none ↔ ∀ d, d ∈ table.keys := by
  rw [missingFault?, ite_none_some_eq_none_iff]
  constructor
  · intro h d
    have hall : ∀ d ∈ Direction.all, d ∈ table.keys := by simpa using h
    exact hall d (Direction.mem_all d)
  · intro h
    simp [h]

/-- Every direction has a template, and every template passes a check. -/
theorem directions_eq_none_iff {table : Table Direction Template}
    {check : DomainPlace → Template → Option DomainFault} {placeOf : Direction → DomainPlace}
    {P : Template → Prop} (hcheck : ∀ q d, check (placeOf d) q = none ↔ P q) :
    (missingFault? place table = none ∧
        (table.entries.findSome? fun e => check (placeOf e.1) e.2) = none) ↔
      ∀ d, ∃ q, table.get? d = some q ∧ P q := by
  rw [missingFault?_eq_none_iff, List.findSome?_eq_none_iff]
  constructor
  · rintro ⟨hkeys, hall⟩ d
    obtain ⟨q, hq⟩ := Table.mem_keys_iff.1 (hkeys d)
    exact ⟨q, hq, (hcheck q d).1 (hall _ (Table.get?_eq_some_iff.1 hq))⟩
  · intro h
    refine ⟨fun d => ?_, fun e he => ?_⟩
    · obtain ⟨q, hq, -⟩ := h d
      exact Table.mem_keys_iff.2 ⟨q, hq⟩
    · obtain ⟨q, hq, hP⟩ := h e.1
      obtain rfl : q = e.2 := Option.some.inj (hq.symm.trans (Table.get?_eq_some_iff.2 he))
      exact (hcheck e.2 e.1).2 hP

/-! ### All checks together -/

/-- Tables without inconsistency. -/
structure Consistent (t : DomainTables) : Prop where
  avatar : Template.isPlaceholder t.avatar = true ∧ t.Declares t.avatar
  cell : Template.isPlaceholder t.cell = true ∧ t.Declares t.cell
  avatar_ne_cell : t.avatar ≠ t.cell
  elements : ∀ e ∈ t.elements.entries, ∀ p ∈ e.2, t.AllDeclared p
  pickups : ∀ e ∈ t.pickups.entries, t.AvatarOnly e.2
  connections : ∀ d, ∃ p, t.connections.get? d = some p ∧ t.Connects p
  orientations : ∀ table, t.orientations = some table →
    ∀ d, ∃ p, table.get? d = some p ∧ t.AvatarOnly p

theorem rolesFault?_eq_none_iff :
    t.rolesFault? = none ↔ (Template.isPlaceholder t.avatar = true ∧ t.Declares t.avatar) ∧
      (Template.isPlaceholder t.cell = true ∧ t.Declares t.cell) ∧ t.avatar ≠ t.cell := by
  rw [rolesFault?, orElse_eq_none_iff, orElse_eq_none_iff, roleFault?_eq_none_iff,
    roleFault?_eq_none_iff]
  simp

theorem elementsFault?_eq_none_iff :
    t.elementsFault? = none ↔ ∀ e ∈ t.elements.entries, ∀ p ∈ e.2, t.AllDeclared p := by
  simp only [elementsFault?, List.findSome?_eq_none_iff, untypedFault?_eq_none_iff]

theorem pickupsFault?_eq_none_iff :
    t.pickupsFault? = none ↔ ∀ e ∈ t.pickups.entries, t.AvatarOnly e.2 := by
  simp only [pickupsFault?, List.findSome?_eq_none_iff, avatarOnlyFault?_eq_none_iff]

theorem connectionsFault?_eq_none_iff :
    t.connectionsFault? = none ↔ ∀ d, ∃ p, t.connections.get? d = some p ∧ t.Connects p := by
  rw [connectionsFault?, orElse_eq_none_iff]
  exact directions_eq_none_iff fun _ _ => connectionFault?_eq_none_iff

theorem orientationsFault?_eq_none_iff :
    t.orientationsFault? = none ↔ ∀ table, t.orientations = some table →
      ∀ d, ∃ p, table.get? d = some p ∧ t.AvatarOnly p := by
  unfold orientationsFault?
  cases t.orientations with
  | none => simp
  | some table =>
    simp only [orElse_eq_none_iff, Option.some.injEq, forall_eq']
    exact directions_eq_none_iff fun _ _ => avatarOnlyFault?_eq_none_iff

/-- **What the checks look for.** -/
theorem fault?_eq_none_iff : t.fault? = none ↔ t.Consistent := by
  simp only [fault?, orElse_eq_none_iff, rolesFault?_eq_none_iff, elementsFault?_eq_none_iff,
    pickupsFault?_eq_none_iff, connectionsFault?_eq_none_iff, orientationsFault?_eq_none_iff]
  constructor
  · rintro ⟨⟨havatar, hcell, hne⟩, helements, hpickups, hconnections, horientations⟩
    exact ⟨havatar, hcell, hne, helements, hpickups, hconnections, horientations⟩
  · intro h
    exact ⟨⟨h.avatar, h.cell, h.avatar_ne_cell⟩, h.elements, h.pickups, h.connections,
      h.orientations⟩

end DomainTables

namespace Domain

variable (D : Domain)

theorem is_consistent : D.Consistent := DomainTables.fault?_eq_none_iff.1 D.consistent

/-! ### The leading variables -/

theorem declared_avatar : D.Declares D.avatar := D.is_consistent.avatar.2

theorem declared_cell : D.Declares D.cell := D.is_consistent.cell.2

/-! ### Templates -/

variable {D}

theorem exists_get?_of_mem_templatesOf {key : String} {p : Template} (hp : p ∈ D.templatesOf key) :
    ∃ ps, D.elements.get? key = some ps ∧ p ∈ ps := by
  cases hkey : D.elements.get? key with
  | none => simp [templatesOf, hkey] at hp
  | some ps => exact ⟨ps, rfl, by simpa [templatesOf, hkey] using hp⟩

theorem declared_of_mem_templatesOf {key v : String} {p : Template}
    (hp : p ∈ D.templatesOf key) (hv : v ∈ p.variableNames) : D.Declares v := by
  obtain ⟨ps, hkey, hp⟩ := exists_get?_of_mem_templatesOf hp
  exact D.is_consistent.elements _ (Table.get?_eq_some_iff.1 hkey) p hp v hv

/-- The variable that names a resource has a type, and it is neither that of the avatar nor that of
the cell. -/
theorem resourceVariable?_eq_some {key v : String} (h : D.resourceVariable? key = some v) :
    D.Declares v ∧ v ≠ D.cell ∧ v ≠ D.avatar := by
  have hmem := List.mem_of_find?_eq_some h
  obtain ⟨p, hp, hv⟩ := List.mem_flatMap.1 hmem
  have hne := List.find?_some h
  simp only [ne_eq, decide_not, Bool.and_eq_true, Bool.not_eq_eq_eq_not, Bool.not_true,
    decide_eq_false_iff_not] at hne
  exact ⟨declared_of_mem_templatesOf hp hv, hne.1, hne.2⟩

theorem eq_avatar_of_mem_pickups {e : String × Template} (he : e ∈ D.pickups.entries) {v : String}
    (hv : v ∈ e.2.variableNames) : v = D.avatar :=
  (D.is_consistent.pickups e he).2 v hv

/-- Every direction has a connection, which speaks of the cell and of exactly one neighbour. -/
theorem exists_connection (D : Domain) (d : Direction) :
    ∃ p, D.connections.get? d = some p ∧ (∀ v ∈ p.variableNames, D.Declares v) ∧
      D.cell ∈ p.variableNames ∧ (p.variableNames.filter (· ≠ D.cell)).length = 1 :=
  D.is_consistent.connections d

/-- A domain that cares where the avatar looks has a template for every direction, and it speaks of
the avatar alone. -/
theorem exists_orientation {table : Table Direction Template} (h : D.orientations = some table)
    (d : Direction) : ∃ p, table.get? d = some p ∧ ∀ v ∈ p.variableNames, v = D.avatar := by
  obtain ⟨p, hp, -, honly⟩ := D.is_consistent.orientations table h d
  exact ⟨p, hp, honly⟩

end Domain

end PlayTrace
