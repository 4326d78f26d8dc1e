import Mathlib.Data.List.Forall2
import PlayTrace.Domain.Document
import PlayTrace.Proofs.Document.Json
import PlayTrace.Proofs.Table

/-!
# What is read from a domain document

Reading a domain goes through the parts of a document one by one, and each step can fail in ways of
its own. `Answers x R` says all there is to say about such a step `x`: its results are those that
`R` holds of, and when it fails, something in the document is to blame. The one cause that is not to be
blamed on the document is an integer that is too long to be written; a document in JSON has none.

A step after another answers what both answer together, so reading a whole document comes down to a
relation between the document and its tables, `DomainTables.Says`. It is written without the reader:
entries of the document correspond to entries of the tables, and a table is made of the list of its
entries.

## Main definitions

* `Answers` — what a step of reading answers
* `Value.Writes`, `Value.Names` — a value writes a template, names a direction
* `DomainTables.Says` — what a document says

## Main results

* `Answers.bind`, `Answers.mapM` — steps in a row
* `DomainTables.answers_ofValue` — reading the tables of a document
-/

namespace PlayTrace

/-! ### Steps of reading -/

/-- What a step of reading answers: its results are the ones that `R` holds of, and it fails only
for something in the document. -/
structure Answers {α : Type} (x : Except DomainFault α) (R : α → Prop) : Prop where
  eq_ok_iff : ∀ a, x = .ok a ↔ R a
  ne_longInteger : x ≠ .error .longInteger

namespace Answers

variable {α β : Type} {x : Except DomainFault α} {R S : α → Prop}

theorem ok (a : α) : Answers (.ok a) (fun b => b = a) where
  eq_ok_iff b := by rw [Except.ok.injEq, eq_comm]
  ne_longInteger := by simp

theorem congr (h : Answers x R) (hRS : ∀ a, R a ↔ S a) : Answers x S where
  eq_ok_iff a := (h.eq_ok_iff a).trans (hRS a)
  ne_longInteger := h.ne_longInteger

/-- A step that has succeeded with the only possible result. -/
theorem ok_of {a : α} (ha : R a) (hunique : ∀ b, R b → b = a) : Answers (.ok a) R :=
  (Answers.ok a).congr fun b => ⟨fun h => h ▸ ha, hunique b⟩

/-- A step that has failed where no result is possible. -/
theorem error_of {f : DomainFault} (hf : f ≠ .longInteger) (hnone : ∀ a, ¬ R a) :
    Answers (.error f) R where
  eq_ok_iff a := ⟨nofun, fun h => absurd h (hnone a)⟩
  ne_longInteger := by simpa using hf

/-- One step after another. -/
theorem bind {f : α → Except DomainFault β} {T : α → β → Prop} (h : Answers x R)
    (hnext : ∀ a, R a → Answers (f a) (T a)) :
    Answers (x >>= f) fun b => ∃ a, R a ∧ T a b where
  eq_ok_iff b := by
    rw [bind_eq_ok]
    constructor
    · rintro ⟨a, hx, hf⟩
      have hR := (h.eq_ok_iff a).1 hx
      exact ⟨a, hR, ((hnext a hR).eq_ok_iff b).1 hf⟩
    · rintro ⟨a, hR, hT⟩
      exact ⟨a, (h.eq_ok_iff a).2 hR, ((hnext a hR).eq_ok_iff b).2 hT⟩
  ne_longInteger := by
    cases hx : x with
    | ok a => exact (hnext a ((h.eq_ok_iff a).1 hx)).ne_longInteger
    | error e =>
      intro he
      cases he
      exact h.ne_longInteger hx

/-- A step for every element of a list. -/
theorem mapM {l : List α} {f : α → Except DomainFault β} {T : α → β → Prop}
    (h : ∀ a ∈ l, Answers (f a) (T a)) : Answers (l.mapM f) (List.Forall₂ T l) := by
  induction l with
  | nil =>
    refine (Answers.ok []).congr fun bs => ?_
    rw [List.forall₂_nil_left_iff]
  | cons a l ih =>
    have hrest := ih fun b hb => h b (List.mem_cons_of_mem a hb)
    rw [List.mapM_cons]
    refine ((h a List.mem_cons_self).bind fun b _ => hrest.bind fun bs _ =>
      Answers.ok (b :: bs)).congr fun cs => ?_
    rw [List.forall₂_cons_left_iff]
    constructor
    · rintro ⟨b, hb, bs, hbs, rfl⟩
      exact ⟨b, bs, hb, hbs, rfl⟩
    · rintro ⟨b, bs, hb, hbs, rfl⟩
      exact ⟨b, hb, bs, hbs, rfl⟩

end Answers

/-! ### Values -/

namespace Value

/-- A value writes a template: it is a text that reads as the template. -/
def Writes (v : Value) (t : Template) : Prop := ∃ s, v = .text s ∧ Template.parse s = .ok t

/-- A key names a direction: it is a text that is the name of the direction in capitals. -/
def Names (key : Value) (d : Direction) : Prop := ∃ k, key = .text k ∧ Text.upper k = d.name

theorem Writes.unique {v : Value} {t t' : Template} (h : v.Writes t) (h' : v.Writes t') :
    t = t' := by
  obtain ⟨s, rfl, hs⟩ := h
  obtain ⟨s', hs', ht'⟩ := h'
  cases hs'
  exact Except.ok.inj (hs.symm.trans ht')

theorem Names.unique {key : Value} {d d' : Direction} (h : key.Names d) (h' : key.Names d') :
    d = d' := by
  obtain ⟨k, rfl, hk⟩ := h
  obtain ⟨k', hk', hd'⟩ := h'
  cases hk'
  have hname : d.name = d'.name := hk.symm.trans hd'
  cases d <;> cases d' <;> first | rfl | exact absurd hname (by decide)

end Value

namespace DomainTables

open Value

variable {v : Value} {es : List (Value × Value)}

theorem written_eq (h : v.isWritable = true) : written v = .ok v := if_pos h

theorem readText_eq (h : v.isWritable = true) : readText v = .ok v.plain := by
  rw [readText, written_eq h]
  rfl

theorem answers_readTemplate (place : DomainPlace) (h : v.isWritable = true) :
    Answers (readTemplate place v) v.Writes := by
  have hother {f : Template.SyntaxFault} (hne : ∀ s, v ≠ .text s) :
      Answers (.error (.template place f)) v.Writes :=
    .error_of (by simp) fun _ ⟨s, hs, _⟩ => hne s hs
  rw [readTemplate, written_eq h, ok_bind]
  cases v with
  | text s =>
    rw [Template.ofValue]
    cases hs : Template.parse s with
    | ok t => exact .ok_of ⟨s, rfl, hs⟩ fun _ ht => ht.unique ⟨s, rfl, hs⟩
    | error f =>
      refine .error_of (by simp) ?_
      rintro t ⟨s', hs', ht⟩
      cases hs'
      cases hs.symm.trans ht
  | _ => exact hother (by simp)

/-! ### Entries of a mapping -/

/-- An entry of a mapping is an entry of a table. -/
def Entry {κ α : Type} (K : Value → κ → Prop) (V : Value → α → Prop) (e : Value × Value)
    (r : κ × α) : Prop :=
  K e.1 r.1 ∧ V e.2 r.2

/-- The entries of a mapping, one by one, are the list that a table is made of. -/
def Lists {κ α : Type} [DecidableEq κ] (K : Value → κ → Prop) (V : Value → α → Prop)
    (es : List (Value × Value)) (table : Table κ α) : Prop :=
  ∃ read, List.Forall₂ (Entry K V) es read ∧ table = .ofList read

/-- A key is a text. -/
def Spells (key : Value) (k : String) : Prop := key = .text k

/-- A text stands for a value. -/
def Shows (v : Value) (s : String) : Prop := s = v.plain

/-- A list writes templates. -/
def WritesAll (v : Value) (ts : List Template) : Prop :=
  ∃ items, v = .list items ∧ List.Forall₂ Writes items ts

section Table

variable {κ α : Type} [DecidableEq κ] {K : Value → κ → Prop} {V : Value → α → Prop}

omit [DecidableEq κ] in
theorem answers_entry {e : Value × Value} {key : Except DomainFault κ}
    {value : κ → Except DomainFault α} (hkey : Answers key (K e.1))
    (hvalue : ∀ k, Answers (value k) (V e.2)) :
    Answers (do let k ← key; return (k, ← value k)) (Entry K V e) := by
  refine (hkey.bind fun k _ => (hvalue k).bind fun a _ => Answers.ok (k, a)).congr fun r => ?_
  constructor
  · rintro ⟨k, hk, a, ha, rfl⟩
    exact ⟨hk, ha⟩
  · rintro ⟨hk, ha⟩
    exact ⟨r.1, hk, r.2, ha, rfl⟩

theorem answers_lists {f : Value × Value → Except DomainFault (κ × α)}
    (h : ∀ e ∈ es, Answers (f e) (Entry K V e)) :
    Answers (do return Table.ofList (← es.mapM f)) (Lists K V es) :=
  (Answers.mapM h).bind fun read _ => Answers.ok (Table.ofList read)

end Table

theorem answers_readText (h : v.isWritable = true) : Answers (readText v) (Shows v) := by
  rw [readText_eq h]
  exact .ok v.plain

theorem answers_readKey (h : ∃ k, v = .text k) : Answers (readText v) (Spells v) := by
  obtain ⟨k, rfl⟩ := h
  rw [readText_eq rfl]
  exact .ok_of rfl fun _ hb => (Value.text.inj hb).symm

/-! ### Parts of a document -/

theorem answers_readMapping (document : List (Value × Value)) (part : String) :
    Answers (readMapping document part)
      (fun es => Value.lookup? document part = some (.mapping es)) := by
  unfold readMapping
  split
  · rename_i es hes
    refine .ok_of hes fun b hb => ?_
    cases hes.symm.trans hb
    rfl
  · rename_i hother
    exact .error_of (by simp) fun es hes => hother es hes

theorem answers_readVariable (document : List (Value × Value)) (role : DomainRole) :
    Answers (readVariable document role)
      (fun s => Value.lookup? document role.text = some (.text s) ∧ s.isEmpty = false) := by
  unfold readVariable
  split
  · rename_i s hs
    split
    · rename_i hempty
      refine .error_of (by simp) ?_
      rintro s' ⟨hs', hne⟩
      cases hs.symm.trans hs'
      rw [hempty] at hne
      cases hne
    · rename_i hne
      refine .ok_of ⟨hs, by simpa using hne⟩ ?_
      rintro s' ⟨hs', -⟩
      cases hs.symm.trans hs'
      rfl
  · rename_i hother
    exact .error_of (by simp) fun s hs => hother s hs.1

theorem answers_readTypes (h : (Value.mapping es).IsJson) :
    Answers (readTypes es) (Lists Spells Shows es) := by
  cases h with
  | mapping keys _ values =>
    exact answers_lists fun e he => answers_entry (answers_readKey (keys e he))
      fun _ => answers_readText (values e he).isWritable

theorem answers_readTemplates (place : DomainPlace) (h : v.IsJson) :
    Answers (readTemplates place v) (WritesAll v) := by
  cases h with
  | list hitems =>
    refine (Answers.mapM fun item hitem =>
      answers_readTemplate place (hitems item hitem).isWritable).congr fun ts => ?_
    constructor
    · exact fun hts => ⟨_, rfl, hts⟩
    · rintro ⟨items, heq, hts⟩
      cases heq
      exact hts
  | _ => exact .error_of (by simp) fun _ ⟨_, heq, _⟩ => nomatch heq

theorem answers_readElements (h : (Value.mapping es).IsJson) :
    Answers (readElements es) (Lists Spells WritesAll es) := by
  cases h with
  | mapping keys _ values =>
    exact answers_lists fun e he => answers_entry (answers_readKey (keys e he))
      fun _ => answers_readTemplates _ (values e he)

/-- A value says which predicates record collected resources; a value that is not present says that
there are none. -/
def SaysPickups (v : Value) (table : Table String Template) : Prop :=
  (v.isPresent = false ∧ table = .empty) ∨
    (v.isPresent = true ∧ ∃ es, v = .mapping es ∧ Lists Spells Writes es table)

theorem answers_readPickups (h : v.IsJson) : Answers (readPickups v) (SaysPickups v) := by
  unfold readPickups
  cases hpresent : v.isPresent with
  | false =>
    refine .ok_of (.inl ⟨hpresent, rfl⟩) ?_
    rintro table (⟨-, rfl⟩ | ⟨hpresent', -⟩)
    · rfl
    · cases hpresent.symm.trans hpresent'
  | true =>
    have hnot {table} (htold : SaysPickups v table) :
        ∃ es, v = .mapping es ∧ Lists Spells Writes es table := by
      rcases htold with ⟨hpresent', -⟩ | ⟨-, htold⟩
      · cases hpresent.symm.trans hpresent'
      · exact htold
    cases h with
    | mapping keys _ values =>
      refine (answers_lists fun e he => answers_entry (answers_readKey (keys e he))
        fun _ => answers_readTemplate _ (values e he).isWritable).congr fun table => ?_
      constructor
      · exact fun hlists => .inr ⟨hpresent, _, rfl, hlists⟩
      · intro htold
        obtain ⟨es, heq, hlists⟩ := hnot htold
        cases heq
        exact hlists
    | _ =>
      refine .error_of (by simp) fun table htold => ?_
      obtain ⟨es, heq, -⟩ := hnot htold
      cases heq

theorem ofName?_eq_some_iff {s : String} {d : Direction} :
    Direction.ofName? s = some d ↔ s = d.name := by
  constructor
  · intro h
    have hname := List.find?_some h
    exact (beq_iff_eq.1 hname).symm
  · rintro rfl
    cases d <;> decide

theorem answers_readDirection (place : DomainPlace) (h : ∃ k, v = .text k) :
    Answers (readDirection place v) v.Names := by
  obtain ⟨k, rfl⟩ := h
  rw [readDirection, readText_eq rfl, ok_bind]
  split
  · rename_i d hd
    have hnames : (Value.text k).Names d := ⟨k, rfl, ofName?_eq_some_iff.1 hd⟩
    exact .ok_of hnames fun _ hd' => hd'.unique hnames
  · rename_i hnone
    refine .error_of (by simp) ?_
    rintro d ⟨k', hk', hname⟩
    cases hk'
    cases hnone.symm.trans (ofName?_eq_some_iff.2 hname)

/-- A value says which template each direction has. -/
def SaysDirections (v : Value) (table : Table Direction Template) : Prop :=
  ∃ es, v = .mapping es ∧ Lists Names Writes es table

theorem answers_readDirections (place : DomainPlace) (h : v.IsJson) :
    Answers (readDirections place v) (SaysDirections v) := by
  cases h with
  | mapping keys _ values =>
    refine (answers_lists fun e he => answers_entry (answers_readDirection place (keys e he))
      fun _ => answers_readTemplate place (values e he).isWritable).congr fun table => ?_
    constructor
    · exact fun hlists => ⟨_, rfl, hlists⟩
    · rintro ⟨es, heq, hlists⟩
      cases heq
      exact hlists
  | _ => exact .error_of (by simp) fun _ ⟨_, heq, _⟩ => nomatch heq

/-- A value says how it is written where the avatar looks, or, being null, that it is not. -/
def SaysOrientations (v : Value) (orientations : Option (Table Direction Template)) : Prop :=
  (v = .null ∧ orientations = none) ∨ ∃ table, SaysDirections v table ∧ orientations = some table

theorem answers_readOrientations (h : v.IsJson) :
    Answers (readOrientations v) (SaysOrientations v) := by
  unfold readOrientations
  split
  · refine .ok_of (.inl ⟨rfl, rfl⟩) ?_
    rintro orientations (⟨-, rfl⟩ | ⟨table, ⟨es, heq, -⟩, -⟩)
    · rfl
    · cases heq
  · rename_i hnull
    refine ((answers_readDirections .orientations h).bind fun table _ =>
      Answers.ok (some table)).congr fun orientations => ?_
    constructor
    · exact Or.inr
    · rintro (⟨rfl, -⟩ | htold)
      · exact absurd rfl hnull
      · exact htold

/-! ### Documents -/

/-- The value of a part of a document, null if the part is missing. -/
def part (document : List (Value × Value)) (key : String) : Value :=
  (Value.lookup? document key).getD .null

/-- A document says what its tables are. -/
structure Says (document : List (Value × Value)) (t : DomainTables) : Prop where
  types : ∃ es, Value.lookup? document "variablesTypes" = some (.mapping es) ∧
    Lists Spells Shows es t.types
  elements : ∃ es, Value.lookup? document "gameElementsCorrespondence" = some (.mapping es) ∧
    Lists Spells WritesAll es t.elements
  pickups : SaysPickups (part document "pickedResourcesPredicates") t.pickups
  orientations : SaysOrientations (part document "orientationCorrespondence") t.orientations
  avatar : Value.lookup? document "avatarVariable" = some (.text t.avatar) ∧
    t.avatar.isEmpty = false
  cell : Value.lookup? document "cellVariable" = some (.text t.cell) ∧ t.cell.isEmpty = false
  connections : SaysDirections (part document "connections") t.connections

variable {document : List (Value × Value)}

theorem isJson_of_lookup? (h : (Value.mapping document).IsJson) {key : String}
    (hv : Value.lookup? document key = some v) : v.IsJson := by
  cases h with
  | mapping _ _ values =>
    obtain ⟨e, he, rfl⟩ := Option.map_eq_some_iff.1 hv
    exact values e (List.mem_of_find?_eq_some he)

theorem isJson_part (h : (Value.mapping document).IsJson) (key : String) :
    (part document key).IsJson := by
  unfold part
  cases hv : Value.lookup? document key with
  | none => exact .null
  | some v => exact isJson_of_lookup? h hv

/-- **Reading the tables of a document.** -/
theorem answers_ofValue (h : (Value.mapping document).IsJson) :
    Answers (DomainTables.ofValue (.mapping document)) (Says document) := by
  unfold DomainTables.ofValue
  refine ((answers_readMapping document "variablesTypes").bind fun types htypes =>
    (answers_readTypes (isJson_of_lookup? h htypes)).bind fun types _ =>
    (answers_readMapping document "gameElementsCorrespondence").bind fun elements helements =>
    (answers_readElements (isJson_of_lookup? h helements)).bind fun elements _ =>
    (answers_readPickups (isJson_part h _)).bind fun pickups _ =>
    (answers_readOrientations (isJson_part h _)).bind fun orientations _ =>
    (answers_readVariable document .avatar).bind fun avatar _ =>
    (answers_readVariable document .cell).bind fun cell _ =>
    (answers_readDirections .connections (isJson_part h _)).bind fun connections _ =>
    Answers.ok _).congr fun t => ?_
  constructor
  · rintro ⟨types, htypes, _, hlists, elements, helements, _, hlists', _, hpickups, _,
      horientations, _, havatar, _, hcell, _, hconnections, rfl⟩
    exact ⟨⟨types, htypes, hlists⟩, ⟨elements, helements, hlists'⟩, hpickups, horientations,
      havatar, hcell, hconnections⟩
  · rintro ⟨⟨types, htypes, hlists⟩, ⟨elements, helements, hlists'⟩, hpickups, horientations,
      havatar, hcell, hconnections⟩
    exact ⟨types, htypes, _, hlists, elements, helements, _, hlists', _, hpickups, _, horientations,
      _, havatar, _, hcell, _, hconnections, rfl⟩

end DomainTables

end PlayTrace
