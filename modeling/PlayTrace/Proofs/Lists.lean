import Mathlib.Data.List.Forall2
import Mathlib.Data.List.Nodup

/-!
# Lists side by side, and lists without repetitions

Two lists side by side are related entry by entry. A list whose repetitions are dropped keeps each
value where it first came up; when the values come from a list that is in order, those that stay can
be told without looking at what was kept before.

## Main definitions

* `IsFirst` — an entry that no entry with the same value precedes

## Main results

* `exists_forall₂_iff`, `exists_split_of_forall₂` — counterparts of the entries of a list
* `nodup_eraseDups` — dropping repetitions leaves none
* `eraseDups_filter` — values that are left out have no say in which repetitions are dropped
* `eraseDups_map_eq` — which entries of an ordered list are the first with their value
-/

namespace PlayTrace

/-! ### Lists side by side -/

section SideBySide

variable {α β : Type} {R : α → β → Prop} {l : List α} {l' : List β}

theorem exists_of_forall₂_left (h : List.Forall₂ R l l') {a : α} (ha : a ∈ l) :
    ∃ b ∈ l', R a b := by
  induction h with
  | nil => simp at ha
  | cons hab _ ih =>
    rcases List.mem_cons.1 ha with rfl | hmem
    · exact ⟨_, List.mem_cons_self, hab⟩
    · obtain ⟨b, hb, hR⟩ := ih hmem
      exact ⟨b, List.mem_cons_of_mem _ hb, hR⟩

theorem exists_of_forall₂_right (h : List.Forall₂ R l l') {b : β} (hb : b ∈ l') :
    ∃ a ∈ l, R a b :=
  exists_of_forall₂_left h.flip hb

/-- If every element has a counterpart, there is a list of them. -/
theorem exists_forall₂ (h : ∀ a ∈ l, ∃ b, R a b) : ∃ l', List.Forall₂ R l l' := by
  induction l with
  | nil => exact ⟨[], .nil⟩
  | cons a l ih =>
    obtain ⟨b, hR⟩ := h a List.mem_cons_self
    obtain ⟨bs, hbs⟩ := ih fun c hc => h c (List.mem_cons_of_mem a hc)
    exact ⟨b :: bs, .cons hR hbs⟩

/-- Every element has a counterpart with a property if and only if there is a list of such
counterparts. -/
theorem exists_forall₂_iff {Q : β → Prop} :
    (∃ l', List.Forall₂ R l l' ∧ ∀ b ∈ l', Q b) ↔ ∀ a ∈ l, ∃ b, R a b ∧ Q b := by
  constructor
  · rintro ⟨l', h, hQ⟩ a ha
    obtain ⟨b, hb, hR⟩ := exists_of_forall₂_left h ha
    exact ⟨b, hR, hQ b hb⟩
  · intro h
    obtain ⟨l', hl'⟩ := exists_forall₂ h
    refine ⟨l', hl'.imp fun _ _ => And.left, fun b hb => ?_⟩
    obtain ⟨a, -, -, hQ⟩ := exists_of_forall₂_right hl' hb
    exact hQ

/-- A list beside one that is split is split alike. -/
theorem exists_split_of_forall₂ {before after : List α} {a : α}
    (h : List.Forall₂ R (before ++ a :: after) l') :
    ∃ before' b after', l' = before' ++ b :: after' ∧ R a b ∧ List.Forall₂ R after after' := by
  induction before generalizing l' with
  | nil =>
    obtain ⟨b, bs, hR, hbs, rfl⟩ := List.forall₂_cons_left_iff.1 h
    exact ⟨[], b, bs, rfl, hR, hbs⟩
  | cons c before ih =>
    obtain ⟨b, bs, -, hbs, rfl⟩ := List.forall₂_cons_left_iff.1 h
    obtain ⟨before', b', after', rfl, hR, hafter⟩ := ih hbs
    exact ⟨b :: before', b', after', rfl, hR, hafter⟩

/-- Two lists have the same images if and only if their entries have, side by side. -/
theorem map_eq_map_iff_forall₂ {γ : Type} {f : α → γ} {g : β → γ} :
    l.map f = l'.map g ↔ List.Forall₂ (fun a b => f a = g b) l l' := by
  rw [← List.forall₂_eq_eq_eq, List.forall₂_map_left_iff, List.forall₂_map_right_iff]

end SideBySide

/-! ### Dropping repetitions -/

section Repetitions

variable {α β : Type} [DecidableEq β]

theorem nodup_eraseDups (l : List β) : l.eraseDups.Nodup := by
  induction hn : l.length using Nat.strongRecOn generalizing l with
  | _ n ih =>
    cases l with
    | nil => exact .nil
    | cons a l =>
      rw [List.eraseDups_cons]
      refine List.nodup_cons.2 ⟨by simp, ?_⟩
      have hle := List.length_filter_le (fun b => !b == a) l
      rw [List.length_cons] at hn
      exact ih _ (by omega) _ rfl

/-- Leaving out some values and dropping repetitions can be done in either order. -/
theorem eraseDups_filter (p : β → Bool) (l : List β) :
    (l.filter p).eraseDups = l.eraseDups.filter p := by
  induction hn : l.length using Nat.strongRecOn generalizing l with
  | _ n ih =>
    cases l with
    | nil => rfl
    | cons a l =>
      have hle := List.length_filter_le (fun b => !b == a) l
      rw [List.length_cons] at hn
      have hrest := ih _ (by omega) (l.filter fun b => !b == a) rfl
      rw [List.eraseDups_cons, List.filter_cons, List.filter_cons, ← hrest, List.filter_filter]
      by_cases ha : p a = true
      · rw [if_pos ha, if_pos ha, List.eraseDups_cons, List.filter_filter]
        simp only [Bool.and_comm]
      · -- Where `a` is left out, it need not be dropped once more.
        have hother : ∀ b ∈ l, (p b && !b == a) = p b := by
          intro b _
          by_cases hb : b = a
          · simp [hb, ha]
          · simp [hb]
        rw [if_neg ha, if_neg ha, List.filter_congr hother]

/-- No entry of the list that comes before `a` has the same value. -/
def IsFirst (before : α → α → Prop) (f : α → β) (l : List α) (a : α) : Prop :=
  ∀ b ∈ l, before b a → f b ≠ f a

variable {before : α → α → Prop} {f : α → β} {l : List α} {a b : α}

/-- Entries with another value have no say in what comes first. -/
theorem isFirst_cons_iff (hne : f b ≠ f a) :
    IsFirst before f (a :: l) b ↔ IsFirst before f (l.filter fun c => f c ≠ f a) b := by
  constructor
  · exact fun h c hc => h c (List.mem_cons_of_mem a (List.mem_filter.1 hc).1)
  · intro h c hc hcb heq
    rcases List.mem_cons.1 hc with rfl | hc
    · exact hne heq.symm
    · exact h c (List.mem_filter.2 ⟨hc, by simpa [heq] using hne⟩) hcb heq

/-- The values of a list without repetitions are those of the entries that come first with their
value. -/
theorem eraseDups_map_eq (hasymm : ∀ a b, before a b → ¬ before b a) (hl : l.Pairwise before)
    {keep : α → Bool} (hkeep : ∀ a ∈ l, keep a = true ↔ IsFirst before f l a) :
    (l.map f).eraseDups = (l.filter keep).map f := by
  induction hn : l.length using Nat.strongRecOn generalizing l with
  | _ n ih =>
    cases l with
    | nil => rfl
    | cons a l =>
      obtain ⟨ha, hl⟩ := List.pairwise_cons.1 hl
      -- The first entry stays, and with it go all the entries that share its value.
      have hfirst : keep a = true := (hkeep a List.mem_cons_self).2 fun b hb hba => by
        rcases List.mem_cons.1 hb with rfl | hb
        · exact absurd hba (hasymm b b hba)
        · exact absurd hba (hasymm a b (ha b hb))
      have hgone : (l.map f).filter (fun b => !b == f a) = (l.filter fun b => f b ≠ f a).map f := by
        rw [List.filter_map]
        congr 1
        exact List.filter_congr fun b _ => by rw [Bool.eq_iff_iff]; simp
      have hkept : l.filter keep = (l.filter fun b => f b ≠ f a).filter keep := by
        rw [List.filter_filter]
        refine List.filter_congr fun b hb => ?_
        cases hb' : keep b with
        | false => simp
        | true =>
          have hne := (hkeep b (List.mem_cons_of_mem a hb)).1 hb' a List.mem_cons_self (ha b hb)
          simp [Ne.symm hne]
      have hshort : (l.filter fun b => f b ≠ f a).length < n := by
        have hle := List.length_filter_le (fun b => f b ≠ f a) l
        rw [List.length_cons] at hn
        omega
      have hrest := ih _ hshort (hl.filter fun b => f b ≠ f a) (fun b hb => ?_) rfl
      · rw [List.map_cons, List.eraseDups_cons, hgone, hrest, List.filter_cons_of_pos hfirst,
          List.map_cons, hkept]
      · obtain ⟨hb, hne⟩ := List.mem_filter.1 hb
        rw [hkeep b (List.mem_cons_of_mem a hb), isFirst_cons_iff (of_decide_eq_true hne)]

end Repetitions

end PlayTrace
