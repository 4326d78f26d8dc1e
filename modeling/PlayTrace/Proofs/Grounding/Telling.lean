import PlayTrace.Grounding.State
import PlayTrace.Proofs.Success

/-!
# One loop for three

A snapshot is told by three loops, over its cells, the keys in a cell and the templates of a key,
which hand on whether it is still to be said where the avatar looks. The three loops are one loop
over the sites. At the first site that mentions the avatar the orientation is told, and from there
on every site comes to one fact.

So what is told of a snapshot, faults included, is told by a recursion over its sites that knows of
no flag.

## Main definitions

* `Domain.siteFacts` — the facts at sites, by recursion

## Main results

* `Domain.foldlM_tellCell` — the three loops are one
* `Domain.spritesTold_eq` — the loops tell what the recursion tells
-/

namespace PlayTrace

/-- A loop over the parts of a list is a loop of loops. -/
theorem foldlM_flatMap {ε α β γ : Type} (f : α → List β) (step : γ → β → Except ε γ) (l : List α)
    (c : γ) : (l.flatMap f).foldlM step c = l.foldlM (fun c a => (f a).foldlM step c) c := by
  induction l generalizing c with
  | nil => rfl
  | cons a l ih =>
    rw [List.flatMap_cons, List.foldlM_append, List.foldlM_cons]
    exact congrArg _ (funext ih)

namespace Domain

variable (D : Domain) (mode : Mode) (o : Orientation)

/-- The facts at sites, with what is said about the orientation right before the first site that
mentions the avatar. -/
def siteFacts : List Site → Except Fault (List Fact)
  | [] => .ok []
  | site :: rest =>
    if site.template.uses D.avatar then do
      let facing ← D.orientationFacts o
      let facts ← (site :: rest).mapM (D.siteFact mode)
      return facing ++ facts
    else do
      let fact ← D.siteFact mode site
      return fact :: (← siteFacts rest)

/-- Tells the fact at a site. -/
def tellSite (T : Telling) (site : Site) : Except Fault Telling :=
  D.tellTemplate mode o site.cell T site.template

/-- **The three loops are one loop** over the sites. -/
theorem foldlM_tellCell (s : Snapshot) (T : Telling) :
    s.rowMajor.foldlM (D.tellCell mode o) T = (D.sites s).foldlM (D.tellSite mode o) T := by
  have hkey (c : Cell) : D.tellKey mode o c =
      fun T key => ((D.templatesOf key).map (Site.mk c)).foldlM (D.tellSite mode o) T := by
    funext T key
    rw [List.foldlM_map]
    rfl
  have hcell : D.tellCell mode o = fun T e => (D.sitesOf e.1 e.2).foldlM (D.tellSite mode o) T := by
    funext T e
    rw [tellCell, hkey, sitesOf, foldlM_flatMap]
  rw [hcell, sites, foldlM_flatMap]

/-- When it has been said where the avatar looks, every site comes to one fact. -/
theorem foldlM_tellSite_said (sites : List Site) (told : List Fact) :
    sites.foldlM (D.tellSite mode o) ⟨told, false⟩ =
      (sites.mapM (D.siteFact mode)).map fun facts => ⟨facts.reverse ++ told, false⟩ := by
  induction sites generalizing told with
  | nil => rfl
  | cons site rest ih =>
    have hstep : D.tellSite mode o ⟨told, false⟩ site =
        (D.siteFact mode site).map fun fact => ⟨fact :: told, false⟩ := rfl
    rw [List.foldlM_cons, List.mapM_cons, hstep]
    cases D.siteFact mode site with
    | error e => rfl
    | ok fact =>
      rw [Except.map, ok_bind, ok_bind, ih]
      cases rest.mapM (D.siteFact mode) with
      | error e => rfl
      | ok facts =>
        have hreverse : facts.reverse ++ fact :: told = (fact :: facts).reverse ++ told := by simp
        exact congrArg (fun told => Except.ok (Telling.mk told false)) hreverse

/-- As long as it is to be said where the avatar looks, the loop does as the recursion does. -/
theorem foldlM_tellSite_pending (sites : List Site) (told : List Fact) :
    (sites.foldlM (D.tellSite mode o) ⟨told, true⟩).map Telling.told =
      (D.siteFacts mode o sites).map fun facts => facts.reverse ++ told := by
  induction sites generalizing told with
  | nil => rfl
  | cons site rest ih =>
    rw [List.foldlM_cons, siteFacts, tellSite, tellTemplate, tellFacing, Bool.true_and]
    by_cases huses : site.template.uses D.avatar = true
    · -- The rest of the loop is told without the flag, this site included.
      rw [if_pos huses, if_pos huses]
      cases D.orientationFacts o with
      | error e => rfl
      | ok facing =>
        have hsaid := D.foldlM_tellSite_said mode o (site :: rest) (facing.reverse ++ told)
        rw [List.foldlM_cons] at hsaid
        refine (congrArg (Except.map Telling.told) hsaid).trans ?_
        cases (site :: rest).mapM (D.siteFact mode) with
        | error e => rfl
        | ok facts =>
          have hreverse : facts.reverse ++ (facing.reverse ++ told) =
              (facing ++ facts).reverse ++ told := by simp
          exact congrArg Except.ok hreverse
    · rw [if_neg huses, if_neg huses]
      cases D.siteFact mode site with
      | error e => rfl
      | ok fact =>
        refine (ih (fact :: told)).trans ?_
        cases D.siteFacts mode o rest with
        | error e => rfl
        | ok facts =>
          have hreverse : facts.reverse ++ fact :: told = (fact :: facts).reverse ++ told := by simp
          exact congrArg Except.ok hreverse

/-- **The loops tell what the recursion tells**, or fail for the same reason. -/
theorem spritesTold_eq (s : Snapshot) :
    D.spritesTold mode o s = D.siteFacts mode o (D.sites s) := by
  have hloop : D.spritesTold mode o s =
      ((s.rowMajor.foldlM (D.tellCell mode o) ⟨[], true⟩).map Telling.told).map List.reverse := by
    rw [spritesTold]
    cases s.rowMajor.foldlM (D.tellCell mode o) ⟨[], true⟩ <;> rfl
  rw [hloop, foldlM_tellCell, foldlM_tellSite_pending]
  cases D.siteFacts mode o (D.sites s) with
  | error e => rfl
  | ok facts => exact congrArg Except.ok (by simp)

end Domain

end PlayTrace
