import Mathlib.Data.List.Forall2
import PlayTrace.Proofs.Text.Capital

/-!
# Ways of writing that are unambiguous

A way of writing is unambiguous if from a text that begins with something written it can be told
what was written and where it ends. It may be needed to know how the text goes on: a word ends where
a gap begins, and nowhere else. `Text.Unambiguous` says this of two texts that may go on differently,
which makes it compose: a list is unambiguous if its entries are and what stands between them is no
part of them.

Nothing is read here. That a text can be read in one way only is all that is said.

## Main definitions

* `Text.Unambiguous` — a way of writing is unambiguous
* `Text.joined`, `Text.enumerated` — a list with spaces in between, and a list with numbers

## Main results

* `Text.unambiguous_word` — a word, where a gap follows
* `Text.Unambiguous.closed` — a list in parentheses
* `Text.Unambiguous.enumerated` — a numbered list
-/

namespace PlayTrace

namespace Text

variable {α : Type} {Q : α → Prop} {P : List Char → Prop} {R : α → α → Prop}
  {write : α → List Char}

/-- If two texts begin with what is written of `a` and of `b`, both fit for writing, and go on in a
way that is known to satisfy `P`, then `a` and `b` are the same in the sense of `R`, and the texts
go on alike. -/
def Unambiguous (Q : α → Prop) (P : List Char → Prop) (R : α → α → Prop)
    (write : α → List Char) : Prop :=
  ∀ ⦃a b⦄, Q a → Q b → ∀ ⦃x y⦄, P x → P y → write a ++ x = write b ++ y → R a b ∧ x = y

/-! ### Words -/

/-- A text goes on with a gap. -/
def GapNext (x : List Char) : Prop := ∃ c cs, x = c :: cs ∧ isGap c = true

theorem gapNext_space (x : List Char) : GapNext (' ' :: x) := ⟨' ', x, rfl, rfl⟩

theorem gapNext_close (x : List Char) : GapNext (')' :: x) := ⟨')', x, rfl, rfl⟩

/-- **A word ends where a gap begins.** -/
theorem unambiguous_word : Unambiguous IsWord GapNext (· = ·) String.toList := by
  have hchars : ∀ {u v x y : List Char}, (∀ c ∈ u, isGap c = false) → (∀ c ∈ v, isGap c = false) →
      GapNext x → GapNext y → u ++ x = v ++ y → u = v ∧ x = y := by
    intro u
    induction u with
    | nil =>
      intro v x y _ hv hx _ h
      cases v with
      | nil => exact ⟨rfl, h⟩
      | cons d v =>
        obtain ⟨c, cs, rfl, hc⟩ := hx
        obtain rfl : c = d := (List.cons.inj h).1
        rw [hv c List.mem_cons_self] at hc
        cases hc
    | cons c u ih =>
      intro v x y hu hv hx hy h
      cases v with
      | nil =>
        obtain ⟨d, ds, rfl, hd⟩ := hy
        obtain rfl : c = d := (List.cons.inj h).1
        rw [hu c List.mem_cons_self] at hd
        cases hd
      | cons d v =>
        obtain ⟨rfl, hrest⟩ := List.cons.inj h
        obtain ⟨rfl, hxy⟩ := ih (fun e he => hu e (List.mem_cons_of_mem c he))
          (fun e he => hv e (List.mem_cons_of_mem c he)) hx hy hrest
        exact ⟨rfl, hxy⟩
  intro s t hs ht x y hx hy h
  obtain ⟨hst, hxy⟩ := hchars hs.no_gap ht.no_gap hx hy h
  exact ⟨String.toList_inj.1 hst, hxy⟩

/-- No word begins with a gap. -/
theorem IsWord.append_ne_cons {s : String} (h : IsWord s) {c : Char} (hc : isGap c = true)
    (x y : List Char) : s.toList ++ x ≠ c :: y := by
  intro heq
  obtain ⟨d, ds, hs⟩ := h.exists_cons
  rw [hs] at heq
  obtain rfl : d = c := (List.cons.inj heq).1
  rw [h.no_gap d (hs ▸ List.mem_cons_self)] at hc
  cases hc

/-! ### Parts of what is written -/

/-- What can be told of a part can be told of the whole. -/
theorem Unambiguous.comap {β : Type} (h : Unambiguous Q P R write) (part : β → α) :
    Unambiguous (fun b => Q (part b)) P (fun b c => R (part b) (part c)) fun b => write (part b) :=
  fun _ _ hb hc => h hb hc

/-- The same at the end of everything that is written. -/
theorem Unambiguous.append (h : Unambiguous Q (fun _ => True) R write) (last : List Char) :
    Unambiguous Q (fun _ => True) R fun a => write a ++ last := by
  intro a b ha hb x y _ _ heq
  simp only [List.append_assoc] at heq
  obtain ⟨hab, hxy⟩ := h ha hb trivial trivial heq
  exact ⟨hab, List.append_cancel_left hxy⟩

/-! ### Lists -/

/-- A list with a space between its entries. -/
def joined (write : α → List Char) : List α → List Char
  | [] => []
  | a :: as => write a ++ as.flatMap fun b => ' ' :: write b

/-- Texts with another one in between, character by character. -/
theorem toList_intercalate_cons (gap s : String) (ss : List String) :
    (gap.intercalate (s :: ss)).toList = s.toList ++ ss.flatMap fun t => gap.toList ++ t.toList := by
  rw [String.toList_intercalate, List.map_cons]
  induction ss generalizing s with
  | nil => simp
  | cons t ss ih =>
    rw [List.map_cons, List.intercalate_cons_cons, ih t, List.flatMap_cons]
    simp only [List.append_assoc]

theorem toList_intercalate_space (write : α → String) (as : List α) :
    (" ".intercalate (as.map write)).toList = joined (fun a => (write a).toList) as := by
  cases as with
  | nil => rfl
  | cons a as =>
    rw [List.map_cons, toList_intercalate_cons, List.flatMap_map]
    rfl

/-- The rest of a list in parentheses begins with a space or is closed at once. -/
theorem next_rest (hspace : ∀ x, P (' ' :: x)) (hclose : ∀ x, P (')' :: x))
    (write : α → List Char) (as : List α) (x : List Char) :
    P ((as.flatMap fun a => ' ' :: write a) ++ ')' :: x) := by
  cases as with
  | nil => exact hclose x
  | cons a as => exact hspace _

/-- The rest of a list, up to the parenthesis that closes it. -/
theorem Unambiguous.rest (h : Unambiguous Q P R write) (hspace : ∀ x, P (' ' :: x))
    (hclose : ∀ x, P (')' :: x)) :
    Unambiguous (fun as => ∀ a ∈ as, Q a) (fun _ => True) (List.Forall₂ R)
      fun as => (as.flatMap fun a => ' ' :: write a) ++ [')'] := by
  have hnext := next_rest hspace hclose write
  intro as
  induction as with
  | nil =>
    intro bs _ _ x y _ _ heq
    cases bs with
    | nil => exact ⟨.nil, (List.cons.inj heq).2⟩
    | cons b bs => exact absurd (List.cons.inj heq).1 (by decide)
  | cons a as ih =>
    intro bs has hbs x y hx hy heq
    cases bs with
    | nil => exact absurd (List.cons.inj heq).1 (by decide)
    | cons b bs =>
      simp only [List.flatMap_cons, List.cons_append, List.append_assoc, List.nil_append,
        List.cons.injEq, true_and] at heq
      obtain ⟨hab, hrest⟩ := h (has a List.mem_cons_self) (hbs b List.mem_cons_self)
        (hnext as x) (hnext bs y) heq
      obtain ⟨hall, hxy⟩ := ih (fun c hc => has c (List.mem_cons_of_mem a hc))
        (fun c hc => hbs c (List.mem_cons_of_mem b hc)) hx hy (by simpa using hrest)
      exact ⟨.cons hab hall, hxy⟩

/-- **A list in parentheses** is unambiguous if its entries are and none of them begins with the
parenthesis that closes the list. -/
theorem Unambiguous.closed (h : Unambiguous Q P R write) (hspace : ∀ x, P (' ' :: x))
    (hclose : ∀ x, P (')' :: x)) (hstart : ∀ a, Q a → ∀ x y, write a ++ x ≠ ')' :: y) :
    Unambiguous (fun as => ∀ a ∈ as, Q a) (fun _ => True) (List.Forall₂ R)
      fun as => '(' :: joined write as ++ [')'] := by
  -- A list that is not empty is one entry of the rest of a list, but for the space in front.
  have hrest := h.rest hspace hclose
  intro as bs has hbs x y hx hy heq
  cases as with
  | nil =>
    cases bs with
    | nil => exact ⟨.nil, (List.cons.inj (List.cons.inj heq).2).2⟩
    | cons b bs =>
      simp only [joined, List.cons_append, List.append_assoc, List.nil_append, List.cons.injEq,
        true_and] at heq
      exact absurd heq.symm (hstart b (hbs b List.mem_cons_self) _ x)
  | cons a as =>
    cases bs with
    | nil =>
      simp only [joined, List.cons_append, List.append_assoc, List.nil_append, List.cons.injEq,
        true_and] at heq
      exact absurd heq (hstart a (has a List.mem_cons_self) _ y)
    | cons b bs =>
      refine hrest has hbs hx hy ?_
      simpa [joined] using heq

/-! ### Numbered lists -/

/-- A list with a label in front of each entry, which may depend on the place, counted from `i`. -/
def enumerated (label : Nat → List Char) (write : α → List Char) : Nat → List α → List Char
  | _, [] => []
  | i, a :: as => label i ++ write a ++ enumerated label write (i + 1) as

/-- **A numbered list** is unambiguous if its entries are and what follows cannot be taken for
another label. -/
theorem Unambiguous.enumerated (h : Unambiguous Q (fun _ => True) R write)
    (label : Nat → List Char) (i : Nat) :
    Unambiguous (fun as => ∀ a ∈ as, Q a) (fun x => ∀ i y, x ≠ label i ++ y) (List.Forall₂ R)
      (enumerated label write i) := by
  intro as
  induction as generalizing i with
  | nil =>
    intro bs _ _ x y hx _ heq
    cases bs with
    | nil => exact ⟨.nil, heq⟩
    | cons b bs =>
      simp only [Text.enumerated, List.nil_append, List.append_assoc] at heq
      exact absurd heq (hx i _)
  | cons a as ih =>
    intro bs has hbs x y hx hy heq
    cases bs with
    | nil =>
      simp only [Text.enumerated, List.nil_append, List.append_assoc] at heq
      exact absurd heq.symm (hy i _)
    | cons b bs =>
      simp only [Text.enumerated, List.append_assoc, List.append_cancel_left_eq] at heq
      obtain ⟨hab, hrest⟩ := h (has a List.mem_cons_self) (hbs b List.mem_cons_self)
        trivial trivial heq
      obtain ⟨hall, hxy⟩ := ih (i + 1) (fun c hc => has c (List.mem_cons_of_mem a hc))
        (fun c hc => hbs c (List.mem_cons_of_mem b hc)) hx hy hrest
      exact ⟨.cons hab hall, hxy⟩

end Text

end PlayTrace
