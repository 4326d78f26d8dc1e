import Mathlib.Data.List.TakeWhile
import PlayTrace.Text.Blank

/-!
# Texts made of words and blanks

A text that is cut at its blanks is a row of words with blanks in between. `Text.Spaced` lays such a
row out with blanks in front of every word, and `Text.splitWords` returns `w :: ws` of exactly the
texts that are blanks, `w`, the row of `ws` and blanks again. The blanks at the two ends of a text
are those that `Text.trimChars` takes away.

## Main definitions

* `Text.IsBlanks`, `Text.IsStretch` — a text of blanks only, and a text that is one word
* `Text.Spaced` — words in a row, with blanks in front of each

## Main results

* `Text.splitWords_eq_cons_iff` — the texts with given words
* `Text.exists_trimChars`, `Text.trimChars_append` — what is taken away at the ends of a text
-/

namespace PlayTrace

namespace Text

variable {cs w trail : List Char} {ws : List (List Char)}

/-- Blanks only, and perhaps none. -/
def IsBlanks (cs : List Char) : Prop := ∀ c ∈ cs, isBlank c = true

/-- A word: not empty, and without blanks. -/
def IsStretch (w : List Char) : Prop := w ≠ [] ∧ ∀ c ∈ w, isBlank c = false

/-- Words in a row, each with at least one blank in front of it. -/
inductive Spaced : List (List Char) → List Char → Prop
  | nil : Spaced [] []
  | cons {gap w cs : List Char} {ws : List (List Char)} (hgap : IsBlanks gap) (hne : gap ≠ [])
      (h : Spaced ws cs) : Spaced (w :: ws) (gap ++ w ++ cs)

theorem isBlanks_nil : IsBlanks [] := fun _ hc => absurd hc List.not_mem_nil

theorem IsStretch.startsWord (h : IsStretch w) (cs : List Char) : startsWord (w ++ cs) = true := by
  obtain ⟨hne, hblank⟩ := h
  obtain ⟨c, w, rfl⟩ := List.exists_cons_of_ne_nil hne
  show (!isBlank c) = true
  rw [hblank c List.mem_cons_self, Bool.not_false]

theorem IsBlanks.startsWord_append (h : IsBlanks cs) (hne : cs ≠ []) (rest : List Char) :
    startsWord (cs ++ rest) = false := by
  obtain ⟨c, cs, rfl⟩ := List.exists_cons_of_ne_nil hne
  show (!isBlank c) = false
  rw [h c List.mem_cons_self, Bool.not_true]

theorem IsBlanks.startsWord (h : IsBlanks cs) : startsWord cs = false := by
  by_cases hne : cs = []
  · rw [hne]
    rfl
  · simpa using h.startsWord_append hne []

/-- Behind a row of words with blanks in front of each, no word goes on. -/
theorem Spaced.startsWord (h : Spaced ws cs) (htrail : IsBlanks trail) :
    startsWord (cs ++ trail) = false := by
  cases h with
  | nil => exact htrail.startsWord
  | cons hgap hne h =>
    rw [List.append_assoc, List.append_assoc]
    exact hgap.startsWord_append hne _

/-! ### Cutting a row of words -/

/-- Blanks in front of a text add no words. -/
theorem splitWords_blanks_append {gap : List Char} (h : IsBlanks gap) (cs : List Char) :
    splitWords (gap ++ cs) = splitWords cs := by
  induction gap with
  | nil => rfl
  | cons c gap ih =>
    rw [List.cons_append, splitWords_cons_blank _ (h c List.mem_cons_self)]
    exact ih fun d hd => h d (List.mem_cons_of_mem c hd)

/-- A word where no word goes on is the first word. -/
theorem splitWords_append (hw : IsStretch w) {rest : List Char} (hrest : startsWord rest = false) :
    splitWords (w ++ rest) = w :: splitWords rest := by
  obtain ⟨hne, hblank⟩ := hw
  induction w with
  | nil => exact absurd rfl hne
  | cons c w ih =>
    have hc : isBlank c = false := hblank c List.mem_cons_self
    have htail : ∀ d ∈ w, isBlank d = false := fun d hd => hblank d (List.mem_cons_of_mem c hd)
    by_cases hend : w = []
    · simp [hend, splitWords, hc, hrest]
    · have hnext : startsWord (w ++ rest) = true := IsStretch.startsWord ⟨hend, htail⟩ rest
      simp [splitWords, hc, hnext, ih hend htail]

/-- The same with blanks in front of the word. -/
theorem splitWords_gap_append {gap rest : List Char} (hgap : IsBlanks gap) (hw : IsStretch w)
    (hrest : startsWord rest = false) : splitWords (gap ++ w ++ rest) = w :: splitWords rest := by
  rw [List.append_assoc, splitWords_blanks_append hgap, splitWords_append hw hrest]

/-- **Words in a row are found again**, whatever blanks stand between them and at the end. -/
theorem splitWords_of_spaced (h : Spaced ws cs) (hws : ∀ w ∈ ws, IsStretch w)
    (htrail : IsBlanks trail) : splitWords (cs ++ trail) = ws := by
  induction h with
  | nil => simpa using splitWords_blanks_append htrail []
  | @cons gap w cs ws hgap hne h ih =>
    obtain ⟨hw, hws⟩ := List.forall_mem_cons.1 hws
    rw [List.append_assoc, splitWords_gap_append hgap hw (h.startsWord htrail), ih hws]

/-! ### What a text was cut from -/

/-- The words of a text are not empty and have no blanks in them. -/
theorem mem_splitWords (h : w ∈ splitWords cs) : IsStretch w := by
  induction cs generalizing w with
  | nil => cases h
  | cons c cs ih =>
    unfold splitWords at h
    split at h
    · exact ih h
    · rename_i hblank
      rw [Bool.not_eq_true] at hblank
      -- The character is a word of its own, or it stands in front of the first word that follows.
      split at h
      · cases hwords : splitWords cs with
        | nil =>
          rw [hwords] at h
          cases h
        | cons v vs =>
          rw [hwords, List.modifyHead_cons] at h
          rcases List.mem_cons.1 h with rfl | hw
          · obtain ⟨-, hv⟩ := ih (hwords ▸ List.mem_cons_self)
            exact ⟨List.cons_ne_nil _ _, List.forall_mem_cons.2 ⟨hblank, hv⟩⟩
          · exact ih (hwords ▸ List.mem_cons_of_mem v hw)
      · rcases List.mem_cons.1 h with rfl | hw
        · exact ⟨List.cons_ne_nil _ _, List.forall_mem_singleton.2 hblank⟩
        · exact ih hw

/-- A text is blanks only, or it begins with blanks and a word behind which no word goes on. -/
theorem isBlanks_or_exists_stretch (cs : List Char) :
    IsBlanks cs ∨ ∃ gap w rest, IsBlanks gap ∧ IsStretch w ∧ startsWord rest = false ∧
      cs = gap ++ w ++ rest := by
  induction cs with
  | nil => exact .inl isBlanks_nil
  | cons c cs ih =>
    by_cases hc : isBlank c = true
    · -- A blank goes in front of what the rest begins with.
      rcases ih with hblanks | ⟨gap, w, rest, hgap, hw, hrest, rfl⟩
      · exact .inl (List.forall_mem_cons.2 ⟨hc, hblanks⟩)
      · exact .inr ⟨c :: gap, w, rest, List.forall_mem_cons.2 ⟨hc, hgap⟩, hw, hrest, rfl⟩
    · rw [Bool.not_eq_true] at hc
      refine .inr ⟨[], c :: cs.takeWhile (!isBlank ·), cs.dropWhile (!isBlank ·), isBlanks_nil,
        ⟨List.cons_ne_nil _ _, ?_⟩, ?_, ?_⟩
      · refine List.forall_mem_cons.2 ⟨hc, fun d hd => ?_⟩
        simpa using List.mem_takeWhile_imp hd
      · cases hrest : cs.dropWhile (!isBlank ·) with
        | nil => rfl
        | cons d rest =>
          have hd := List.head?_dropWhile_not (!isBlank ·) cs
          rw [hrest] at hd
          exact hd
      · simp [List.takeWhile_append_dropWhile]

/-- A text without words is blanks only. -/
theorem splitWords_eq_nil_iff : splitWords cs = [] ↔ IsBlanks cs := by
  constructor
  · intro h
    rcases isBlanks_or_exists_stretch cs with hblanks | ⟨gap, w, rest, hgap, hw, hrest, rfl⟩
    · exact hblanks
    · rw [splitWords_gap_append hgap hw hrest] at h
      cases h
  · intro h
    simpa using splitWords_blanks_append h []

/-- The first word of a text ends where the rest begins, and the rest has the other words. -/
theorem exists_of_splitWords_eq_cons (h : splitWords cs = w :: ws) :
    ∃ gap rest, IsBlanks gap ∧ startsWord rest = false ∧ splitWords rest = ws ∧
      cs = gap ++ w ++ rest := by
  rcases isBlanks_or_exists_stretch cs with hblanks | ⟨gap, v, rest, hgap, hv, hrest, rfl⟩
  · rw [splitWords_eq_nil_iff.2 hblanks] at h
    cases h
  · rw [splitWords_gap_append hgap hv hrest] at h
    obtain ⟨rfl, hws⟩ := List.cons.inj h
    exact ⟨gap, rest, hgap, hrest, hws, rfl⟩

/-- A text that does not begin with a word is its words in a row, and blanks. -/
theorem exists_spaced (h : startsWord cs = false) :
    ∃ row trail, Spaced (splitWords cs) row ∧ IsBlanks trail ∧ cs = row ++ trail := by
  generalize hws : splitWords cs = ws
  induction ws generalizing cs with
  | nil => exact ⟨[], cs, .nil, splitWords_eq_nil_iff.1 hws, rfl⟩
  | cons w ws ih =>
    have hw : IsStretch w := mem_splitWords (hws ▸ List.mem_cons_self)
    obtain ⟨gap, rest, hgap, hrest, hwords, rfl⟩ := exists_of_splitWords_eq_cons hws
    obtain ⟨row, trail, hrow, htrail, rfl⟩ := ih hrest hwords
    have hne : gap ≠ [] := by
      rintro rfl
      rw [List.nil_append, hw.startsWord] at h
      cases h
    exact ⟨gap ++ w ++ row, trail, .cons hgap hne hrow, htrail, by simp only [List.append_assoc]⟩

/-- **The texts with given words** are these words in a row, with blanks between them and perhaps at
the two ends. -/
theorem splitWords_eq_cons_iff :
    splitWords cs = w :: ws ↔ (∀ v ∈ w :: ws, IsStretch v) ∧
      ∃ gap row trail, IsBlanks gap ∧ Spaced ws row ∧ IsBlanks trail ∧
        cs = gap ++ w ++ row ++ trail := by
  constructor
  · intro h
    obtain ⟨gap, rest, hgap, hrest, rfl, rfl⟩ := exists_of_splitWords_eq_cons h
    obtain ⟨row, trail, hrow, htrail, heq⟩ := exists_spaced hrest
    refine ⟨fun v hv => mem_splitWords (h ▸ hv), gap, row, trail, hgap, hrow, htrail, ?_⟩
    rw [List.append_assoc _ row, ← heq]
  · rintro ⟨hall, gap, row, trail, hgap, hrow, htrail, rfl⟩
    obtain ⟨hw, hws⟩ := List.forall_mem_cons.1 hall
    rw [List.append_assoc _ row, splitWords_gap_append hgap hw (hrow.startsWord htrail),
      splitWords_of_spaced hrow hws htrail]

/-! ### The two ends of a text -/

variable {p : Char → Bool}

/-- What is taken away at the ends of a text satisfies the condition. -/
theorem exists_trimChars (p : Char → Bool) (cs : List Char) :
    ∃ lead trail, (∀ c ∈ lead, p c = true) ∧ (∀ c ∈ trail, p c = true) ∧
      cs = lead ++ trimChars p cs ++ trail := by
  refine ⟨cs.takeWhile p, ((cs.dropWhile p).reverse.takeWhile p).reverse,
    fun c hc => List.mem_takeWhile_imp hc,
    fun c hc => List.mem_takeWhile_imp (List.mem_reverse.1 hc), ?_⟩
  rw [trimChars, List.append_assoc, ← List.reverse_append, List.takeWhile_append_dropWhile,
    List.reverse_reverse, List.takeWhile_append_dropWhile]

/-- Nothing more is taken away than what satisfies the condition. -/
theorem trimChars_append {lead core : List Char} (hlead : ∀ c ∈ lead, p c = true)
    (htrail : ∀ c ∈ trail, p c = true) (hfirst : ∀ c ∈ core.head?, p c = false)
    (hlast : ∀ c ∈ core.getLast?, p c = false) (hne : core ≠ []) :
    trimChars p (lead ++ core ++ trail) = core := by
  have hfront : (core ++ trail).dropWhile p = core ++ trail := by
    obtain ⟨c, cs, rfl⟩ := List.exists_cons_of_ne_nil hne
    rw [List.cons_append, List.dropWhile_cons_of_neg (by simp [hfirst c rfl])]
  have hback : core.reverse.dropWhile p = core.reverse := by
    obtain ⟨cs, c, rfl⟩ := (List.eq_nil_or_concat core).resolve_left hne
    rw [List.concat_eq_append] at hlast ⊢
    rw [List.reverse_append, List.reverse_singleton, List.singleton_append,
      List.dropWhile_cons_of_neg (by simp [hlast c (by simp)])]
  rw [trimChars, List.append_assoc, List.dropWhile_append_of_pos hlead, hfront,
    List.reverse_append, List.dropWhile_append_of_pos fun c hc => htrail c (List.mem_reverse.1 hc),
    hback, List.reverse_reverse]

end Text

end PlayTrace
