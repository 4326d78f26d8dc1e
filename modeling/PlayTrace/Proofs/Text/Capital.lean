import Mathlib
import PlayTrace.Text.Blank
import PlayTrace.Text.Case

/-!
# Capitals and marks

The text of a trace is held together by blanks, parentheses and hyphens, and most of it is written
in capitals. Capitals are made character by character, and this neither creates nor removes such a
mark: a mark is its own capital, and no other character has a mark in its capital form, nor an empty
one. So a word in capitals is a word, and it is a hyphen only if it was one.

Of the two tables of capital forms nothing else is used here; what is used is checked entry by entry.

## Main definitions

* `Text.isMark` — the characters that hold the text of a trace together
* `Text.IsWord`, `Text.IsName` — a text that can stand between them, and one that is no hyphen

## Main results

* `Text.isMark_capital` — no character has a mark in its capital form
* `Text.IsWord.upper` — a word in capitals is a word
-/

namespace PlayTrace

namespace Text

/-- A character that ends a word: a blank or a parenthesis. -/
def isGap (c : Char) : Bool := isBlank c || c == '(' || c == ')'

/-- A character that holds the text of a trace together: one that ends a word, or a hyphen. -/
def isMark (c : Char) : Bool := isGap c || c == '-'

/-- The numbers of the marks, as ranges with both ends. -/
def markRanges : List (Nat × Nat) :=
  [(9, 13), (28, 32), (40, 41), (45, 45), (0x85, 0x85), (0xA0, 0xA0), (0x1680, 0x1680),
    (0x2000, 0x200A), (0x2028, 0x2029), (0x202F, 0x202F), (0x205F, 0x205F), (0x3000, 0x3000)]

theorem exists_markRange {c : Char} (h : isMark c = true) :
    ∃ r ∈ markRanges, r.1 ≤ c.toNat ∧ c.toNat ≤ r.2 := by
  simp only [isMark, isGap, Bool.or_eq_true, beq_iff_eq] at h
  rcases h with ((hblank | rfl) | rfl) | rfl
  · simp only [isBlank, Bool.or_eq_true, Bool.and_eq_true, decide_eq_true_eq, beq_iff_eq] at hblank
    simp only [markRanges, List.exists_mem_cons_iff, List.not_mem_nil, false_and, exists_const,
      or_false]
    omega
  · decide
  · decide
  · decide

/-! ### The tables -/

/-- No capital of a letter of a run lies in a range. -/
def CapitalRun.avoids (r : CapitalRun) (range : Nat × Nat) : Bool :=
  (r.last : Int) + r.offset < range.1 || (range.2 : Int) < r.first + r.offset

theorem capitalRuns_avoid : ∀ r ∈ capitalRuns, ∀ range ∈ markRanges, r.avoids range = true := by
  decide +kernel

theorem capitalSequences_avoid : ∀ e ∈ capitalSequences,
    e.2 ≠ [] ∧ ∀ n ∈ e.2, isMark (Char.ofNat n) = false := by
  decide +kernel

/-- What can be checked number by number holds of every character of ASCII. -/
theorem forall_ascii {p : Char → Prop} (h : ∀ n < 128, p (Char.ofNat n)) {c : Char}
    (hc : c.toNat < 128) : p c := by
  have hp := h c.toNat hc
  rwa [Char.ofNat_toNat] at hp

theorem isMark_toUpper_ofNat : ∀ n < 128, isMark (Char.ofNat n) = false →
    isMark (Char.ofNat n).toUpper = false := by
  decide +kernel

/-- A character is no mark unless its number is in one of the ranges. -/
theorem isMark_ofNat {n : Nat} (h : ∀ r ∈ markRanges, ¬(r.1 ≤ n ∧ n ≤ r.2)) :
    isMark (Char.ofNat n) = false := by
  rw [← Bool.not_eq_true]
  intro hmark
  obtain ⟨r, hr, hrange⟩ := exists_markRange hmark
  rw [Char.toNat_ofNat] at hrange
  split at hrange
  · exact h r hr hrange
  · have hpos : ∀ r ∈ markRanges, 0 < r.1 := by decide
    have := hpos r hr
    omega

/-- The capital of a letter of a run is no mark. -/
theorem isMark_ofNat_add_offset {r : CapitalRun} (hr : r ∈ capitalRuns) {n : Nat}
    (hfirst : r.first ≤ n) (hlast : n ≤ r.last) :
    isMark (Char.ofNat (n + r.offset).toNat) = false := by
  apply isMark_ofNat
  intro range hrange hmem
  have havoids := capitalRuns_avoid r hr range hrange
  have hpos : ∀ range ∈ markRanges, 0 < range.1 := by decide
  have := hpos range hrange
  simp only [CapitalRun.avoids, Bool.or_eq_true, decide_eq_true_eq] at havoids
  omega

/-! ### Characters -/

/-- **No character has a mark in its capital form**, nor an empty one, unless it is a mark. -/
theorem isMark_capital {c : Char} (h : isMark c = false) :
    capital c ≠ [] ∧ ∀ d ∈ capital c, isMark d = false := by
  unfold capital
  split
  · rename_i hascii
    exact ⟨List.cons_ne_nil _ _, List.forall_mem_singleton.2
      (forall_ascii (p := fun c => isMark c = false → isMark c.toUpper = false)
        isMark_toUpper_ofNat hascii h)⟩
  · unfold capitalBeyondAscii
    split
    · rename_i e he
      obtain ⟨hne, hmarks⟩ := capitalSequences_avoid e (List.mem_of_find?_eq_some he)
      refine ⟨fun hnil => hne (List.map_eq_nil_iff.1 hnil), fun d hd => ?_⟩
      obtain ⟨n, hn, rfl⟩ := List.mem_map.1 hd
      exact hmarks n hn
    · simp only
      split
      · rename_i r hr
        have hrange := List.find?_some hr
        simp only [Bool.and_eq_true, decide_eq_true_eq] at hrange
        exact ⟨List.cons_ne_nil _ _, List.forall_mem_singleton.2
          (isMark_ofNat_add_offset (List.mem_of_find?_eq_some hr) hrange.1.1 hrange.1.2)⟩
      · exact ⟨List.cons_ne_nil _ _, List.forall_mem_singleton.2 h⟩

/-- A character that ends no word has none in its capital form that does. -/
theorem isGap_capital {c : Char} (h : isGap c = false) :
    capital c ≠ [] ∧ ∀ d ∈ capital c, isGap d = false := by
  cases hmark : isMark c with
  | false =>
    obtain ⟨hne, hmarks⟩ := isMark_capital hmark
    exact ⟨hne, fun d hd => (Bool.or_eq_false_iff.1 (hmarks d hd)).1⟩
  | true =>
    rw [isMark, h, Bool.false_or, beq_iff_eq] at hmark
    subst hmark
    exact ⟨List.cons_ne_nil _ _, List.forall_mem_singleton.2 h⟩

/-! ### Words -/

/-- A text that can stand between the marks: it is not empty, and it has neither a blank nor a
parenthesis in it. -/
structure IsWord (s : String) : Prop where
  ne_empty : s ≠ ""
  no_gap : ∀ c ∈ s.toList, isGap c = false

/-- A word that is no hyphen. -/
structure IsName (s : String) : Prop extends IsWord s where
  ne_hyphen : s ≠ "-"

theorem isWord_iff (s : String) : IsWord s ↔ s ≠ "" ∧ s.toList.any isGap = false := by
  have hgap : s.toList.any isGap = false ↔ ∀ c ∈ s.toList, isGap c = false := by
    simp only [List.any_eq_false, Bool.not_eq_true]
  rw [hgap]
  exact ⟨fun h => ⟨h.ne_empty, h.no_gap⟩, fun h => ⟨h.1, h.2⟩⟩

instance (s : String) : Decidable (IsWord s) := decidable_of_iff' _ (isWord_iff s)

instance (s : String) : Decidable (IsName s) :=
  decidable_of_iff (IsWord s ∧ s ≠ "-") ⟨fun h => ⟨h.1, h.2⟩, fun h => ⟨h.toIsWord, h.ne_hyphen⟩⟩

theorem IsWord.exists_cons {s : String} (h : IsWord s) : ∃ c cs, s.toList = c :: cs :=
  List.exists_cons_of_ne_nil fun hnil => h.ne_empty (String.toList_eq_nil_iff.1 hnil)

/-! ### Words in capitals -/

@[simp] theorem toList_upper (s : String) : (upper s).toList = s.toList.flatMap capital :=
  String.toList_ofList

/-- **A word in capitals is a word.** -/
theorem IsWord.upper {s : String} (h : IsWord s) : IsWord (upper s) where
  ne_empty hempty := by
    obtain ⟨c, cs, hs⟩ := h.exists_cons
    have hnil : (Text.upper s).toList = [] := by rw [hempty]; rfl
    rw [toList_upper, hs, List.flatMap_cons, List.append_eq_nil_iff] at hnil
    exact (isGap_capital (h.no_gap c (hs ▸ List.mem_cons_self))).1 hnil.1
  no_gap d hd := by
    rw [toList_upper] at hd
    obtain ⟨c, hc, hd⟩ := List.mem_flatMap.1 hd
    exact (isGap_capital (h.no_gap c hc)).2 d hd

/-- A word is a hyphen in capitals only if it is one. -/
theorem IsWord.upper_ne_hyphen {s : String} (h : IsWord s) (hne : s ≠ "-") : Text.upper s ≠ "-" := by
  intro hupper
  apply hne
  obtain ⟨c, cs, hs⟩ := h.exists_cons
  have hchars : capital c ++ cs.flatMap capital = ['-'] := by
    rw [← List.flatMap_cons, ← hs, ← toList_upper, hupper]
    rfl
  have hgap : ∀ d ∈ c :: cs, isGap d = false := hs ▸ h.no_gap
  obtain ⟨hcapital, hrest⟩ : capital c = ['-'] ∧ cs.flatMap capital = [] := by
    rcases List.append_eq_singleton_iff.1 hchars with ⟨hnil, -⟩ | hboth
    · exact absurd hnil (isGap_capital (hgap c List.mem_cons_self)).1
    · exact hboth
  have hc : c = '-' := by
    by_contra hc
    have hmark : isMark c = false := by
      rw [isMark, hgap c List.mem_cons_self, Bool.false_or]
      exact beq_false_of_ne hc
    have hmarks := (isMark_capital hmark).2 '-' (hcapital ▸ List.mem_singleton_self _)
    exact absurd hmarks (by decide)
  have hcs : cs = [] := by
    by_contra hcs
    obtain ⟨d, ds, rfl⟩ := List.exists_cons_of_ne_nil hcs
    rw [List.flatMap_cons, List.append_eq_nil_iff] at hrest
    exact (isGap_capital (hgap d (List.mem_cons_of_mem c List.mem_cons_self))).1 hrest.1
  rw [← String.toList_inj, hs, hc, hcs]
  rfl

/-! ### Numbers -/

theorem isGap_ofNat_of_isDigit : ∀ n < 128, (Char.ofNat n).isDigit = true →
    isGap (Char.ofNat n) = false := by
  decide +kernel

theorem toNat_lt_of_isDigit {c : Char} (h : c.isDigit = true) : c.toNat < 128 := by
  simp only [Char.isDigit, Bool.and_eq_true, decide_eq_true_eq, UInt32.le_iff_toNat_le] at h
  exact lt_of_le_of_lt h.2 (by decide)

theorem isGap_of_isDigit {c : Char} (h : c.isDigit = true) : isGap c = false :=
  forall_ascii (p := fun c => c.isDigit = true → isGap c = false)
    isGap_ofNat_of_isDigit (toNat_lt_of_isDigit h) h

/-- A number as text is a word. -/
theorem isWord_toString (n : Int) : IsWord (toString n) := by
  have hdigits : ∀ (m : Nat), ∀ c ∈ m.repr.toList, isGap c = false := by
    intro m c hc
    rw [Nat.toList_repr] at hc
    exact isGap_of_isDigit (Nat.isDigit_of_mem_toDigits (by decide) (by decide) hc)
  rw [Int.toString_eq_repr, Int.repr_eq_if]
  split
  · exact ⟨Nat.repr_ne_empty, hdigits _⟩
  · constructor
    · intro hempty
      exact Nat.repr_ne_empty (String.append_eq_empty_iff.1 hempty).2
    · rw [String.toList_append]
      exact List.forall_mem_append.2 ⟨List.forall_mem_singleton.2 rfl, hdigits _⟩

end Text

end PlayTrace
