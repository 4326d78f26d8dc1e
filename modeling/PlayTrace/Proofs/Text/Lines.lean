import PlayTrace.Proofs.Text.Words
import PlayTrace.Text.Lines

/-!
# Rows of a text

A text stands for a list of rows: its lines, without those that are blank. A line feed always ends a
line, also behind a carriage return; so a text may be cut at a line feed, and its rows are those of
the two parts. Hence rows that are joined by line feeds are found again, whatever blank lines stand
between them and whether or not a line feed stands at the end. Blanks at the two ends of a row
belong to the row.

## Main definitions

* `Text.Closes` — the lines of a text whose last line is ended by a line feed
* `Text.rows` — the lines of a text that are not blank
* `Text.IsRow` — a text that can stand as a row
* `Text.Interspersed` — rows with blank lines in between
* `Text.block` — lines joined by line feeds

## Main results

* `Text.rows_append_newline` — a text is cut at a line feed
* `Text.rows_block` — the rows of a block are those that it was made of
-/

namespace PlayTrace

namespace Text

variable {c : Char} {cs l r : List Char} {ls : List (List Char)}

/-! ### Lines -/

theorem splitLines_cons_of_break (h : isLineBreak c = true)
    (hpair : ∀ ds, c = '\r' → cs = '\n' :: ds → False) :
    splitLines (c :: cs) = [] :: splitLines cs := by
  rw [splitLines.eq_3 c cs hpair, if_pos h]

/-- A line feed ends a line. -/
theorem splitLines_newline (cs : List Char) : splitLines ('\n' :: cs) = [] :: splitLines cs :=
  splitLines_cons_of_break (by decide) fun _ h => absurd h (by decide)

/-- A character that ends no line goes in front of the first line that follows. -/
theorem splitLines_cons_of_eq_cons (h : isLineBreak c = false) (hcs : splitLines cs = l :: ls) :
    splitLines (c :: cs) = (c :: l) :: ls := by
  have hpair : ∀ ds, c = '\r' → cs = '\n' :: ds → False := by
    rintro ds rfl -
    exact absurd h (by decide)
  rw [splitLines.eq_3 c cs hpair, if_neg (Bool.eq_false_iff.1 h), hcs]

theorem splitLines_singleton (h : isLineBreak c = false) : splitLines [c] = [[c]] := by
  rw [splitLines.eq_3 c [] fun _ _ hnil => List.cons_ne_nil _ _ hnil.symm,
    if_neg (Bool.eq_false_iff.1 h), splitLines_nil]

/-- A text has lines unless it is empty. -/
theorem splitLines_ne_nil (h : cs ≠ []) : splitLines cs ≠ [] := by
  unfold splitLines
  split
  · exact absurd rfl h
  · exact List.cons_ne_nil _ _
  · split
    · exact List.cons_ne_nil _ _
    · split <;> exact List.cons_ne_nil _ _

/-- A text without line breaks is one line. -/
theorem splitLines_of_not_break (hr : ∀ c ∈ r, isLineBreak c = false) (hne : r ≠ []) :
    splitLines r = [r] := by
  induction r with
  | nil => exact absurd rfl hne
  | cons c r ih =>
    obtain ⟨hc, hr⟩ := List.forall_mem_cons.1 hr
    by_cases hend : r = []
    · rw [hend]
      exact splitLines_singleton hc
    · exact splitLines_cons_of_eq_cons hc (ih hr hend)

/-! ### Cutting a text at a line feed -/

/-- The lines of a text whose last line is ended by a line feed. They do not depend on what follows,
and the line feed adds at most an empty line. -/
structure Closes (cs : List Char) (ls : List (List Char)) : Prop where
  splitLines_append : ∀ rest, splitLines (cs ++ '\n' :: rest) = ls ++ splitLines rest
  eq_or_eq : ls = splitLines cs ∨ ls = splitLines cs ++ [[]]

theorem closes_nil : Closes [] [[]] := ⟨splitLines_newline, .inr rfl⟩

/-- A line break ends an empty line, unless it is a carriage return that joins a line feed. -/
theorem Closes.cons_of_break (h : Closes cs ls) (hbreak : isLineBreak c = true)
    (hreturn : c = '\r' → ∃ d ds, cs = d :: ds ∧ d ≠ '\n') : Closes (c :: cs) ([] :: ls) := by
  have hpair : ∀ rest ds, c = '\r' → cs ++ rest = '\n' :: ds → False := by
    intro rest ds hc heq
    obtain ⟨d, es, rfl, hd⟩ := hreturn hc
    exact hd (List.cons.inj heq).1
  refine ⟨fun rest => ?_, ?_⟩
  · rw [List.cons_append, splitLines_cons_of_break hbreak (hpair _), h.splitLines_append,
      List.cons_append]
  · rw [splitLines_cons_of_break hbreak (by simpa using hpair [])]
    exact h.eq_or_eq.imp (congrArg _) (congrArg _)

/-- Any other character goes in front of the first line, be it an empty one. -/
theorem Closes.cons_of_not_break (h : Closes cs ls) (hbreak : isLineBreak c = false) :
    ∃ ls', Closes (c :: cs) ls' := by
  by_cases hnil : cs = []
  · subst hnil
    exact ⟨[[c]], fun rest => splitLines_cons_of_eq_cons hbreak (splitLines_newline rest),
      .inl (splitLines_singleton hbreak).symm⟩
  · obtain ⟨hlines, hend⟩ := h
    obtain ⟨m, ms, hcs⟩ := List.exists_cons_of_ne_nil (splitLines_ne_nil hnil)
    have hcons := splitLines_cons_of_eq_cons hbreak hcs
    rw [hcs] at hend
    rcases hend with rfl | rfl
    · refine ⟨(c :: m) :: ms, fun rest => ?_, .inl hcons.symm⟩
      exact splitLines_cons_of_eq_cons hbreak (hlines rest)
    · refine ⟨(c :: m) :: (ms ++ [[]]), fun rest => ?_, .inr (by rw [hcons, List.cons_append])⟩
      exact splitLines_cons_of_eq_cons hbreak (hlines rest)

theorem exists_closes (cs : List Char) : ∃ ls, Closes cs ls := by
  induction cs with
  | nil => exact ⟨[[]], closes_nil⟩
  | cons c cs ih =>
    obtain ⟨ls, h⟩ := ih
    by_cases hbreak : isLineBreak c = true
    · by_cases hreturn : c = '\r'
      · -- A carriage return and the line feed behind it count as one break.
        subst hreturn
        cases cs with
        | nil => exact ⟨[[]], fun _ => rfl, .inl rfl⟩
        | cons d ds =>
          by_cases hd : d = '\n'
          · subst hd
            exact ⟨ls, h.splitLines_append, h.eq_or_eq⟩
          · exact ⟨[] :: ls, h.cons_of_break hbreak fun _ => ⟨d, ds, rfl, hd⟩⟩
      · exact ⟨[] :: ls, h.cons_of_break hbreak fun hc => absurd hc hreturn⟩
    · exact h.cons_of_not_break (Bool.not_eq_true _ ▸ hbreak)

/-! ### What the lines of a text hold -/

/-- The lines of a text are what it holds, without some of its line breaks. -/
theorem flatten_splitLines_sublist (cs : List Char) : (splitLines cs).flatten.Sublist cs := by
  fun_induction splitLines cs with
  | case1 => exact .slnil
  | case2 cs ih => exact (ih.cons _).cons _
  | case3 c cs hpair hbreak ih => exact ih.cons c
  | case4 c cs hpair hbreak hnil ih => exact (List.nil_sublist cs).cons_cons c
  | case5 c cs hpair hbreak l ls hcons ih =>
    rw [hcons] at ih
    exact ih.cons_cons c

/-- The lines of blanks are blank. -/
theorem IsBlanks.of_mem_splitLines (h : IsBlanks cs) (hl : l ∈ splitLines cs) : IsBlanks l :=
  fun _ hc => h _ ((flatten_splitLines_sublist cs).subset (List.mem_flatten.2 ⟨l, hl, hc⟩))

/-! ### Rows -/

/-- The lines of a text that are not blank. -/
def rows (cs : List Char) : List (List Char) := (splitLines cs).filter fun l => !l.all isBlank

/-- A row: not blank throughout, and without line breaks. -/
def IsRow (r : List Char) : Prop := ¬ IsBlanks r ∧ ∀ c ∈ r, isLineBreak c = false

-- The characters of the text are tested one by one, and not all characters that there are.
instance (cs : List Char) : Decidable (IsBlanks cs) :=
  decidable_of_iff (cs.all isBlank = true) List.all_eq_true

instance (r : List Char) : Decidable (IsRow r) :=
  decidable_of_iff (¬ IsBlanks r ∧ r.any isLineBreak = false) (and_congr_right' (by simp))

theorem IsBlanks.rows_eq_nil (h : IsBlanks cs) : rows cs = [] := by
  rw [rows, List.filter_eq_nil_iff]
  intro l hl
  have hall : l.all isBlank = true := List.all_eq_true.2 (h.of_mem_splitLines hl)
  simp [hall]

theorem IsRow.rows_eq (h : IsRow r) : rows r = [r] := by
  obtain ⟨hblank, hbreak⟩ := h
  have hne : r ≠ [] := by
    rintro rfl
    exact hblank isBlanks_nil
  have hall : r.all isBlank = false := by
    rw [Bool.eq_false_iff, ne_eq, List.all_eq_true]
    exact hblank
  simp [rows, splitLines_of_not_break hbreak hne, hall]

/-- **A text is cut at a line feed**: its rows are those of the two parts. -/
theorem rows_append_newline (cs rest : List Char) :
    rows (cs ++ '\n' :: rest) = rows cs ++ rows rest := by
  obtain ⟨ls, hls, hend⟩ := exists_closes cs
  rw [rows, hls, List.filter_append]
  rcases hend with rfl | rfl
  · rfl
  · rw [List.filter_append]
    exact congrArg (· ++ rows rest) (List.append_nil _)

/-! ### Blocks -/

/-- Rows with any number of blank lines before, between and behind them. -/
inductive Interspersed : List String → List String → Prop
  | nil : Interspersed [] []
  | row {rs ls : List String} (r : String) (h : Interspersed rs ls) :
      Interspersed (r :: rs) (r :: ls)
  | blank {rs ls : List String} {l : String} (hl : IsBlanks l.toList) (h : Interspersed rs ls) :
      Interspersed rs (l :: ls)

/-- Lines joined by line feeds, with one behind the last of them or without. -/
def block (final : Bool) (ls : List String) : String :=
  "\n".intercalate ls ++ if final then "\n" else ""

theorem toList_block_singleton (final : Bool) (l : String) :
    (block final [l]).toList = l.toList ++ if final then ['\n'] else [] := by
  cases final <;> simp [block]

theorem toList_block_cons (final : Bool) (l : String) {ls : List String} (hne : ls ≠ []) :
    (block final (l :: ls)).toList = l.toList ++ '\n' :: (block final ls).toList := by
  simp [block, List.intercalate_cons_of_ne_nil, hne]

/-- The rows of a block are those of its lines. -/
theorem rows_block_eq_flatMap (final : Bool) (ls : List String) :
    rows (block final ls).toList = ls.flatMap fun l => rows l.toList := by
  induction ls with
  | nil => cases final <;> rfl
  | cons l ls ih =>
    rw [List.flatMap_cons, ← ih]
    by_cases hne : ls = []
    · subst hne
      rw [toList_block_singleton]
      cases final with
      | false =>
        show rows (l.toList ++ []) = rows l.toList ++ []
        rw [List.append_nil, List.append_nil]
      | true => exact rows_append_newline l.toList []
    · rw [toList_block_cons final l hne, rows_append_newline]

/-- **The rows of a block** are those that it was made of. -/
theorem rows_block {rs ls : List String} (h : Interspersed rs ls) (hrs : ∀ r ∈ rs, IsRow r.toList)
    (final : Bool) : rows (block final ls).toList = rs.map String.toList := by
  rw [rows_block_eq_flatMap]
  induction h with
  | nil => rfl
  | @row rs ls r h ih =>
    obtain ⟨hr, hrs⟩ := List.forall_mem_cons.1 hrs
    rw [List.flatMap_cons, hr.rows_eq, ih hrs, List.map_cons, List.singleton_append]
  | blank hl h ih => rw [List.flatMap_cons, hl.rows_eq_nil, ih hrs, List.nil_append]

end Text

end PlayTrace
