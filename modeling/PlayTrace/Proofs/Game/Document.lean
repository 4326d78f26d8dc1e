import PlayTrace.Game.Document
import PlayTrace.Proofs.Success
import PlayTrace.Proofs.Text.Lines

/-!
# The two spellings of a level

A game document gives its level as a list of rows or as a block of text. A block is read as the rows
that it was made of, if none of them is blank or holds a line break, and nothing else that is read
of a document depends on how its level is written. So a document with a block and the same document
with the list of its rows describe the same game, or both fail, for the same reason.

## Main results

* `Value.lookup?_setEntry_self`, `lookup?_setEntry_of_ne` — a mapping after a value was set
* `GameTables.readLevel_block` — a block is read as the rows that it was made of
* `GameTables.ofValue_congr` — what is read of a document depends on the values of its keys alone
* `Game.ofValue_block_eq_ofValue_rows` — a block and the list of its rows are read alike
-/

namespace PlayTrace

/-! ### Values of a mapping -/

namespace Value

variable {v : Value} {key other : String}

theorem sameKey_text (v : Value) (key : String) : v.sameKey (.text key) = v.isText key := by
  cases v <;> rfl

theorem lookup?_cons (e : Value × Value) (es : List (Value × Value)) (key : String) :
    lookup? (e :: es) key = if e.1.isText key then some e.2 else lookup? es key := by
  by_cases h : e.1.isText key = true <;> simp [lookup?, h]

theorem isText_eq_false (h : v.isText key = true) (hne : other ≠ key) : v.isText other = false := by
  cases v with
  | text s =>
    obtain rfl : s = key := eq_of_beq h
    exact beq_eq_false_iff_ne.2 hne.symm
  | _ => rfl

/-- A value that was set is what the mapping gives. -/
theorem lookup?_setEntry_self (key : String) (v : Value) (es : List (Value × Value)) :
    lookup? (setEntry (.text key) v es) key = some v := by
  induction es with
  | nil => simp [setEntry, lookup?_cons, isText]
  | cons e es ih =>
    rw [setEntry, sameKey_text]
    by_cases hkey : e.1.isText key = true
    · rw [if_pos hkey, lookup?_cons, if_pos hkey]
    · rw [if_neg hkey, lookup?_cons, if_neg hkey, ih]

/-- Setting a value leaves the others alone. -/
theorem lookup?_setEntry_of_ne (hne : other ≠ key) (v : Value) (es : List (Value × Value)) :
    lookup? (setEntry (.text key) v es) other = lookup? es other := by
  induction es with
  | nil => simp [setEntry, lookup?_cons, isText, hne.symm]
  | cons e es ih =>
    rw [setEntry, sameKey_text]
    by_cases hkey : e.1.isText key = true
    · rw [if_pos hkey, lookup?_cons, lookup?_cons, isText_eq_false hkey hne]
      rfl
    · rw [if_neg hkey, lookup?_cons, lookup?_cons, ih]

end Value

namespace GameTables

variable {rs ls : List String}

/-! ### Levels -/

/-- A list of rows is taken as it is. -/
theorem readLevel_rows (rs : List String) : readLevel (.list (rs.map .text)) = .ok rs := by
  have hplain : ∀ v ∈ rs.map Value.text, readText v = .ok v.plain := by
    intro v hv
    obtain ⟨r, -, rfl⟩ := List.mem_map.1 hv
    rfl
  rw [readLevel, mapM_eq_ok_map hplain, List.map_map]
  exact congrArg Except.ok (List.map_id rs)

/-- The level of a text is its rows. -/
theorem readLevel_text (s : String) :
    readLevel (.text s) = .ok ((Text.rows s.toList).map String.ofList) := by
  rw [readLevel, Text.lines, List.filter_map, Text.rows]
  simp [Function.comp_def, Text.isBlankText]

/-- A block is read as the rows that it was made of. -/
theorem readLevel_block (h : Text.Interspersed rs ls) (hrs : ∀ r ∈ rs, Text.IsRow r.toList)
    (final : Bool) : readLevel (.text (Text.block final ls)) = .ok rs := by
  rw [readLevel_text, Text.rows_block h hrs final, List.map_map]
  simp [Function.comp_def]

/-! ### Documents -/

/-- What is read of a document depends on the values of its keys alone, and on that of the level
only through what is read of it. -/
theorem ofValue_congr {d e : List (Value × Value)}
    (hlevel : readLevel ((Value.lookup? d "level").getD .null) =
      readLevel ((Value.lookup? e "level").getD .null))
    (hrest : ∀ key ≠ "level", Value.lookup? d key = Value.lookup? e key) :
    ofValue (.mapping d) = ofValue (.mapping e) := by
  simp only [ofValue]
  rw [hlevel, hrest "legend" (by decide), hrest "orientation" (by decide),
    hrest "resources" (by decide), hrest "solids" (by decide), hrest "goals" (by decide),
    hrest "avatar" (by decide), hrest "rotate_in_place" (by decide), hrest "max_steps" (by decide)]

theorem readLevel_of_ofValue {d : List (Value × Value)} {t : GameTables}
    (h : ofValue (.mapping d) = .ok t) :
    readLevel ((Value.lookup? d "level").getD .null) = .ok t.level := by
  simp only [ofValue, bind_eq_ok] at h
  obtain ⟨level, hlevel, _, -, _, -, _, -, _, -, _, -, _, -, _, -, h⟩ := h
  cases h
  exact hlevel

end GameTables

namespace Game

variable {rs ls : List String}

theorem toGameTables_of_ofTables {t : GameTables} {g : Game} (h : ofTables t = .ok g) :
    g.toGameTables = t := by
  unfold ofTables at h
  split at h
  · cases h
  · cases h
    rfl

/-- A document whose level is set to a given value. -/
def documentWith (level : Value) (document : List (Value × Value)) : Value :=
  .mapping (Value.setEntry (.text "level") level document)

/-- The level of a game is what its document says. -/
theorem level_of_documentWith {level : Value} {document : List (Value × Value)} {g : Game}
    (h : ofValue (documentWith level document) = .ok g) :
    GameTables.readLevel level = .ok g.level := by
  obtain ⟨t, ht, h⟩ := bind_eq_ok.1 h
  have hlevel := GameTables.readLevel_of_ofValue ht
  rw [Value.lookup?_setEntry_self, Option.getD_some] at hlevel
  rw [hlevel, toGameTables_of_ofTables h]

/-- Levels that are read alike make the same game, or the same fault. -/
theorem ofValue_documentWith_congr {level level' : Value}
    (h : GameTables.readLevel level = GameTables.readLevel level')
    (document : List (Value × Value)) :
    ofValue (documentWith level document) = ofValue (documentWith level' document) := by
  have htables : GameTables.ofValue (documentWith level document) =
      GameTables.ofValue (documentWith level' document) := by
    refine GameTables.ofValue_congr ?_ fun key hkey => ?_
    · rw [Value.lookup?_setEntry_self, Value.lookup?_setEntry_self]
      exact h
    · rw [Value.lookup?_setEntry_of_ne hkey, Value.lookup?_setEntry_of_ne hkey]
  rw [ofValue, ofValue, htables]

/-- **The two spellings of a level agree.** Rows that are not blank and hold no line breaks are
joined by line feeds, with any number of blank lines in between and with a line feed at the end or
without. A document with this block for its level and the same document with the list of the rows
describe the same game, whose level is the rows; or both fail, for the same reason. -/
theorem ofValue_block_eq_ofValue_rows (hrs : ∀ r ∈ rs, Text.IsRow r.toList)
    (h : Text.Interspersed rs ls) (final : Bool) (document : List (Value × Value)) :
    ofValue (documentWith (.text (Text.block final ls)) document) =
        ofValue (documentWith (.list (rs.map .text)) document) ∧
      ∀ g, ofValue (documentWith (.list (rs.map .text)) document) = .ok g → g.level = rs := by
  have hrows := GameTables.readLevel_rows rs
  refine ⟨ofValue_documentWith_congr ?_ document, fun g hg => ?_⟩
  · rw [GameTables.readLevel_block h hrs final, hrows]
  · exact Except.ok.inj ((level_of_documentWith hg).symm.trans hrows)

/-- Two rows, with blanks at their ends that belong to the level. -/
def gardenRows : List String := ["A g ", "  g "]

/-- The lines of a block with these rows. -/
def gardenLines : List String := ["", "A g ", " \t", "\r", "  g "]

/-- A document that says everything but the level. -/
def gardenDocument : List (Value × Value) :=
  [(.text "legend", .mapping [(.text "A", .list [.text "avatar"]), (.text "g", .text "gem"),
      (.text " ", .null)]),
    (.text "level", .null), (.text "resources", .list [.text "gem"])]

/-- Blank lines in front of the rows and between them, and a line feed at the end. -/
theorem ofValue_gardenRows :
    (∀ r ∈ gardenRows, Text.IsRow r.toList) ∧ Text.Interspersed gardenRows gardenLines ∧
      Text.block true gardenLines = "\nA g \n \t\n\r\n  g \n" ∧
      ∃ g, ofValue (documentWith (.text "\nA g \n \t\n\r\n  g \n") gardenDocument) = .ok g ∧
        g.level = gardenRows := by
  have hrs : ∀ r ∈ gardenRows, Text.IsRow r.toList := by decide
  have hlines : Text.Interspersed gardenRows gardenLines :=
    .blank (by decide) (.row _ (.blank (by decide) (.blank (by decide) (.row _ .nil))))
  have hblock : Text.block true gardenLines = "\nA g \n \t\n\r\n  g \n" := by decide
  have hok : (ofValue (documentWith (.list (gardenRows.map .text)) gardenDocument)).isOk = true :=
    by decide +kernel
  obtain ⟨hsame, hlevel⟩ := ofValue_block_eq_ofValue_rows hrs hlines true gardenDocument
  refine ⟨hrs, hlines, hblock, ?_⟩
  rw [← hblock, hsame]
  cases hg : ofValue (documentWith (.list (gardenRows.map .text)) gardenDocument) with
  | ok g => exact ⟨g, rfl, hlevel g hg⟩
  | error f =>
    rw [hg] at hok
    cases hok

end Game

end PlayTrace
