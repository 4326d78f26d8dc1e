import PlayTrace.Proofs.Lists
import PlayTrace.Proofs.Naming
import PlayTrace.Proofs.Success
import PlayTrace.Proofs.Text.Capital
import PlayTrace.Proofs.Text.Words
import PlayTrace.Template.Parser

/-!
# The words of a template

What a template is read from is cut at blanks, and names and literals with a parenthesis in them are
turned away. So the name of a template and its literals are words, and the objects that are named
after its placeholders have names that are words and no hyphens. A literal may be a hyphen: that is
the one thing in a template that a trace could mistake for something else.

## Main definitions

* `Template.Legible` — what a template contributes to a trace are words and names

## Main results

* `Template.parse_eq_ok_iff` — the steps in which a template is read
* `Template.isPlaceholder_of_parse`, `legible_of_parse` — what is known of a template that was read
  from a text
-/

namespace PlayTrace

namespace Text

theorem isName_of_mem {s : String} (hgap : ∀ c ∈ s.toList, isGap c = false)
    (h : ∃ c ∈ s.toList, c ≠ '-') : IsName s := by
  obtain ⟨c, hc, hne⟩ := h
  refine ⟨⟨?_, hgap⟩, ?_⟩
  · rintro rfl
    cases hc
  · rintro rfl
    exact hne (List.mem_singleton.1 hc)

end Text

open Text

namespace Template

/-! ### Reading step by step -/

/-- A placeholder holds a reserved character, its mark. -/
theorem any_isReserved_of_isPlaceholderChars {w : List Char} (h : isPlaceholderChars w = true) :
    w.any isReserved = true := by
  unfold isPlaceholderChars at h
  split at h
  · rename_i m c cs
    simp only [Bool.and_eq_true] at h
    simp [isReserved, h.1.1]
  · cases h

/-- A word is read as a placeholder or, when it holds no reserved character, as a literal. -/
theorem token?_eq_some_iff {w : List Char} {t : Token} :
    token? w = some t ↔ (isPlaceholderChars w = true ∧ t = .placeholder (String.ofList w)) ∨
      (w.any isReserved = false ∧ t = .literal (String.ofList w)) := by
  unfold token?
  by_cases hplaceholder : isPlaceholderChars w = true
  · have hreserved := any_isReserved_of_isPlaceholderChars hplaceholder
    simp [hplaceholder, hreserved, eq_comm]
  · by_cases hreserved : w.any isReserved = true
    · simp [hplaceholder, hreserved]
    · rw [if_neg hplaceholder, if_neg hreserved]
      simp [hplaceholder, hreserved, eq_comm]

/-- Arguments are read word by word. -/
theorem parseArguments_eq_ok_iff {source : String} {ws : List (List Char)} {ts : List Token} :
    parseArguments source ws = .ok ts ↔ List.Forall₂ (fun w t => token? w = some t) ws ts := by
  induction ws generalizing ts with
  | nil => simp [parseArguments, eq_comm]
  | cons w ws ih =>
    rw [parseArguments, List.forall₂_cons_left_iff]
    cases htoken : token? w with
    | none => simp
    | some t =>
      simp only [bind_eq_ok, ih, Option.some.injEq]
      constructor
      · rintro ⟨us, hus, h⟩
        cases h
        exact ⟨t, us, rfl, hus, rfl⟩
      · rintro ⟨-, us, rfl, hus, rfl⟩
        exact ⟨us, hus, rfl⟩

/-- What is read of a text: its first word in the parentheses, and the others token by token. -/
theorem parse_eq_ok_iff {source : String} {t : Template} :
    parse source = .ok t ↔ ∃ inside name args tokens,
      unwrap? (trimChars isBlank source.toList) = some inside ∧ splitWords inside = name :: args ∧
      name.any isReserved = false ∧ List.Forall₂ (fun w t => token? w = some t) args tokens ∧
      t = ⟨source, String.ofList name, tokens⟩ := by
  unfold parse
  constructor
  · intro h
    split at h
    · cases h
    · rename_i inside hinside
      split at h
      · cases h
      · rename_i name args hwords
        split at h
        · cases h
        · rename_i hname
          obtain ⟨tokens, htokens, h⟩ := bind_eq_ok.1 h
          cases h
          exact ⟨inside, name, args, tokens, hinside, hwords, Bool.not_eq_true _ ▸ hname,
            parseArguments_eq_ok_iff.1 htokens, rfl⟩
  · rintro ⟨inside, name, args, tokens, hinside, hwords, hname, htokens, rfl⟩
    simp [hinside, hwords, hname, parseArguments_eq_ok_iff.2 htokens]

/-! ### Names and literals -/

/-- A word of a template without parentheses is a word. -/
theorem isWord_ofList {cs w : List Char} (h : w ∈ splitWords cs) (hw : w.any isReserved = false) :
    IsWord (String.ofList w) := by
  obtain ⟨hne, hblank⟩ := mem_splitWords h
  constructor
  · intro hempty
    apply hne
    rw [← String.toList_ofList (l := w), hempty]
    rfl
  · intro c hc
    rw [String.toList_ofList] at hc
    have hreserved := List.any_eq_false.1 hw c hc
    simp only [isReserved, Bool.or_eq_true, not_or, Bool.not_eq_true] at hreserved
    simp [isGap, hblank c hc, hreserved]

/-! ### Objects -/

theorem toNat_lt_of_isNameCharacter {c : Char} (h : isNameCharacter c = true) : c.toNat < 128 := by
  simp only [isNameCharacter, isAsciiLetter, Bool.or_eq_true, Bool.and_eq_true, decide_eq_true_eq,
    beq_iff_eq, Char.le_def, UInt32.le_iff_toNat_le] at h
  rcases h with ((⟨-, h⟩ | ⟨-, h⟩) | ⟨-, h⟩) | rfl
  · exact lt_of_le_of_lt h (by decide)
  · exact lt_of_le_of_lt h (by decide)
  · exact lt_of_le_of_lt h (by decide)
  · decide

theorem isMark_ofNat_of_isNameCharacter : ∀ n < 128, isNameCharacter (Char.ofNat n) = true →
    isMark (Char.ofNat n) = false ∧ Char.ofNat n ≠ variableMark := by
  decide +kernel

/-- The characters of a placeholder behind its mark hold no trace together. -/
theorem isMark_of_isNameCharacter {c : Char} (h : isNameCharacter c = true) :
    isMark c = false ∧ c ≠ variableMark :=
  forall_ascii (p := fun c => isNameCharacter c = true → isMark c = false ∧ c ≠ variableMark)
    isMark_ofNat_of_isNameCharacter (toNat_lt_of_isNameCharacter h) h

/-- A placeholder is a mark with a name behind it. -/
theorem exists_stripMark_eq {v : String} (h : isPlaceholder v = true) :
    ∃ c cs, v.toList = variableMark :: c :: cs ∧ (stripMark v).toList = c :: cs ∧
      ∀ d ∈ c :: cs, isNameCharacter d = true := by
  unfold isPlaceholder isPlaceholderChars at h
  split at h
  · rename_i m c cs hv
    simp only [Bool.and_eq_true, beq_iff_eq] at h
    obtain ⟨⟨rfl, hc⟩, hcs⟩ := h
    have hname : ∀ d ∈ c :: cs, isNameCharacter d = true :=
      List.forall_mem_cons.2 ⟨by simp [isNameCharacter, hc], List.all_eq_true.1 hcs⟩
    refine ⟨c, cs, hv, ?_, hname⟩
    have hkept : (c :: cs).filter (· ≠ variableMark) = c :: cs :=
      List.filter_eq_self.2 fun d hd =>
        decide_eq_true (isMark_of_isNameCharacter (hname d hd)).2
    rw [stripMark, hv, String.toList_ofList, List.filter_cons_of_neg (by simp), hkept]
  · cases h

/-- **The objects named after a placeholder**, alone or at a cell, have names that are no hyphens. -/
theorem isName_of_isPlaceholder {v : String} (h : isPlaceholder v = true) (type : String)
    (x y : Int) : IsName (Object.singleton v type).name ∧ IsName (Object.atCell v type x y).name := by
  obtain ⟨c, cs, -, hname, hchars⟩ := exists_stripMark_eq h
  have hmarks : ∀ d ∈ c :: cs, isMark d = false := fun d hd =>
    (isMark_of_isNameCharacter (hchars d hd)).1
  have hgap : ∀ d ∈ (stripMark v).toList, isGap d = false := fun d hd =>
    (Bool.or_eq_false_iff.1 (hmarks d (hname ▸ hd))).1
  have hmem : c ∈ (stripMark v).toList := hname ▸ List.mem_cons_self
  have hne : c ≠ '-' := by
    rintro rfl
    exact absurd (hmarks '-' List.mem_cons_self) (by decide)
  refine ⟨isName_of_mem hgap ⟨c, hmem, hne⟩, isName_of_mem ?_ ⟨c, ?_, hne⟩⟩
  · rw [Object.toList_name_atCell]
    refine List.forall_mem_append.2 ⟨hgap, List.forall_mem_cons.2 ⟨rfl, ?_⟩⟩
    exact List.forall_mem_append.2
      ⟨(isWord_toString x).no_gap, List.forall_mem_cons.2 ⟨rfl, (isWord_toString y).no_gap⟩⟩
  · rw [Object.toList_name_atCell]
    exact List.mem_append_left _ hmem

/-! ### Templates -/

/-- What a template contributes to a trace are words and, where an object is named after a
placeholder, names. -/
structure Legible (t : Template) : Prop where
  name : IsWord t.name
  literal : ∀ s, Token.literal s ∈ t.tokens → IsWord s
  placeholder : ∀ v, Token.placeholder v ∈ t.tokens → ∀ (type : String) (x y : Int),
    IsName (Object.singleton v type).name ∧ IsName (Object.atCell v type x y).name

/-- The placeholders of a template that was read from a text are written as such. -/
theorem isPlaceholder_of_parse {source : String} {t : Template} (h : parse source = .ok t)
    {v : String} (hv : .placeholder v ∈ t.tokens) : isPlaceholder v = true := by
  obtain ⟨inside, name, args, tokens, -, -, -, htokens, rfl⟩ := parse_eq_ok_iff.1 h
  obtain ⟨w, -, htoken⟩ := exists_of_forall₂_right htokens hv
  rcases token?_eq_some_iff.1 htoken with ⟨hplaceholder, heq⟩ | ⟨-, heq⟩
  · cases heq
    rwa [isPlaceholder, String.toList_ofList]
  · cases heq

/-- **A template that was read from a text is legible.** -/
theorem legible_of_parse {source : String} {t : Template} (h : parse source = .ok t) :
    t.Legible := by
  obtain ⟨inside, name, args, tokens, -, hwords, hname, htokens, rfl⟩ := parse_eq_ok_iff.1 h
  have hmem : ∀ w ∈ name :: args, w ∈ splitWords inside := fun w hw => hwords ▸ hw
  refine ⟨isWord_ofList (hmem name List.mem_cons_self) hname, ?_, ?_⟩
  · intro s hs
    obtain ⟨w, hw, htoken⟩ := exists_of_forall₂_right htokens hs
    rcases token?_eq_some_iff.1 htoken with ⟨-, heq⟩ | ⟨hreserved, heq⟩
    · cases heq
    · cases heq
      exact isWord_ofList (hmem w (List.mem_cons_of_mem name hw)) hreserved
  · exact fun v hv type x y => isName_of_isPlaceholder (isPlaceholder_of_parse h hv) type x y

end Template

end PlayTrace
