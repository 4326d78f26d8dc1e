import PlayTrace.Proofs.Template.Words
import PlayTrace.Proofs.Text.Unambiguous

/-!
# The grammar of templates

A template is written as its name and its arguments in parentheses. Blanks may stand around the
parentheses, behind the opening one and before the closing one, and they must stand in front of
every argument. `Template.Spells` says which texts are written in this way, without saying how they
are read: `Template.parse` reads exactly these texts, and every other text is turned away.

So it is seen from a text what it spells, and a template that is written with single spaces is read
as the same template.

## Main definitions

* `Template.IsPlain`, `Template.IsVariable`, `Token.IsLegal` — what names and arguments are made of
* `Template.Spells` — a text that is a name and arguments in parentheses

## Main results

* `Template.parse_eq_ok_iff_spells` — the texts that are read, and what is read of them
* `Template.spells_render` — the text with single spaces
* `Template.parse_exact` — the texts of the grammar are read, and no others
-/

namespace PlayTrace

open Text

namespace Template

/-- A word without question marks and parentheses. -/
structure IsPlain (s : String) : Prop where
  stretch : IsStretch s.toList
  no_mark : '?' ∉ s.toList
  no_open : '(' ∉ s.toList
  no_close : ')' ∉ s.toList

/-- A question mark and a letter, followed by letters, digits and underscores. -/
def IsVariable (s : String) : Prop :=
  ∃ c cs, s.toList = '?' :: c :: cs ∧ isAsciiLetter c = true ∧ ∀ d ∈ cs, isNameCharacter d = true

end Template

/-- A token that can be written: a placeholder is a variable, and a literal is plain. -/
def Token.IsLegal : Token → Prop
  | .placeholder v => Template.IsVariable v
  | .literal s => Template.IsPlain s

namespace Template

/-- A text spells a name and arguments: there is nothing in it but these, in parentheses, and
blanks. -/
structure Spells (s : String) (name : String) (tokens : List Token) : Prop where
  name_plain : IsPlain name
  tokens_legal : ∀ t ∈ tokens, t.IsLegal
  layout : ∃ lead gap row gap' trail, IsBlanks lead ∧ IsBlanks gap ∧
    Spaced (tokens.map fun t => t.text.toList) row ∧ IsBlanks gap' ∧ IsBlanks trail ∧
    s.toList = lead ++ '(' :: (gap ++ name.toList ++ row ++ gap' ++ ')' :: trail)

/-! ### Names and arguments -/

theorem isPlain_iff {s : String} :
    IsPlain s ↔ IsStretch s.toList ∧ s.toList.any isReserved = false := by
  have hreserved : s.toList.any isReserved = false ↔
      '?' ∉ s.toList ∧ '(' ∉ s.toList ∧ ')' ∉ s.toList := by
    simp only [List.any_eq_false, isReserved, variableMark, Bool.or_eq_true, beq_iff_eq, not_or]
    constructor
    · intro h
      exact ⟨fun hc => (h _ hc).1.1 rfl, fun hc => (h _ hc).1.2 rfl, fun hc => (h _ hc).2 rfl⟩
    · rintro ⟨hmark, hopen, hclose⟩ c hc
      refine ⟨⟨?_, ?_⟩, ?_⟩
      · exact fun h => hmark (h ▸ hc)
      · exact fun h => hopen (h ▸ hc)
      · exact fun h => hclose (h ▸ hc)
  constructor
  · exact fun h => ⟨h.stretch, hreserved.2 ⟨h.no_mark, h.no_open, h.no_close⟩⟩
  · rintro ⟨hstretch, h⟩
    obtain ⟨hmark, hopen, hclose⟩ := hreserved.1 h
    exact ⟨hstretch, hmark, hopen, hclose⟩

theorem isVariable_iff {s : String} : IsVariable s ↔ isPlaceholderChars s.toList = true := by
  constructor
  · rintro ⟨c, cs, hs, hc, hcs⟩
    rw [hs]
    simpa [isPlaceholderChars, variableMark, hc] using hcs
  · intro h
    unfold isPlaceholderChars at h
    split at h
    · rename_i m c cs hs
      simp only [Bool.and_eq_true, beq_iff_eq, List.all_eq_true] at h
      obtain ⟨⟨rfl, hc⟩, hcs⟩ := h
      exact ⟨c, cs, hs, hc, hcs⟩
    · cases h

theorem isBlank_of_isNameCharacter {c : Char} (h : isNameCharacter c = true) :
    isBlank c = false := by
  have hmark := (isMark_of_isNameCharacter h).1
  simp only [isMark, isGap, Bool.or_eq_false_iff] at hmark
  exact hmark.1.1.1

theorem IsVariable.stretch {s : String} (h : IsVariable s) : IsStretch s.toList := by
  obtain ⟨c, cs, hs, hc, hcs⟩ := h
  have hname : isNameCharacter c = true := by simp [isNameCharacter, hc]
  rw [hs]
  refine ⟨List.cons_ne_nil _ _, List.forall_mem_cons.2 ⟨by decide, List.forall_mem_cons.2 ⟨?_, ?_⟩⟩⟩
  · exact isBlank_of_isNameCharacter hname
  · exact fun d hd => isBlank_of_isNameCharacter (hcs d hd)

end Template

theorem Token.IsLegal.stretch {t : Token} (h : t.IsLegal) : IsStretch t.text.toList := by
  cases t with
  | placeholder v => exact Template.IsVariable.stretch h
  | literal s => exact Template.IsPlain.stretch h

namespace Template

/-- **What is read of a word** is the legal token that is written like this. -/
theorem token?_eq_some_iff_isLegal {w : List Char} (hw : IsStretch w) {t : Token} :
    token? w = some t ↔ t.IsLegal ∧ t.text.toList = w := by
  rw [token?_eq_some_iff]
  cases t with
  | placeholder v =>
    simp only [Token.placeholder.injEq, reduceCtorEq, and_false, or_false, Token.IsLegal,
      Token.text, isVariable_iff]
    constructor
    · rintro ⟨h, rfl⟩
      simpa using h
    · rintro ⟨h, rfl⟩
      simpa using h
  | literal s =>
    simp only [Token.literal.injEq, reduceCtorEq, and_false, false_or, Token.IsLegal, Token.text,
      isPlain_iff]
    constructor
    · rintro ⟨h, rfl⟩
      rw [String.toList_ofList]
      exact ⟨⟨hw, h⟩, rfl⟩
    · rintro ⟨⟨-, h⟩, rfl⟩
      simpa using h

/-- The same of a list of words. -/
theorem forall₂_token?_iff {ws : List (List Char)} (hws : ∀ w ∈ ws, IsStretch w)
    {ts : List Token} :
    List.Forall₂ (fun w t => token? w = some t) ws ts ↔
      (∀ t ∈ ts, t.IsLegal) ∧ (ts.map fun t => t.text.toList) = ws := by
  induction ws generalizing ts with
  | nil =>
    rw [List.forall₂_nil_left_iff, List.map_eq_nil_iff]
    constructor
    · rintro rfl
      exact ⟨fun t ht => absurd ht List.not_mem_nil, rfl⟩
    · exact And.right
  | cons w ws ih =>
    obtain ⟨hw, hws⟩ := List.forall_mem_cons.1 hws
    rw [List.forall₂_cons_left_iff]
    constructor
    · rintro ⟨t, us, htoken, hus, rfl⟩
      obtain ⟨ht, htext⟩ := (token?_eq_some_iff_isLegal hw).1 htoken
      obtain ⟨hlegal, htexts⟩ := (ih hws).1 hus
      exact ⟨List.forall_mem_cons.2 ⟨ht, hlegal⟩, by rw [List.map_cons, htext, htexts]⟩
    · rintro ⟨hlegal, htexts⟩
      obtain ⟨t, us, rfl, htext, hus⟩ := List.map_eq_cons_iff.1 htexts
      obtain ⟨ht, hlegal⟩ := List.forall_mem_cons.1 hlegal
      exact ⟨t, us, (token?_eq_some_iff_isLegal hw).2 ⟨ht, htext⟩, (ih hws).2 ⟨hlegal, hus⟩, rfl⟩

/-! ### Parentheses -/

theorem unwrap?_eq_some_iff {cs inside : List Char} :
    unwrap? cs = some inside ↔ cs = '(' :: inside ++ [')'] := by
  unfold unwrap?
  constructor
  · intro h
    split at h
    · rename_i hends
      simp only [Bool.and_eq_true, decide_eq_true_eq] at hends
      obtain ⟨hfirst, hlast⟩ := hends
      cases h
      obtain ⟨front, rfl⟩ := List.getLast?_eq_some_iff.1 hlast
      cases front with
      | nil => exact absurd hfirst (by decide)
      | cons c front =>
        obtain rfl : c = '(' := Option.some.inj hfirst
        simp
    · cases h
  · rintro rfl
    rw [List.getLast?_concat]
    simp

/-- A text in parentheses is what is left of it when the blanks at its ends are taken away. -/
theorem trimChars_eq_wrapped_iff {cs inside : List Char} :
    trimChars isBlank cs = '(' :: inside ++ [')'] ↔ ∃ lead trail, IsBlanks lead ∧
      IsBlanks trail ∧ cs = lead ++ '(' :: (inside ++ ')' :: trail) := by
  constructor
  · intro h
    obtain ⟨lead, trail, hlead, htrail, heq⟩ := exists_trimChars isBlank cs
    refine ⟨lead, trail, hlead, htrail, ?_⟩
    rw [heq, h]
    simp
  · rintro ⟨lead, trail, hlead, htrail, rfl⟩
    have hfirst : ∀ c ∈ ('(' :: inside ++ [')']).head?, isBlank c = false := by
      rintro c ⟨⟩
      decide
    have hlast : ∀ c ∈ ('(' :: inside ++ [')']).getLast?, isBlank c = false := by
      rw [List.getLast?_concat]
      rintro c ⟨⟩
      decide
    simpa using trimChars_append hlead htrail hfirst hlast (List.cons_ne_nil _ _)

/-! ### Reading -/

/-- **The texts that are read** are those that spell a name and arguments, and these are what is
read of them. -/
theorem parse_eq_ok_iff_spells {s : String} {t : Template} :
    parse s = .ok t ↔ t.source = s ∧ Spells s t.name t.tokens := by
  rw [parse_eq_ok_iff]
  constructor
  · rintro ⟨inside, name, args, tokens, hinside, hwords, hname, htokens, rfl⟩
    obtain ⟨lead, trail, hlead, htrail, hs⟩ :=
      trimChars_eq_wrapped_iff.1 (unwrap?_eq_some_iff.1 hinside)
    obtain ⟨hall, gap, row, gap', hgap, hrow, hgap', rfl⟩ := splitWords_eq_cons_iff.1 hwords
    obtain ⟨hstretch, hargs⟩ := List.forall_mem_cons.1 hall
    obtain ⟨hlegal, rfl⟩ := (forall₂_token?_iff hargs).1 htokens
    refine ⟨rfl, isPlain_iff.2 ?_, hlegal, lead, gap, row, gap', trail, hlead, hgap, hrow, hgap',
      htrail, ?_⟩
    · rw [String.toList_ofList]
      exact ⟨hstretch, hname⟩
    · simpa using hs
  · rintro ⟨rfl, hname, hlegal, lead, gap, row, gap', trail, hlead, hgap, hrow, hgap', htrail, hs⟩
    obtain ⟨hstretch, hreserved⟩ := isPlain_iff.1 hname
    have hargs : ∀ w ∈ t.tokens.map fun t => t.text.toList, IsStretch w :=
      List.forall_mem_map.2 fun k hk => (hlegal k hk).stretch
    refine ⟨gap ++ t.name.toList ++ row ++ gap', t.name.toList, _, t.tokens, ?_, ?_, hreserved,
      (forall₂_token?_iff hargs).2 ⟨hlegal, rfl⟩, ?_⟩
    · exact unwrap?_eq_some_iff.2 (trimChars_eq_wrapped_iff.2 ⟨lead, trail, hlead, htrail, hs⟩)
    · exact splitWords_eq_cons_iff.2 ⟨List.forall_mem_cons.2 ⟨hstretch, hargs⟩, gap, row, gap',
        hgap, hrow, hgap', rfl⟩
    · rw [String.ofList_toList]

/-! ### Single spaces -/

/-- A space in front of every word makes a row of words. -/
theorem spaced_flatMap_space (ws : List (List Char)) :
    Spaced ws (ws.flatMap fun w => ' ' :: w) := by
  induction ws with
  | nil => exact .nil
  | cons w ws ih =>
    have hspace : IsBlanks [' '] := List.forall_mem_singleton.2 (by decide)
    rw [List.flatMap_cons]
    exact .cons hspace (List.cons_ne_nil _ _) ih

/-- **A template that is written with single spaces** spells its name and its arguments, if these
can be written at all. -/
theorem spells_render {t : Template} (hname : IsPlain t.name) (hlegal : ∀ k ∈ t.tokens, k.IsLegal) :
    Spells t.render t.name t.tokens := by
  refine ⟨hname, hlegal, [], [], _, [], [], isBlanks_nil, isBlanks_nil, spaced_flatMap_space _,
    isBlanks_nil, isBlanks_nil, ?_⟩
  rw [render, String.toList_append, String.toList_append, toList_intercalate_cons, List.flatMap_map,
    List.flatMap_map]
  simp

/-! ### The grammar -/

/-- A text is turned away exactly if it spells nothing. -/
theorem exists_error_iff_not_spells {s : String} :
    (∃ f, parse s = .error f) ↔ ¬∃ name tokens, Spells s name tokens := by
  cases hread : parse s with
  | ok t =>
    have hspells := (parse_eq_ok_iff_spells.1 hread).2
    constructor
    · rintro ⟨f, hf⟩
      cases hf
    · exact fun hnone => absurd ⟨_, _, hspells⟩ hnone
  | error f =>
    refine ⟨fun _ => ?_, fun _ => ⟨f, rfl⟩⟩
    rintro ⟨name, tokens, hspells⟩
    have hok : parse s = .ok ⟨s, name, tokens⟩ := parse_eq_ok_iff_spells.2 ⟨rfl, hspells⟩
    rw [hok] at hread
    cases hread

/-- **Exactly the texts of the grammar are read.** A text is read as a name and arguments if and
only if it spells them, so a name and arguments that can be written are read back from what is
written, whatever the blanks. A text that spells nothing is turned away, and no text spells two
things. A template that is written with single spaces and read again is the same but for the text it
was read from. -/
theorem parse_exact :
    (∀ s t, parse s = .ok t ↔ t.source = s ∧ Spells s t.name t.tokens) ∧
    (∀ s, (∃ f, parse s = .error f) ↔ ¬∃ name tokens, Spells s name tokens) ∧
    (∀ s name name' tokens tokens', Spells s name tokens → Spells s name' tokens' →
      name = name' ∧ tokens = tokens') ∧
    ∀ s t, parse s = .ok t → parse t.render = .ok { t with source := t.render } := by
  refine ⟨fun s t => parse_eq_ok_iff_spells, fun s => exists_error_iff_not_spells, ?_, ?_⟩
  · intro s name name' tokens tokens' h h'
    have hread : parse s = .ok ⟨s, name, tokens⟩ := parse_eq_ok_iff_spells.2 ⟨rfl, h⟩
    have hread' : parse s = .ok ⟨s, name', tokens'⟩ := parse_eq_ok_iff_spells.2 ⟨rfl, h'⟩
    rw [hread] at hread'
    cases hread'
    exact ⟨rfl, rfl⟩
  · intro s t h
    obtain ⟨hname, hlegal, -⟩ := (parse_eq_ok_iff_spells.1 h).2
    exact parse_eq_ok_iff_spells.2 ⟨rfl, spells_render hname hlegal⟩

/-- A template with a tab, an em space and a line break around its words, and a text with a
parenthesis too many. -/
theorem parse_exact_tabbed :
    Spells "\t( at\u2003?a one )\n" "at" [.placeholder "?a", .literal "one"] ∧
      parse "(at ?a one)" = .ok ⟨"(at ?a one)", "at", [.placeholder "?a", .literal "one"]⟩ ∧
      ¬∃ name tokens, Spells "(at ?a one))" name tokens := by
  have hread : parse "\t( at\u2003?a one )\n" =
      .ok ⟨"\t( at\u2003?a one )\n", "at", [.placeholder "?a", .literal "one"]⟩ := by
    decide +kernel
  have hrefused : parse "(at ?a one))" = .error (.badArgument "one)" "(at ?a one))") := by
    decide +kernel
  exact ⟨((parse_exact.1 _ _).1 hread).2, parse_exact.2.2.2 _ _ hread,
    (parse_exact.2.1 _).1 ⟨_, hrefused⟩⟩

end Template

end PlayTrace
