import PlayTrace.Proofs.Lists
import PlayTrace.Proofs.Template.Words
import PlayTrace.Proofs.Text.Unambiguous
import PlayTrace.Trace.Report

/-!
# What a report says

A report is text, and much is lost on the way to it: capitals, and the turns. Nothing else is. Two
traces whose names are words have the same report only if they read alike, action by action, state by
state, fact by fact and argument by argument.

The text is taken apart from the outside in, one layer at a time, and of every layer it is enough to
know that it is unambiguous. The layers meet in three places where one could be taken for another. An
object is three words, the second of which is a hyphen, and constants are one word each, so no name
and no constant may be a hyphen. A fluent begins as an atom with the name `=` would, but then comes a
parenthesis, which no argument begins with. And the states are told from the actions by an empty line.

## Main definitions

* `Trace.Legible` — the names in a trace are words, and no hyphens where that matters
* `Trace.SameText` — two traces are the same but for capitals and turns
* `Atom.capitals` — the words of an atom as they are written

## Main results

* `Atom.unambiguous`, `Fact.unambiguous`, `unambiguous_renderState` — the layers of a report
* `Trace.report_unambiguous` — traces with the same report read alike
-/

namespace PlayTrace

open Text

/-! ### Legible traces -/

/-- An argument made of words. Where a hyphen could be mistaken for the one between an object and
its type there is none. -/
def Argument.Legible : Argument → Prop
  | .object o => IsName o.name ∧ IsWord o.type
  | .constant t => IsName t

/-- An atom made of words. -/
structure Atom.Legible (a : Atom) : Prop where
  name : IsWord a.name
  args : ∀ arg ∈ a.args, arg.Legible

/-- A trace made of words. -/
structure Trace.Legible (t : Trace) : Prop where
  states : ∀ e ∈ t.states, ∀ f ∈ e.2, f.atom.Legible
  actions : ∀ e ∈ t.actions, e.2.Legible

instance : (arg : Argument) → Decidable arg.Legible
  | .object o => inferInstanceAs (Decidable (IsName o.name ∧ IsWord o.type))
  | .constant t => inferInstanceAs (Decidable (IsName t))

instance (a : Atom) : Decidable a.Legible :=
  decidable_of_iff (IsWord a.name ∧ ∀ arg ∈ a.args, arg.Legible)
    ⟨fun h => ⟨h.1, h.2⟩, fun h => ⟨h.name, h.args⟩⟩

instance (t : Trace) : Decidable t.Legible :=
  decidable_of_iff ((∀ e ∈ t.states, ∀ f ∈ e.2, f.atom.Legible) ∧ ∀ e ∈ t.actions, e.2.Legible)
    ⟨fun h => ⟨h.1, h.2⟩, fun h => ⟨h.states, h.actions⟩⟩

/-! ### Traces that read alike -/

/-- Two objects or two constants that are the same in capitals. -/
inductive Argument.SameText : Argument → Argument → Prop
  | object {o p : Object} (name : upper o.name = upper p.name) (type : upper o.type = upper p.type) :
    SameText (.object o) (.object p)
  | constant {s t : String} (text : upper s = upper t) : SameText (.constant s) (.constant t)

/-- Two atoms that are the same in capitals. -/
structure Atom.SameText (a b : Atom) : Prop where
  name : upper a.name = upper b.name
  args : List.Forall₂ Argument.SameText a.args b.args

/-- Two plain facts, or two fluents of the same value, that are the same in capitals. -/
inductive Fact.SameText : Fact → Fact → Prop
  | plain {a b : Atom} (atom : a.SameText b) : SameText (.plain a) (.plain b)
  | fluent {a b : Atom} (atom : a.SameText b) (value : Int) :
    SameText (.fluent a value) (.fluent b value)

/-- Two traces that are the same but for capitals and turns. -/
structure Trace.SameText (s t : Trace) : Prop where
  actions : List.Forall₂ (fun e f => e.2.SameText f.2) s.actions t.actions
  states : List.Forall₂ (fun e f => List.Forall₂ Fact.SameText e.2 f.2) s.states t.states

/-! ### Arguments -/

namespace Argument

/-- The words of an argument. -/
def words : Argument → List String
  | object o => [o.name, "-", o.type]
  | constant t => [t]

theorem Legible.isWord_of_mem {arg : Argument} (h : arg.Legible) {w : String} (hw : w ∈ arg.words) :
    IsWord w := by
  cases arg with
  | object o =>
    have hhyphen : IsWord "-" := by decide +kernel
    exact List.forall_mem_cons.2
      ⟨h.1.toIsWord, List.forall_mem_cons.2 ⟨hhyphen, List.forall_mem_singleton.2 h.2⟩⟩ w hw
  | constant t => exact List.mem_singleton.1 hw ▸ h.toIsWord

/-- An argument with a space in front, in capitals. -/
theorem flatMap_capital_render (arg : Argument) :
    (" ".toList ++ arg.render.toList).flatMap capital =
      arg.words.flatMap fun w => ' ' :: (upper w).toList := by
  have hspace : capital ' ' = [' '] := rfl
  cases arg with
  | object o =>
    have hrender : (object o).render = o.name ++ " - " ++ o.type := rfl
    have hhyphen : capital '-' = ['-'] := rfl
    simp [hrender, words, hspace, hhyphen]
  | constant t => simp [render, words, hspace]

theorem SameText.words_eq {arg arg' : Argument} (h : arg.SameText arg') :
    arg.words.map upper = arg'.words.map upper := by
  cases h with
  | object name type => simp [words, name, type]
  | constant text => simp [words, text]

/-- No argument begins with a hyphen. -/
theorem upper_ne_hyphen_of_words {args : List Argument} (h : ∀ arg ∈ args, arg.Legible) {w : String}
    {ws : List String} (hw : args.flatMap words = w :: ws) : upper w ≠ "-" := by
  cases args with
  | nil => cases hw
  | cons arg args =>
    have hlegible := h arg List.mem_cons_self
    cases arg with
    | object o =>
      obtain ⟨rfl, -⟩ := List.cons.inj hw
      exact hlegible.1.upper_ne_hyphen hlegible.1.ne_hyphen
    | constant t =>
      obtain ⟨rfl, -⟩ := List.cons.inj hw
      exact hlegible.upper_ne_hyphen hlegible.ne_hyphen

/-- **Arguments can be told by their words**: an object is a word with a hyphen behind it. -/
theorem forall₂_sameText_of_words {args args' : List Argument} (h : ∀ arg ∈ args, arg.Legible)
    (h' : ∀ arg ∈ args', arg.Legible)
    (heq : (args.flatMap words).map upper = (args'.flatMap words).map upper) :
    List.Forall₂ SameText args args' := by
  -- A constant is no object, or what follows it would begin with a hyphen.
  have hconstant : ∀ {args : List Argument}, (∀ arg ∈ args, arg.Legible) → ∀ ws : List String,
      (args.flatMap words).map upper ≠ upper "-" :: ws := by
    intro args h ws heq
    obtain ⟨w, vs, hw, hupper, -⟩ := List.map_eq_cons_iff.1 heq
    exact upper_ne_hyphen_of_words h hw hupper
  induction args generalizing args' with
  | nil =>
    cases args' with
    | nil => exact .nil
    | cons arg' args' => cases arg' <;> cases heq
  | cons arg args ih =>
    cases args' with
    | nil => cases arg <;> cases heq
    | cons arg' args' =>
      have hrest := List.forall_mem_of_forall_mem_cons h
      have hrest' := List.forall_mem_of_forall_mem_cons h'
      cases arg with
      | object o =>
        cases arg' with
        | object p =>
          simp only [List.flatMap_cons, words, List.cons_append, List.nil_append, List.map_cons,
            List.cons.injEq, true_and] at heq
          exact .cons (.object heq.1 heq.2.1) (ih hrest hrest' heq.2.2)
        | constant t => exact absurd (List.cons.inj heq).2.symm (hconstant hrest' _)
      | constant s =>
        cases arg' with
        | object p => exact absurd (List.cons.inj heq).2 (hconstant hrest _)
        | constant t =>
          obtain ⟨htext, heq⟩ := List.cons.inj heq
          exact .cons (.constant htext) (ih hrest hrest' heq)

end Argument

/-! ### Atoms -/

namespace Atom

/-- The words of an atom as they are written. -/
def capitals (a : Atom) : List String := (a.name :: a.args.flatMap Argument.words).map upper

/-- **An atom is written as its words in capitals**, in parentheses. -/
theorem toList_render (a : Atom) :
    a.render.toList = '(' :: joined String.toList a.capitals ++ [')'] := by
  have hargs :
      ((a.args.map Argument.render).flatMap fun t => " ".toList ++ t.toList).flatMap capital =
        ((a.args.flatMap Argument.words).map upper).flatMap fun w => ' ' :: w.toList := by
    rw [List.flatMap_map, List.flatMap_assoc, List.flatMap_map, List.flatMap_assoc]
    exact congrArg (a.args.flatMap ·) (funext Argument.flatMap_capital_render)
  rw [render, toList_upper, String.toList_append, String.toList_append, toList_intercalate_cons,
    List.flatMap_append, List.flatMap_append, List.flatMap_append, hargs, capitals, List.map_cons,
    joined, toList_upper]
  rfl

theorem Legible.isWord_of_mem_capitals {a : Atom} (h : a.Legible) : ∀ w ∈ a.capitals, IsWord w := by
  intro w hw
  obtain ⟨v, hv, rfl⟩ := List.mem_map.1 hw
  apply IsWord.upper
  rcases List.mem_cons.1 hv with rfl | hv
  · exact h.name
  · obtain ⟨arg, harg, hv⟩ := List.mem_flatMap.1 hv
    exact (h.args arg harg).isWord_of_mem hv

theorem SameText.capitals_eq {a b : Atom} (h : a.SameText b) : a.capitals = b.capitals := by
  have hargs : (a.args.flatMap Argument.words).map upper =
      (b.args.flatMap Argument.words).map upper := by
    rw [List.map_flatMap, List.map_flatMap, List.flatMap_def, List.flatMap_def,
      map_eq_map_iff_forall₂.2 (h.args.imp fun _ _ => Argument.SameText.words_eq)]
  rw [capitals, capitals, List.map_cons, List.map_cons, h.name, hargs]

theorem sameText_of_capitals {a b : Atom} (ha : a.Legible) (hb : b.Legible)
    (h : a.capitals = b.capitals) : a.SameText b := by
  obtain ⟨hname, hargs⟩ := List.cons.inj h
  exact ⟨hname, Argument.forall₂_sameText_of_words ha.args hb.args hargs⟩

theorem SameText.render_eq {a b : Atom} (h : a.SameText b) : a.render = b.render := by
  rw [← String.toList_inj, toList_render, toList_render, h.capitals_eq]

/-- **An atom is unambiguous**: it ends with the parenthesis that closes it. -/
theorem unambiguous : Unambiguous Legible (fun _ => True) SameText fun a => a.render.toList := by
  have hwords := unambiguous_word.closed gapNext_space gapNext_close fun w hw =>
    hw.append_ne_cons (by decide)
  intro a b ha hb x y hx hy heq
  simp only [toList_render] at heq
  obtain ⟨hcapitals, hxy⟩ :=
    hwords ha.isWord_of_mem_capitals hb.isWord_of_mem_capitals hx hy heq
  rw [List.forall₂_eq_eq_eq] at hcapitals
  exact ⟨sameText_of_capitals ha hb hcapitals, hxy⟩

/-- No atom begins as a fluent does: behind the name `=` there is no parenthesis. -/
theorem Legible.append_ne_fluent {a : Atom} (ha : a.Legible) (b : Atom) (x y : List Char) :
    a.render.toList ++ x ≠ '(' :: '=' :: ' ' :: (b.render.toList ++ y) := by
  intro heq
  have hwords := ha.isWord_of_mem_capitals
  have hequals : IsWord "=" := by decide +kernel
  rw [toList_render, capitals, List.map_cons] at heq
  simp only [joined, List.cons_append, List.append_assoc, List.nil_append, List.cons.injEq,
    true_and] at heq
  obtain ⟨-, hrest⟩ := unambiguous_word (hwords _ List.mem_cons_self) hequals
    (next_rest gapNext_space gapNext_close _ _ _) (gapNext_space _) heq
  cases hargs : (a.args.flatMap Argument.words).map upper with
  | nil =>
    rw [hargs] at hrest
    exact absurd (List.cons.inj hrest).1 (by decide)
  | cons w ws =>
    have hw : IsWord w := hwords w (List.mem_cons_of_mem _ (hargs ▸ List.mem_cons_self))
    rw [hargs, List.flatMap_cons, toList_render, List.append_assoc] at hrest
    have hopen := (List.cons.inj hrest).2
    exact hw.append_ne_cons (c := '(') rfl _ _ hopen

end Atom

/-! ### Facts -/

namespace Fact

theorem toList_render_fluent (a : Atom) (value : Int) :
    (fluent a value).render.toList =
      '(' :: '=' :: ' ' :: (a.render.toList ++ ' ' :: ((toString value).toList ++ [')'])) := by
  simp only [render, String.toList_append, String.reduceToList, List.cons_append, List.nil_append,
    List.append_assoc]

theorem SameText.render_eq {f g : Fact} (h : f.SameText g) : f.render = g.render := by
  cases h with
  | plain h => exact h.render_eq
  | fluent h value => rw [render, render, h.render_eq]

/-- **A fact is unambiguous**, and so is whether it is a fluent. -/
theorem unambiguous : Unambiguous (fun f => f.atom.Legible) (fun _ => True) SameText
    fun f => f.render.toList := by
  intro f g hf hg x y _ _ heq
  cases f with
  | plain a =>
    cases g with
    | plain b =>
      obtain ⟨hab, hxy⟩ := Atom.unambiguous hf hg trivial trivial heq
      exact ⟨.plain hab, hxy⟩
    | fluent b n =>
      simp only [toList_render_fluent, List.cons_append, List.append_assoc] at heq
      exact absurd heq (hf.append_ne_fluent b _ _)
  | fluent a m =>
    cases g with
    | plain b =>
      simp only [toList_render_fluent, List.cons_append, List.append_assoc] at heq
      exact absurd heq.symm (hg.append_ne_fluent a _ _)
    | fluent b n =>
      simp only [toList_render_fluent, List.cons_append, List.append_assoc, List.cons.injEq,
        true_and] at heq
      obtain ⟨hab, hvalue⟩ := Atom.unambiguous hf hg trivial trivial heq
      obtain ⟨hmn, hclose⟩ := unambiguous_word (isWord_toString m) (isWord_toString n)
        (gapNext_close x) (gapNext_close y) (List.cons.inj hvalue).2
      rw [Int.toString_eq_repr, Int.toString_eq_repr, Int.repr_inj] at hmn
      exact ⟨hmn ▸ .fluent hab m, (List.cons.inj hclose).2⟩

theorem exists_render_eq_cons (f : Fact) : ∃ cs, f.render.toList = '(' :: cs := by
  cases f with
  | plain a => exact ⟨_, a.toList_render⟩
  | fluent a value => exact ⟨_, toList_render_fluent a value⟩

end Fact

/-! ### States -/

theorem toList_renderState (facts : List Fact) :
    (renderState facts).toList = '(' :: joined (fun f => f.render.toList) facts ++ [')'] := by
  rw [renderState, String.toList_append, String.toList_append, toList_intercalate_space]
  rfl

theorem renderState_eq_of_forall₂ {facts facts' : List Fact}
    (h : List.Forall₂ Fact.SameText facts facts') : renderState facts = renderState facts' := by
  rw [renderState, renderState, map_eq_map_iff_forall₂.2 (h.imp fun _ _ => Fact.SameText.render_eq)]

/-- **A state is unambiguous**, the empty state included. -/
theorem unambiguous_renderState : Unambiguous (fun facts => ∀ f ∈ facts, f.atom.Legible)
    (fun _ => True) (List.Forall₂ Fact.SameText) fun facts => (renderState facts).toList := by
  have hstart : ∀ f : Fact, f.atom.Legible → ∀ x y, f.render.toList ++ x ≠ ')' :: y := by
    intro f _ x y heq
    obtain ⟨cs, hcs⟩ := f.exists_render_eq_cons
    rw [hcs] at heq
    exact absurd (List.cons.inj heq).1 (by decide)
  simp only [toList_renderState]
  exact Fact.unambiguous.closed (fun _ => trivial) (fun _ => trivial) hstart

/-! ### Reports -/

namespace Trace

/-- What stands in front of an action. -/
def actionLabel (i : Nat) : List Char :=
  '\n' :: '[' :: (toString i).toList ++ ", ".toList ++ (toString (i + 1)).toList ++ "]: ".toList

/-- What stands in front of a state. -/
def stateLabel (i : Nat) : List Char := '\n' :: '[' :: (toString i).toList ++ "]: ".toList

theorem flatMap_actionLines (i : Nat) (es : List (Int × Atom)) :
    ((actionLines i (es.map fun e => e.2.render)).flatMap fun l => "\n".toList ++ l.toList) =
      enumerated actionLabel (fun e => e.2.render.toList) i es := by
  induction es generalizing i with
  | nil => rfl
  | cons e es ih =>
    rw [List.map_cons, actionLines, List.flatMap_cons, ih]
    simp only [enumerated, actionLabel, String.toList_append, List.append_assoc]
    rfl

theorem flatMap_stateLines (i : Nat) (es : List (Int × List Fact)) :
    ((stateLines i (es.map fun e => renderState e.2)).flatMap fun l => "\n".toList ++ l.toList) =
      enumerated stateLabel (fun e => (renderState e.2).toList ++ ['\n']) i es := by
  induction es generalizing i with
  | nil => rfl
  | cons e es ih =>
    rw [List.map_cons, stateLines, List.flatMap_cons, ih]
    simp only [enumerated, stateLabel, String.toList_append, List.append_assoc]
    rfl

/-- A report, character by character. -/
theorem toList_report (t : Trace) : t.report.toList = "##Tasks##".toList ++
    (enumerated actionLabel (fun e => e.2.render.toList) 0 t.actions ++
      ("\n\n\n##States##".toList ++
        (enumerated stateLabel (fun e => (renderState e.2).toList ++ ['\n']) 0 t.states ++
          ['\n']))) := by
  have hlines : ["##Tasks##"] ++ actionLines 0 t.actionTexts ++ ["\n\n##States##"] ++
      stateLines 0 t.stateTexts = "##Tasks##" ::
        (actionLines 0 t.actionTexts ++ "\n\n##States##" :: stateLines 0 t.stateTexts) := by
    simp
  rw [report, hlines, String.toList_append, toList_intercalate_cons, List.flatMap_append,
    List.flatMap_cons, actionTexts, stateTexts, flatMap_actionLines, flatMap_stateLines]
  simp only [List.append_assoc]
  rfl

theorem SameText.report_eq {s t : Trace} (h : s.SameText t) : s.report = t.report := by
  have hactions : s.actionTexts = t.actionTexts :=
    map_eq_map_iff_forall₂.2 (h.actions.imp fun _ _ => Atom.SameText.render_eq)
  have hstates : s.stateTexts = t.stateTexts :=
    map_eq_map_iff_forall₂.2 (h.states.imp fun _ _ => renderState_eq_of_forall₂)
  rw [report, report, hactions, hstates]

/-- **Traces with the same report read alike.** What a template contributes to a trace is legible,
but for a hyphen among its literals. Legible traces have the same report exactly if they are the same
but for capitals and turns: as many actions and as many states, and each of them with the same facts
and arguments in the same order. -/
theorem report_unambiguous :
    (∀ (source : String) (t : Template), Template.parse source = .ok t → t.Legible) ∧
      ∀ s t : Trace, s.Legible → t.Legible → (s.report = t.report ↔ s.SameText t) := by
  refine ⟨fun source t => Template.legible_of_parse, fun s t hs ht => ⟨fun heq => ?_, ?_⟩⟩
  · -- An empty line is no label: the actions end there, and the states at the end of the text.
    have hactionsEnd : ∀ x i y, "\n\n\n##States##".toList ++ x ≠ actionLabel i ++ y := by
      intro x i y h
      exact absurd (List.cons.inj (List.cons.inj h).2).1 (by decide)
    have hstatesEnd : ∀ i y, ['\n'] ≠ stateLabel i ++ y := by
      intro i y h
      cases (List.cons.inj h).2
    have hchars := congrArg String.toList heq
    rw [toList_report, toList_report, List.append_cancel_left_eq] at hchars
    obtain ⟨hactions, hrest⟩ := (Atom.unambiguous.comap Prod.snd).enumerated actionLabel 0
      hs.actions ht.actions (hactionsEnd _) (hactionsEnd _) hchars
    obtain ⟨hstates, -⟩ := ((unambiguous_renderState.comap Prod.snd).append ['\n']).enumerated
      stateLabel 0 hs.states ht.states hstatesEnd hstatesEnd (List.append_cancel_left hrest)
    exact ⟨hactions, hstates⟩
  · exact SameText.report_eq

/-- A trace with a fluent, an empty state and an action without arguments. -/
def shortTrace : Trace where
  states := [(0, [.plain ⟨"at", [.object ⟨"avatar_0", "hero"⟩, .constant "home"]⟩,
    .fluent ⟨"got", [.constant "gem"]⟩ (-3)]), (1, [])]
  actions := [(0, ⟨"rest", []⟩)]

/-- The same trace in capitals, some turns later. -/
def shortTraceInCapitals : Trace where
  states := [(7, [.plain ⟨"AT", [.object ⟨"AVATAR_0", "HERO"⟩, .constant "HOME"]⟩,
    .fluent ⟨"GOT", [.constant "GEM"]⟩ (-3)]), (8, [])]
  actions := [(7, ⟨"REST", []⟩)]

theorem report_unambiguous_shortTrace :
    (∃ t, Template.parse "(at ?avatar home)" = .ok t ∧ t.Legible) ∧
      shortTrace.Legible ∧ shortTraceInCapitals.Legible ∧
      shortTrace.report = shortTraceInCapitals.report ∧
      shortTrace.SameText shortTraceInCapitals := by
  have hparse : Template.parse "(at ?avatar home)" =
      .ok ⟨"(at ?avatar home)", "at", [.placeholder "?avatar", .literal "home"]⟩ := by
    rfl
  have hs : shortTrace.Legible := by
    decide +kernel
  have ht : shortTraceInCapitals.Legible := by
    decide +kernel
  have heq : shortTrace.report = shortTraceInCapitals.report := by
    decide +kernel
  exact ⟨⟨_, hparse, report_unambiguous.1 _ _ hparse⟩, hs, ht, heq,
    (report_unambiguous.2 _ _ hs ht).1 heq⟩

/-- A constant that is a hyphen is taken for the one between an object and its type. -/
example : Atom.render ⟨"at", [.constant "a", .constant "-", .constant "t"]⟩ =
    Atom.render ⟨"at", [.object ⟨"a", "t"⟩]⟩ := by
  decide +kernel

end Trace

end PlayTrace
