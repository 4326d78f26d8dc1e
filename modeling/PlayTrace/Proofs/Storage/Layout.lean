import PlayTrace.Storage.Layout

/-!
# Where results are kept apart

The files of a batch are told from one another by their names. A name without a stroke in it is a
single step of a path, so the name of an episode comes back from the paths of its report and its
summary, and these lie in directories of their own.

## Main definitions

* `Path.IsName` — a text that is a single step of a path

## Main results

* `Path.report_inj`, `Path.summary_inj` — other episodes have other files
* `Path.report_ne_summary`, `Path.report_ne_traceLog`, `Path.summary_ne_traceLog`
-/

namespace PlayTrace

namespace Path

variable {p q : Path} {s t : String}

/-! ### Names -/

theorem splitStrokes_of_not_mem {cs : List Char} (h : '/' ∉ cs) : splitStrokes cs = [cs] := by
  induction cs with
  | nil => rfl
  | cons c cs ih =>
    rw [List.mem_cons, not_or] at h
    rw [splitStrokes, if_neg (Ne.symm h.1), ih h.2]

theorem anchorOf_of_not_mem {cs : List Char} (h : '/' ∉ cs) : anchorOf cs = .here := by
  cases cs with
  | nil => rfl
  | cons c cs =>
    rw [List.mem_cons, not_or] at h
    rw [anchorOf, List.takeWhile_cons_of_neg (by simpa using Ne.symm h.1)]
    rfl

/-- A text that leads one step down: it has no stroke in it, and it leads to another place. -/
structure IsName (s : String) : Prop where
  no_stroke : '/' ∉ s.toList
  is_step : isStep s = true

theorem IsName.child_eq (h : IsName s) (p : Path) :
    p.child s = { p with steps := p.steps ++ [s] } := by
  have hsteps : (ofText s).steps = [s] := by
    rw [ofText, splitStrokes_of_not_mem h.no_stroke, List.map_singleton, String.ofList_toList]
    exact List.filter_cons_of_pos h.is_step
  have hanchor : (ofText s).anchor = .here := anchorOf_of_not_mem h.no_stroke
  rw [child, join, hanchor, hsteps]

/-- A step down keeps both the place it starts from and the name. -/
theorem IsName.child_inj (hs : IsName s) (ht : IsName t) :
    p.child s = q.child t ↔ p = q ∧ s = t := by
  obtain ⟨anchor, steps⟩ := p
  obtain ⟨anchor', steps'⟩ := q
  rw [hs.child_eq, ht.child_eq, mk.injEq, mk.injEq, and_assoc]
  refine and_congr_right fun _ => ?_
  rw [List.append_singleton_inj]

/-- What lies in different directories is not the same. -/
theorem IsName.child_child_ne {dir dir' : String} (hs : IsName s) (ht : IsName t)
    (hdir : IsName dir) (hdir' : IsName dir') (hne : dir ≠ dir') :
    (p.child dir).child s ≠ (q.child dir').child t := by
  rw [Ne, hs.child_inj ht, hdir.child_inj hdir']
  exact fun h => hne h.1.2

/-- A text without strokes becomes a name by an ending. -/
theorem isName_append {ending : String} (hs : '/' ∉ s.toList) (hending : IsName ending)
    (hlong : 2 ≤ ending.length) : IsName (s ++ ending) := by
  refine ⟨?_, ?_⟩
  · rw [String.toList_append, List.mem_append, not_or]
    exact ⟨hs, hending.no_stroke⟩
  · have hlength : 2 ≤ (s ++ ending).length := by
      rw [String.length_append]
      omega
    have hne (short : String) (hshort : short.length < 2) : s ++ ending ≠ short := by
      rintro rfl
      omega
    simp [isStep, hne "." (by decide), hne "" (by decide)]

/-! ### The files of episodes -/

section Files

variable {out : Path} {id id' : String}

theorem isName_report (h : '/' ∉ id.toList) : IsName (id ++ ".txt") :=
  isName_append h ⟨by decide, by decide⟩ (by decide)

theorem isName_summary (h : '/' ∉ id.toList) : IsName (id ++ ".json") :=
  isName_append h ⟨by decide, by decide⟩ (by decide)

theorem report_inj (h : '/' ∉ id.toList) (h' : '/' ∉ id'.toList) :
    out.report id = out.report id' ↔ id = id' := by
  rw [report, report, (isName_report h).child_inj (isName_report h'), String.append_left_inj]
  exact and_iff_right rfl

theorem summary_inj (h : '/' ∉ id.toList) (h' : '/' ∉ id'.toList) :
    out.summary id = out.summary id' ↔ id = id' := by
  rw [summary, summary, (isName_summary h).child_inj (isName_summary h'), String.append_left_inj]
  exact and_iff_right rfl

theorem report_ne_summary (h : '/' ∉ id.toList) (h' : '/' ∉ id'.toList) :
    out.report id ≠ out.summary id' :=
  (isName_report h).child_child_ne (isName_summary h') ⟨by decide, by decide⟩
    ⟨by decide, by decide⟩ (by decide)

theorem report_ne_traceLog (h : '/' ∉ id.toList) : out.report id ≠ out.traceLog :=
  (isName_report h).child_child_ne ⟨by decide, by decide⟩ ⟨by decide, by decide⟩
    ⟨by decide, by decide⟩ (by decide)

theorem summary_ne_traceLog (h : '/' ∉ id.toList) : out.summary id ≠ out.traceLog :=
  (isName_summary h).child_child_ne ⟨by decide, by decide⟩ ⟨by decide, by decide⟩
    ⟨by decide, by decide⟩ (by decide)

end Files

end Path

end PlayTrace
