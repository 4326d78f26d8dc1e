import Mathlib.Data.List.Induction
import PlayTrace.Table

/-!
# Looking up tables

What `Table.get?` finds after each way of building a table, and what the entries of the table then
are. Since the keys of a table are distinct, looking up a key and listing the entries say the same
thing, and both forms are needed: worlds are searched by number and listed by cell.

## Main results

* `Table.get?_eq_some_iff` — looking up a key finds the entry with that key
* `Table.get?_insert`, `get?_erase` — look-up after a change
* `Table.entries_insert_of_mem`, `entries_insert_of_not_mem` — entries after an insertion
* `Table.entries_ofList` — a list with distinct keys is the list of entries of its table
* `Table.get?_ofList_eq_some_iff` — of the entries of a list with one key the last one counts
-/

namespace PlayTrace

namespace Table

variable {κ α : Type} [DecidableEq κ]

/-! ### Entries -/

theorem get?_eq_some_iff {t : Table κ α} {k : κ} {v : α} :
    t.get? k = some v ↔ (k, v) ∈ t.entries := by
  obtain ⟨es, hnodup⟩ := t
  change (es.find? fun e => decide (e.1 = k)).map Prod.snd = some v ↔ (k, v) ∈ es
  induction es with
  | nil => simp
  | cons e es ih =>
    obtain ⟨hnotMem, hnodup'⟩ := List.nodup_cons.1 hnodup
    by_cases hk : e.1 = k
    · rw [List.find?_cons_of_pos (by simpa using hk), List.mem_cons]
      constructor
      · intro h
        left
        rw [← hk, ← Option.some.inj h]
      · rintro (rfl | hmem)
        · rfl
        · exact absurd (List.mem_map.2 ⟨_, hmem, rfl⟩) (hk ▸ hnotMem)
    · rw [List.find?_cons_of_neg (by simpa using hk), ih hnodup', List.mem_cons]
      constructor
      · exact Or.inr
      · rintro (rfl | hmem)
        · exact absurd rfl hk
        · exact hmem

theorem mem_keys_iff {t : Table κ α} {k : κ} : k ∈ t.keys ↔ ∃ v, t.get? k = some v := by
  simp only [keys, List.mem_map, get?_eq_some_iff, Prod.exists, exists_and_right, exists_eq_right]

theorem get?_eq_none_iff {t : Table κ α} {k : κ} : t.get? k = none ↔ k ∉ t.keys := by
  rw [mem_keys_iff]
  cases t.get? k <;> simp

@[simp] theorem contains_iff {t : Table κ α} {k : κ} : t.contains k = true ↔ k ∈ t.keys := by
  simp [contains]

omit [DecidableEq κ] in
theorem mem_keys_of_mem {t : Table κ α} {e : κ × α} (h : e ∈ t.entries) : e.1 ∈ t.keys :=
  List.mem_map.2 ⟨e, h, rfl⟩

omit [DecidableEq κ] in
/-- Two entries with the same key are the same. -/
theorem entry_ext {t : Table κ α} {e f : κ × α} (he : e ∈ t.entries) (hf : f ∈ t.entries)
    (h : e.1 = f.1) : e = f := by
  classical
  have hv : t.get? f.1 = some e.2 := get?_eq_some_iff.2 (h ▸ he)
  have hw : t.get? f.1 = some f.2 := get?_eq_some_iff.2 hf
  exact Prod.ext h (Option.some.inj (hv.symm.trans hw))

/-! ### Insertion -/

theorem find?_setEntry (k k' : κ) (v : α) (es : List (κ × α)) :
    ((setEntry k v es).find? fun e => decide (e.1 = k')).map Prod.snd =
      if k' = k then some v else (es.find? fun e => decide (e.1 = k')).map Prod.snd := by
  induction es with
  | nil => by_cases h : k' = k <;> simp [setEntry, h, eq_comm]
  | cons e es ih =>
    rw [setEntry]
    by_cases he : e.1 = k
    · rw [if_pos he]
      by_cases h : k' = k
      · simp [h]
      · rw [List.find?_cons_of_neg (by simpa [eq_comm] using h),
          List.find?_cons_of_neg (by simpa [he, eq_comm] using h), if_neg h]
    · rw [if_neg he]
      by_cases h : e.1 = k'
      · have hne : k' ≠ k := fun hk => he (h.trans hk)
        rw [List.find?_cons_of_pos (by simpa using h), List.find?_cons_of_pos (by simpa using h),
          if_neg hne]
      · rw [List.find?_cons_of_neg (by simpa using h), List.find?_cons_of_neg (by simpa using h),
          ih]

theorem get?_insert (t : Table κ α) (k : κ) (v : α) (k' : κ) :
    (t.insert k v).get? k' = if k' = k then some v else t.get? k' :=
  find?_setEntry k k' v t.entries

theorem setEntry_of_mem {k : κ} {es : List (κ × α)} (v : α) (hnodup : (es.map Prod.fst).Nodup)
    (h : k ∈ es.map Prod.fst) :
    setEntry k v es = es.map fun e => if e.1 = k then (k, v) else e := by
  induction es with
  | nil => simp at h
  | cons e es ih =>
    obtain ⟨hnotMem, hnodup'⟩ := List.nodup_cons.1 hnodup
    rw [setEntry, List.map_cons]
    by_cases he : e.1 = k
    · rw [if_pos he, if_pos he]
      have hrest : ∀ f ∈ es, (if f.1 = k then (k, v) else f) = f := fun f hf =>
        if_neg fun hfk => hnotMem (List.mem_map.2 ⟨f, hf, hfk.trans he.symm⟩)
      rw [List.map_congr_left hrest, List.map_id']
    · rw [if_neg he, if_neg he]
      have hmem : k ∈ es.map Prod.fst :=
        (List.mem_cons.1 h).resolve_left fun hk => he hk.symm
      rw [ih hnodup' hmem]

/-- A present key keeps its place. -/
theorem entries_insert_of_mem {t : Table κ α} {k : κ} (v : α) (h : k ∈ t.keys) :
    (t.insert k v).entries = t.entries.map fun e => if e.1 = k then (k, v) else e :=
  setEntry_of_mem v t.nodup h

theorem setEntry_of_not_mem {k : κ} {es : List (κ × α)} (v : α) (h : k ∉ es.map Prod.fst) :
    setEntry k v es = es ++ [(k, v)] := by
  induction es with
  | nil => rfl
  | cons e es ih =>
    rw [List.map_cons, List.mem_cons, not_or] at h
    rw [setEntry, if_neg fun he => h.1 he.symm, ih h.2, List.cons_append]

/-- A new key comes last. -/
theorem entries_insert_of_not_mem {t : Table κ α} {k : κ} (v : α) (h : k ∉ t.keys) :
    (t.insert k v).entries = t.entries ++ [(k, v)] :=
  setEntry_of_not_mem v h

/-! ### Removal -/

theorem find?_filter_key (k k' : κ) (es : List (κ × α)) :
    ((es.filter fun e => decide (e.1 ≠ k)).find? fun e => decide (e.1 = k')) =
      if k' = k then none else es.find? fun e => decide (e.1 = k') := by
  rw [List.find?_filter]
  by_cases h : k' = k
  · rw [if_pos h, List.find?_eq_none]
    rintro e - he
    simp only [decide_not, Bool.not_eq_eq_eq_not, Bool.not_true, decide_eq_false_iff_not,
      decide_eq_true_eq, Bool.decide_and, Bool.and_eq_true] at he
    exact he.1 (he.2.trans h)
  · rw [if_neg h]
    congr 1
    funext e
    by_cases he : e.1 = k'
    · simp [he, h]
    · simp [he]

theorem get?_erase (t : Table κ α) (k k' : κ) :
    (t.erase k).get? k' = if k' = k then none else t.get? k' := by
  change ((t.entries.filter fun e => decide (e.1 ≠ k)).find? fun e => decide (e.1 = k')).map _ = _
  rw [find?_filter_key]
  split <;> rfl

/-! ### Lists -/

theorem ofList_append_singleton (es : List (κ × α)) (e : κ × α) :
    ofList (es ++ [e]) = (ofList es).insert e.1 e.2 := by
  rw [ofList, List.foldl_append]
  rfl

theorem mem_keys_ofList {es : List (κ × α)} {k : κ} :
    k ∈ (ofList es).keys ↔ k ∈ es.map Prod.fst := by
  induction es using List.reverseRecOn with
  | nil => rfl
  | append_singleton es e ih =>
    rw [ofList_append_singleton, keys_insert, List.map_append, List.mem_append, ← ih]
    split
    · rename_i hmem
      constructor
      · exact Or.inl
      · rintro (h | h)
        · exact h
        · rwa [List.mem_singleton.1 h]
    · rw [List.mem_append]
      rfl

/-- An element of a list with one more at its end is that one, or is followed by it. -/
theorem concat_eq_append_cons_iff {es before after : List α} {a b : α} :
    es ++ [b] = before ++ a :: after ↔
      (es = before ∧ b = a ∧ after = []) ∨
        ∃ rest, after = rest ++ [b] ∧ es = before ++ a :: rest := by
  rcases List.eq_nil_or_concat after with rfl | ⟨rest, c, rfl⟩
  · simp
  · have hsplit : before ++ a :: rest.concat c = (before ++ a :: rest) ++ [c] := by simp
    rw [hsplit, List.concat_eq_append]
    constructor
    · intro h
      obtain ⟨rfl, hlast⟩ := List.append_inj' h rfl
      obtain rfl := List.singleton_inj.1 hlast
      exact .inr ⟨rest, rfl, rfl⟩
    · rintro (⟨-, -, h⟩ | ⟨rest', h, rfl⟩)
      · simp at h
      · obtain ⟨rfl, hlast⟩ := List.append_inj' h rfl
        rw [List.singleton_inj.1 hlast]

/-- Where a key is listed several times, the last time counts. -/
theorem get?_ofList_eq_some_iff {es : List (κ × α)} {k : κ} {v : α} :
    (ofList es).get? k = some v ↔
      ∃ before after, es = before ++ (k, v) :: after ∧ ∀ e ∈ after, e.1 ≠ k := by
  induction es using List.reverseRecOn with
  | nil =>
    constructor
    · intro h
      cases h
    · rintro ⟨before, after, h, -⟩
      simp at h
  | append_singleton es e ih =>
    simp only [concat_eq_append_cons_iff]
    rw [ofList_append_singleton, get?_insert]
    by_cases hk : k = e.1
    · rw [if_pos hk]
      constructor
      · intro h
        exact ⟨es, [], .inl ⟨rfl, Prod.ext hk.symm (Option.some.inj h), rfl⟩, by simp⟩
      · rintro ⟨before, after, ⟨rfl, rfl, rfl⟩ | ⟨rest, rfl, rfl⟩, hafter⟩
        · rfl
        · exact absurd hk.symm (hafter e (by simp))
    · rw [if_neg hk, ih]
      constructor
      · rintro ⟨before, rest, rfl, hrest⟩
        refine ⟨before, rest ++ [e], .inr ⟨rest, rfl, rfl⟩, ?_⟩
        intro f hf
        rcases List.mem_append.1 hf with hf | hf
        · exact hrest f hf
        · rw [List.mem_singleton.1 hf]
          exact fun h => hk h.symm
      · rintro ⟨before, after, ⟨rfl, rfl, rfl⟩ | ⟨rest, rfl, rfl⟩, hafter⟩
        · exact absurd rfl hk
        · exact ⟨before, rest, rfl, fun f hf => hafter f (by simp [hf])⟩

/-! ### Lists with distinct keys -/

theorem entries_foldl_insert (es : List (κ × α)) (t : Table κ α)
    (h : ((t.entries ++ es).map Prod.fst).Nodup) :
    (es.foldl (fun t e => t.insert e.1 e.2) t).entries = t.entries ++ es := by
  induction es generalizing t with
  | nil => simp
  | cons e es ih =>
    have hnew : e.1 ∉ t.keys := by
      intro hmem
      rw [List.map_append, List.map_cons] at h
      exact (List.nodup_append.1 h).2.2 e.1 hmem e.1 List.mem_cons_self rfl
    have hentries : (t.insert e.1 e.2).entries = t.entries ++ [e] :=
      entries_insert_of_not_mem e.2 hnew
    rw [List.foldl_cons, ih, hentries, List.append_assoc, List.singleton_append]
    rw [hentries, List.append_assoc, List.singleton_append]
    exact h

/-- A list with distinct keys is the list of entries of its table. -/
theorem entries_ofList {es : List (κ × α)} (h : (es.map Prod.fst).Nodup) :
    (ofList es).entries = es :=
  entries_foldl_insert es empty h

end Table

end PlayTrace
