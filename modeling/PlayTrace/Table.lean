/-!
# Insertion-ordered tables

A finite map that remembers the order in which its keys were first inserted. Giving a key a new
value leaves it at its place, so the order of a table is the order in which its keys first
appeared.

Keys are distinct by construction; `Table.nodup` says so, and every operation keeps it.
-/

namespace PlayTrace

/-- A finite map listed in the order in which its keys were first inserted. -/
structure Table (κ : Type) (α : Type) where
  /-- the keys with their values, in order -/
  entries : List (κ × α)
  /-- no key occurs twice -/
  nodup : (entries.map Prod.fst).Nodup
deriving DecidableEq

namespace Table

variable {κ α β : Type}

/-- The table without entries. -/
def empty : Table κ α := ⟨[], by simp⟩

instance : Inhabited (Table κ α) := ⟨empty⟩

/-- The keys of a table, in order. -/
def keys (t : Table κ α) : List κ := t.entries.map Prod.fst

/-- The values of a table, in the order of their keys. -/
def values (t : Table κ α) : List α := t.entries.map Prod.snd

/-- The table with every value replaced by its image. -/
def map (f : κ → α → β) (t : Table κ α) : Table κ β :=
  ⟨t.entries.map fun e => (e.1, f e.1 e.2), by simpa [List.map_map, Function.comp_def] using t.nodup⟩

variable [DecidableEq κ]

/-- The value of a key. -/
def get? (t : Table κ α) (k : κ) : Option α :=
  (t.entries.find? fun e => e.1 = k).map Prod.snd

/-- Whether a key occurs. -/
def contains (t : Table κ α) (k : κ) : Bool := t.keys.contains k

/-- Gives a key a value: in its place if the key is present, at the end otherwise. -/
def setEntry (k : κ) (v : α) : List (κ × α) → List (κ × α)
  | [] => [(k, v)]
  | e :: es => if e.1 = k then (k, v) :: es else e :: setEntry k v es

theorem map_fst_setEntry (k : κ) (v : α) (es : List (κ × α)) :
    (setEntry k v es).map Prod.fst =
      if k ∈ es.map Prod.fst then es.map Prod.fst else es.map Prod.fst ++ [k] := by
  induction es with
  | nil => simp [setEntry]
  | cons e es ih =>
    by_cases h : e.1 = k
    · simp [setEntry, h]
    · have h' : ¬ k = e.1 := fun hk => h hk.symm
      simp only [setEntry, if_neg h, List.map_cons, ih, List.mem_cons, h', false_or]
      split <;> simp

/-- Gives a key a value: in its place if the key is present, at the end otherwise. -/
def insert (t : Table κ α) (k : κ) (v : α) : Table κ α :=
  ⟨setEntry k v t.entries, by
    rw [map_fst_setEntry]
    split
    · exact t.nodup
    · rename_i h
      exact List.nodup_append.2 ⟨t.nodup, by simp, by
        intro a ha b hb hab
        exact h (by simp_all)⟩⟩

/-- The table without a key. -/
def erase (t : Table κ α) (k : κ) : Table κ α :=
  ⟨t.entries.filter fun e => e.1 ≠ k,
    List.Nodup.sublist (List.Sublist.map _ List.filter_sublist) t.nodup⟩

/-- The table of a list of keys with values, inserted one after the other. -/
def ofList (es : List (κ × α)) : Table κ α :=
  es.foldl (fun t e => t.insert e.1 e.2) empty

omit [DecidableEq κ] in
@[simp] theorem keys_empty : (empty : Table κ α).keys = [] := rfl

omit [DecidableEq κ] in
@[simp] theorem keys_map (f : κ → α → β) (t : Table κ α) : (t.map f).keys = t.keys := by
  simp [keys, map, List.map_map, Function.comp_def]

theorem keys_insert (t : Table κ α) (k : κ) (v : α) :
    (t.insert k v).keys = if k ∈ t.keys then t.keys else t.keys ++ [k] :=
  map_fst_setEntry k v t.entries

omit [DecidableEq κ] in
theorem nodup_keys (t : Table κ α) : t.keys.Nodup := t.nodup

end Table

end PlayTrace
