import PlayTrace.Grounding.Ledger
import PlayTrace.Proofs.Table

/-!
# What a ledger counts

An update goes through the keys of a ledger one by one and adds to the count of each what has become
fewer of it. A ledger of a domain lists every key once, so an update adds to the count of a key
exactly once, and it leaves alone what it does not list.

## Main results

* `Ledger.count_update` — a count after an update
* `Ledger.get?_deltas` — what an update reports
* `Ledger.picked_eq` — a resource that is counted can be asked for
* `Ledger.count_ofKeys` — nothing is counted at the beginning
-/

namespace PlayTrace

/-- A table with one entry for each of a list of keys. -/
theorem Table.get?_ofList_map {α : Type} {keys : List String} (hnodup : keys.Nodup)
    (f : String → α) (key : String) :
    (Table.ofList (keys.map fun k => (k, f k))).get? key =
      if key ∈ keys then some (f key) else none := by
  have hkeys : ((keys.map fun k => (k, f k)).map Prod.fst).Nodup := by
    rwa [List.map_map, Function.comp_def, List.map_id']
  split
  · rename_i hmem
    rw [get?_eq_some_iff, entries_ofList hkeys]
    exact List.mem_map.2 ⟨key, hmem, rfl⟩
  · rename_i hmem
    rw [get?_eq_none_iff, Table.keys, entries_ofList hkeys, List.map_map, Function.comp_def,
      List.map_id']
    exact hmem

namespace Ledger

/-! ### Counts -/

theorem get?_add (counts : Table String Nat) (key key' : String) (n : Nat) :
    ((add counts key n).get? key').getD 0 =
      (counts.get? key').getD 0 + if key' = key then n else 0 := by
  rw [add, Table.get?_insert]
  split
  · rename_i h
    rw [h, Option.getD_some]
  · rw [Nat.add_zero]

theorem get?_foldl_add {keys : List String} (hnodup : keys.Nodup) (f : String → Nat)
    (counts : Table String Nat) (key : String) :
    ((keys.foldl (fun t k => add t k (f k)) counts).get? key).getD 0 =
      (counts.get? key).getD 0 + if key ∈ keys then f key else 0 := by
  induction keys generalizing counts with
  | nil => simp
  | cons k keys ih =>
    obtain ⟨hnotMem, hnodup'⟩ := List.nodup_cons.1 hnodup
    rw [List.foldl_cons, ih hnodup', get?_add]
    by_cases h : key = k
    · subst h
      simp [hnotMem]
    · simp [h]

/-- **A count after an update.** -/
theorem count_update {l : Ledger} (hnodup : l.keys.Nodup) (before after : Snapshot) (key : String) :
    (l.update before after).count key =
      l.count key + if key ∈ l.keys then collected before after key else 0 :=
  get?_foldl_add hnodup _ _ key

@[simp] theorem keys_update (l : Ledger) (before after : Snapshot) :
    (l.update before after).keys = l.keys := rfl

/-- At first nothing is counted. -/
theorem count_ofKeys {keys : List String} (hnodup : keys.Nodup) (key : String) :
    (ofKeys keys).count key = 0 := by
  have hget := Table.get?_ofList_map hnodup (fun _ => (0 : Nat)) key
  have hcount : (ofKeys keys).count key =
      ((Table.ofList (keys.map fun k => (k, 0))).get? key).getD 0 := rfl
  rw [hcount, hget]
  split <;> rfl

theorem nodup_keys_ofDomain (D : Domain) : (ofDomain D).keys.Nodup := D.pickups.nodup_keys

theorem count_ofDomain (D : Domain) (key : String) : (ofDomain D).count key = 0 :=
  count_ofKeys D.pickups.nodup_keys key

/-! ### Counted resources -/

theorem mem_keys_insert {t : Table String Nat} {key : String} (h : key ∈ t.keys) (k : String)
    (n : Nat) : key ∈ (t.insert k n).keys := by
  rw [Table.keys_insert]
  split
  · exact h
  · exact List.mem_append_left _ h

/-- A resource that is counted stays counted. -/
theorem mem_keys_counts_update {l : Ledger} {key : String} (h : key ∈ l.counts.keys)
    (before after : Snapshot) : key ∈ (l.update before after).counts.keys := by
  have hfold : ∀ (keys : List String) (t : Table String Nat), key ∈ t.keys →
      key ∈ (keys.foldl (fun t k => add t k (collected before after k)) t).keys := by
    intro keys
    induction keys with
    | nil => exact fun _ ht => ht
    | cons k keys ih => exact fun t ht => ih _ (mem_keys_insert ht k _)
  exact hfold l.keys l.counts h

theorem mem_keys_counts_ofKeys {keys : List String} (hnodup : keys.Nodup) {key : String}
    (h : key ∈ keys) : key ∈ (ofKeys keys).counts.keys := by
  have hget := Table.get?_ofList_map hnodup (fun _ => (0 : Nat)) key
  rw [if_pos h] at hget
  exact Table.mem_keys_iff.2 ⟨0, hget⟩

theorem mem_keys_counts_ofDomain {D : Domain} {key : String} (h : key ∈ D.pickups.keys) :
    key ∈ (ofDomain D).counts.keys :=
  mem_keys_counts_ofKeys D.pickups.nodup_keys h

theorem picked_eq {l : Ledger} {key : String} (h : key ∈ l.counts.keys) :
    l.picked key = .ok (l.count key) := by
  obtain ⟨n, hn⟩ := Table.mem_keys_iff.1 h
  rw [picked, count, hn]
  rfl

/-! ### Reports -/

theorem get?_deltas {l : Ledger} (hnodup : l.keys.Nodup) (before after : Snapshot) (key : String) :
    (l.deltas before after).get? key =
      if key ∈ l.keys then some (collected before after key) else none :=
  Table.get?_ofList_map hnodup _ key

end Ledger

end PlayTrace
