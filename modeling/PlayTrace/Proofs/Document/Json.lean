import Mathlib.Data.List.TakeDrop
import Mathlib.Data.List.TakeWhile
import Mathlib.Tactic.Ring
import PlayTrace.Document.Json
import PlayTrace.Proofs.Success

/-!
# The values of JSON

A document value is more than JSON can write: its mappings may have keys of any kind, and its
integers any number of digits. `Value.IsJson` singles out the values that are written in JSON, and
the reader answers with no others. Whoever reads documents from JSON may rely on it: a key is a
text, no key occurs twice, and every integer can be written out again.

## Main definitions

* `Value.IsJson` — the values of JSON

## Main results

* `Value.IsJson.isWritable` — the text of such a value can be written
* `Json.isJson_of_read` — the reader answers with values of JSON alone
-/

namespace PlayTrace

namespace Value

/-- A value that is written in JSON. The keys of its objects are texts, and they are distinct; its
integers have no more digits than are accepted. -/
inductive IsJson : Value → Prop
  | null : IsJson .null
  | bool (b : Bool) : IsJson (.bool b)
  | int {n : Int} (h : Text.isWritable n = true) : IsJson (.int n)
  | float (x : Number) : IsJson (.float x)
  | text (s : String) : IsJson (.text s)
  | list {items : List Value} (h : ∀ v ∈ items, IsJson v) : IsJson (.list items)
  | mapping {entries : List (Value × Value)} (keys : ∀ e ∈ entries, ∃ k, e.1 = .text k)
      (distinct : (entries.map Prod.fst).Nodup) (values : ∀ e ∈ entries, IsJson e.2) :
      IsJson (.mapping entries)

/-! ### Texts of values -/

theorem areWritable_of_forall {items : List Value} (h : ∀ v ∈ items, v.isWritable = true) :
    areWritable items = true := by
  induction items with
  | nil => rfl
  | cons v vs ih =>
    rw [areWritable, h v List.mem_cons_self, ih fun w hw => h w (List.mem_cons_of_mem v hw)]
    rfl

theorem areWritableEntries_of_forall {entries : List (Value × Value)}
    (h : ∀ e ∈ entries, e.1.isWritable = true ∧ e.2.isWritable = true) :
    areWritableEntries entries = true := by
  induction entries with
  | nil => rfl
  | cons e es ih =>
    obtain ⟨hkey, hvalue⟩ := h e List.mem_cons_self
    rw [areWritableEntries, hkey, hvalue, ih fun f hf => h f (List.mem_cons_of_mem e hf)]
    rfl

/-- The text of a value of JSON can be written. -/
theorem IsJson.isWritable {v : Value} (h : v.IsJson) : v.isWritable = true := by
  induction h with
  | null => rfl
  | bool b => rfl
  | int h => exact h
  | float x => rfl
  | text s => rfl
  | list _ ih => exact areWritable_of_forall ih
  | mapping keys _ _ ih =>
    refine areWritableEntries_of_forall fun e he => ⟨?_, ih e he⟩
    obtain ⟨k, hk⟩ := keys e he
    rw [hk]
    rfl

/-! ### Objects -/

theorem mem_setEntry {key value : Value} {es : List (Value × Value)} {e : Value × Value}
    (h : e ∈ setEntry key value es) :
    e ∈ es ∨ e.2 = value ∧ (e.1 = key ∨ e.1 ∈ es.map Prod.fst) := by
  induction es with
  | nil =>
    obtain rfl := List.mem_singleton.1 h
    exact .inr ⟨rfl, .inl rfl⟩
  | cons f fs ih =>
    rw [setEntry] at h
    split at h
    · rcases List.mem_cons.1 h with rfl | hmem
      · exact .inr ⟨rfl, .inr List.mem_cons_self⟩
      · exact .inl (List.mem_cons_of_mem f hmem)
    · rcases List.mem_cons.1 h with rfl | hmem
      · exact .inl List.mem_cons_self
      · rcases ih hmem with hmem | ⟨hvalue, hkey⟩
        · exact .inl (List.mem_cons_of_mem f hmem)
        · exact .inr ⟨hvalue, hkey.imp_right (List.mem_cons_of_mem f.1)⟩

theorem nodup_setEntry {k : String} (value : Value) {es : List (Value × Value)}
    (keys : ∀ e ∈ es, ∃ j, e.1 = .text j) (distinct : (es.map Prod.fst).Nodup) :
    ((setEntry (.text k) value es).map Prod.fst).Nodup := by
  induction es with
  | nil => simp [setEntry]
  | cons f fs ih =>
    obtain ⟨j, hj⟩ := keys f List.mem_cons_self
    obtain ⟨hnotMem, hdistinct⟩ := List.nodup_cons.1 distinct
    rw [setEntry]
    split
    · exact distinct
    · rename_i hne
      have hjk : Value.text j ≠ .text k := by
        rintro heq
        cases heq
        simp [hj, sameKey] at hne
      refine List.nodup_cons.2 ⟨?_, ih (fun e he => keys e (List.mem_cons_of_mem f he)) hdistinct⟩
      intro hmem
      obtain ⟨e, he, hef⟩ := List.mem_map.1 hmem
      rcases mem_setEntry he with he | ⟨-, hkey | hkey⟩
      · exact hnotMem (List.mem_map.2 ⟨e, he, hef⟩)
      · exact hjk (by rw [← hj, ← hkey, hef])
      · exact hnotMem (hef ▸ hkey)

/-- An object with one more member. -/
theorem IsJson.setEntry (k : String) {value : Value} {es : List (Value × Value)}
    (h : (Value.mapping es).IsJson) (hvalue : value.IsJson) :
    (Value.mapping (Value.setEntry (.text k) value es)).IsJson := by
  cases h with
  | mapping keys distinct values =>
    refine .mapping ?_ (nodup_setEntry value keys distinct) ?_
    · intro e he
      rcases mem_setEntry he with he | ⟨-, hkey | hkey⟩
      · exact keys e he
      · exact ⟨k, hkey⟩
      · obtain ⟨f, hf, hfe⟩ := List.mem_map.1 hkey
        exact hfe ▸ keys f hf
    · intro e he
      rcases mem_setEntry he with he | ⟨rfl, -⟩
      · exact values e he
      · exact hvalue

end Value

namespace Json

/-! ### Numbers -/

/-- As many decimal digits as there are bound a number. -/
theorem ofDigits_lt (ds : List Nat) (h : ∀ d ∈ ds, d < 10) :
    Text.ofDigits ds < 10 ^ ds.length := by
  have hfold : ∀ n, ds.foldl (fun n d => 10 * n + d) n < (n + 1) * 10 ^ ds.length := by
    induction ds with
    | nil => intro n; simp
    | cons d ds ih =>
      intro n
      have hd := h d List.mem_cons_self
      calc ds.foldl (fun n d => 10 * n + d) (10 * n + d)
          < (10 * n + d + 1) * 10 ^ ds.length :=
            ih (fun e he => h e (List.mem_cons_of_mem d he)) _
        _ ≤ ((n + 1) * 10) * 10 ^ ds.length := Nat.mul_le_mul_right _ (by omega)
        _ = (n + 1) * 10 ^ (ds.length + 1) := by ring
  simpa [Text.ofDigits] using hfold 0

theorem digit_of_mem_spanDigits (cs : List Char) {c : Char} (h : c ∈ (spanDigits cs).1) :
    c.toNat - 48 < 10 := by
  rw [spanDigits, List.span_eq_takeWhile_dropWhile] at h
  have hc := List.mem_takeWhile_imp h
  simp only [Bool.and_eq_true, decide_eq_true_eq, Char.le_def, UInt32.le_iff_toNat_le] at hc
  have hlast : c.val.toNat ≤ 57 := hc.2
  have hval : c.toNat = c.val.toNat := rfl
  omega

theorem digitsValue_lt {cs : List Char} (hdigits : ∀ c ∈ cs, c.toNat - 48 < 10) {n : Nat}
    (hlength : cs.length ≤ n) : digitsValue cs < Text.leastBeyond n := by
  have hbound := ofDigits_lt (cs.map fun c => c.toNat - 48) (by simpa using hdigits)
  rw [List.length_map] at hbound
  exact lt_of_lt_of_le hbound (Nat.pow_le_pow_right (by decide) hlength)

/-- The value of digits that are not too many can be written out. -/
theorem isWritable_digitsValue {cs : List Char} (hdigits : ∀ c ∈ cs, c.toNat - 48 < 10)
    (hlength : cs.length ≤ Text.maxDigits) (negative : Bool) :
    Text.isWritable (if negative then -(digitsValue cs : Int) else digitsValue cs) = true := by
  have habs : (if negative then -(digitsValue cs : Int) else digitsValue cs).natAbs =
      digitsValue cs := by
    cases negative <;> simp
  rw [Text.isWritable, Text.writableBound, habs, decide_eq_true_eq]
  exact digitsValue_lt hdigits hlength

theorem isJson_of_readMagnitude {negative : Bool} {cs rest : List Char} {v : Value}
    (h : readMagnitude negative cs = .ok (v, rest)) : v.IsJson := by
  unfold readMagnitude at h
  split at h
  rename_i whole _ hwhole
  have hdigits : ∀ c ∈ whole, c.toNat - 48 < 10 := by
    intro c hc
    split at hwhole
    · cases hwhole
      obtain rfl := List.mem_singleton.1 hc
      decide
    · refine digit_of_mem_spanDigits cs ?_
      rwa [hwhole]
  split at h
  · cases h
  · simp only at h
    split at h
    · split at h
      · cases h
      · rename_i hlength
        cases h
        exact .int (isWritable_digitsValue hdigits (Nat.le_of_not_lt hlength) negative)
    · cases h
      exact .float _

theorem isJson_of_readAtom {cs rest : List Char} {v : Value} (h : readAtom cs = .ok (v, rest)) :
    v.IsJson := by
  unfold readAtom at h
  simp only at h
  split at h
  · rename_i answer hanswer
    cases h
    obtain ⟨⟨word, value⟩, hmem, hword⟩ := List.exists_of_findSome?_eq_some hanswer
    obtain ⟨rest', -, heq⟩ := Option.map_eq_some_iff.1 hword
    cases heq
    have hjson : ∀ e ∈ [("null", Value.null), ("true", .bool true), ("false", .bool false),
        ("NaN", .float .undefined), ("Infinity", .float (.infinite false)),
        ("-Infinity", .float (.infinite true))], e.2.IsJson := by
      simp [Value.IsJson.null, Value.IsJson.bool, Value.IsJson.float]
    exact hjson _ hmem
  · split at h
    · exact isJson_of_readMagnitude h
    · exact isJson_of_readMagnitude h

/-! ### Values -/

theorem isJson_nil : (Value.mapping []).IsJson := .mapping (by simp) .nil (by simp)

/-- Whatever is read with a bounded number of steps: a value, the items of a list, and the members
of an object onto members that were read before. -/
theorem isJson_of_readValue (fuel : Nat) :
    (∀ room cs v rest, readValue room fuel cs = .ok (v, rest) → v.IsJson) ∧
      (∀ room cs vs rest, readItems room fuel cs = .ok (vs, rest) → ∀ v ∈ vs, v.IsJson) ∧
      ∀ room before cs es rest, readMembers room fuel before cs = .ok (es, rest) →
        (Value.mapping before).IsJson → (Value.mapping es).IsJson := by
  induction fuel with
  | zero => simp [readValue, readItems, readMembers]
  | succ fuel ih =>
    obtain ⟨ihValue, ihItems, ihMembers⟩ := ih
    refine ⟨?value, ?items, ?members⟩
    case value =>
      intro room cs v rest h
      unfold readValue at h
      split at h
      · split at h
        · cases h
          exact .text _
        · cases h
      · obtain ⟨inside, -, h⟩ := bind_eq_ok.1 h
        split at h
        · cases h
          exact .list (by simp)
        · obtain ⟨⟨items, _⟩, hitems, h⟩ := bind_eq_ok.1 h
          cases h
          exact .list (ihItems _ _ _ _ hitems)
      · obtain ⟨inside, -, h⟩ := bind_eq_ok.1 h
        split at h
        · cases h
          exact isJson_nil
        · obtain ⟨⟨entries, _⟩, hentries, h⟩ := bind_eq_ok.1 h
          cases h
          exact ihMembers _ _ _ _ _ hentries isJson_nil
      · exact isJson_of_readAtom h
    case items =>
      intro room cs vs rest h
      unfold readItems at h
      obtain ⟨⟨item, after⟩, hitem, h⟩ := bind_eq_ok.1 h
      simp only at h
      split at h
      · cases h
        intro v hv
        obtain rfl := List.mem_singleton.1 hv
        exact ihValue _ _ _ _ hitem
      · obtain ⟨⟨items, _⟩, hitems, h⟩ := bind_eq_ok.1 h
        cases h
        intro v hv
        rcases List.mem_cons.1 hv with rfl | hmem
        · exact ihValue _ _ _ _ hitem
        · exact ihItems _ _ _ _ hitems v hmem
      · cases h
    case members =>
      intro room before cs es rest h hbefore
      unfold readMembers at h
      split at h
      · split at h
        · cases h
        · split at h
          · rename_i key _ _ _ _ _
            obtain ⟨⟨value, after⟩, hvalue, h⟩ := bind_eq_ok.1 h
            have hentries := hbefore.setEntry key (ihValue _ _ _ _ hvalue)
            simp only at h
            split at h
            · cases h
              exact hentries
            · exact ihMembers _ _ _ _ _ h hentries
            · cases h
          · cases h
      · cases h

/-- **The reader answers with values of JSON alone.** -/
theorem isJson_of_read {s : String} {v : Value} (h : read s = .ok v) : v.IsJson := by
  unfold read at h
  obtain ⟨⟨value, rest⟩, hvalue, h⟩ := bind_eq_ok.1 h
  simp only at h
  split at h
  · cases h
    exact (isJson_of_readValue _).1 _ _ _ _ hvalue
  · cases h

end Json

end PlayTrace
