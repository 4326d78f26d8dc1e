import PlayTrace.Proofs.Template.Words

/-!
# Objects told by their names

A placeholder is a mark with a name behind it, so the name gives it away. The objects of a
placeholder at cells are called by that name and two coordinates, and so they give away the
placeholder and the cell; in capitals they give away the cell, and the placeholder but for capitals.
An object that is the only one of its placeholder is called by the name alone. It shares that with an
object at a cell only if its placeholder is spelled with the coordinates at its end.

## Main results

* `Template.name_atCell_inj_of_isPlaceholder` — the name of an object at a cell
* `Template.upper_name_atCell_inj` — the name in capitals
* `Template.name_singleton_eq_iff` — the name of an object without a cell
-/

namespace PlayTrace

namespace Text

/-! ### Capitals of ASCII -/

theorem flatMap_capital_of_ascii {cs : List Char} (h : ∀ c ∈ cs, c.toNat < 128) :
    cs.flatMap capital = cs.map Char.toUpper := by
  rw [List.map_eq_flatMap]
  exact List.flatMap_congr fun c hc => if_pos (h c hc)

theorem capital_ofNat_of_isDigit : ∀ n < 128, (Char.ofNat n).isDigit = true →
    capital (Char.ofNat n) = [Char.ofNat n] := by
  decide +kernel

/-- A number has no capitals. -/
theorem flatMap_capital_toString (n : Int) :
    (toString n).toList.flatMap capital = (toString n).toList := by
  have hself : ∀ c ∈ (toString n).toList, capital c = [c] := by
    intro c hc
    rcases isDigit_or_eq_of_mem_toString hc with hdigit | rfl
    · exact forall_ascii (p := fun c => c.isDigit = true → capital c = [c])
        capital_ofNat_of_isDigit (toNat_lt_of_isDigit hdigit) hdigit
    · rfl
  rw [List.flatMap_congr hself, List.flatMap_singleton']

/-- Texts that are the same in capitals are the same in small letters. -/
theorem map_toUpper_inj {cs cs' : List Char} :
    cs.map Char.toUpper = cs'.map Char.toUpper ↔ cs.map Char.toLower = cs'.map Char.toLower := by
  have hlower (ds : List Char) : (ds.map Char.toUpper).map Char.toLower = ds.map Char.toLower := by
    rw [List.map_map]
    exact List.map_congr_left fun d _ => Char.toLower_toUpper_eq_toLower d
  have hupper (ds : List Char) : (ds.map Char.toLower).map Char.toUpper = ds.map Char.toUpper := by
    rw [List.map_map]
    exact List.map_congr_left fun d _ => Char.toUpper_toLower_eq_toUpper d
  constructor
  · intro h
    rw [← hlower, h, hlower]
  · intro h
    rw [← hupper, h, hupper]

end Text

open Text

namespace Template

variable {v v' a type type' : String} {x y x' y' : Int}

/-! ### Placeholders -/

theorem toList_of_isPlaceholder (h : isPlaceholder v = true) :
    v.toList = variableMark :: (stripMark v).toList := by
  obtain ⟨c, cs, hv, hname, -⟩ := exists_stripMark_eq h
  rw [hv, hname]

theorem stripMark_inj (h : isPlaceholder v = true) (h' : isPlaceholder v' = true) :
    stripMark v = stripMark v' ↔ v = v' := by
  rw [← String.toList_inj, ← String.toList_inj, toList_of_isPlaceholder h,
    toList_of_isPlaceholder h', List.cons_inj_right]

theorem toNat_lt_of_mem_stripMark (h : isPlaceholder v = true) {c : Char}
    (hc : c ∈ (stripMark v).toList) : c.toNat < 128 := by
  obtain ⟨d, ds, -, hname, hchars⟩ := exists_stripMark_eq h
  exact toNat_lt_of_isNameCharacter (hchars c (hname ▸ hc))

theorem lowerAscii_inj (h : isPlaceholder v = true) (h' : isPlaceholder v' = true) :
    lowerAscii v = lowerAscii v' ↔
      (stripMark v).toList.map Char.toLower = (stripMark v').toList.map Char.toLower := by
  rw [← String.toList_inj, lowerAscii, lowerAscii, String.toList_map, String.toList_map,
    toList_of_isPlaceholder h, toList_of_isPlaceholder h', List.map_cons, List.map_cons,
    List.cons_inj_right]

/-! ### Names of objects -/

/-- **The name of an object at a cell** gives away the placeholder and the cell. -/
theorem name_atCell_inj_of_isPlaceholder (h : isPlaceholder v = true)
    (h' : isPlaceholder v' = true) :
    (Object.atCell v type x y).name = (Object.atCell v' type' x' y').name ↔
      v = v' ∧ x = x' ∧ y = y' := by
  rw [Object.name_atCell_inj, stripMark_inj h h']

theorem toList_upper_name_atCell (h : isPlaceholder v = true) :
    (upper (Object.atCell v type x y).name).toList = (stripMark v).toList.map Char.toUpper ++
      '_' :: ((toString x).toList ++ '_' :: (toString y).toList) := by
  have hunderscore : capital '_' = ['_'] := rfl
  rw [toList_upper, Object.toList_name_atCell, List.flatMap_append, List.flatMap_cons,
    List.flatMap_append, List.flatMap_cons, flatMap_capital_toString, flatMap_capital_toString,
    hunderscore, flatMap_capital_of_ascii fun c hc => toNat_lt_of_mem_stripMark h hc]
  rfl

/-- **In capitals** the name gives away the placeholder but for capitals, and the cell. -/
theorem upper_name_atCell_inj (h : isPlaceholder v = true) (h' : isPlaceholder v' = true) :
    upper (Object.atCell v type x y).name = upper (Object.atCell v' type' x' y').name ↔
      lowerAscii v = lowerAscii v' ∧ x = x' ∧ y = y' := by
  rw [← String.toList_inj, toList_upper_name_atCell h, toList_upper_name_atCell h',
    append_coordinates_inj, map_toUpper_inj, lowerAscii_inj h h']

/-- **An object without a cell** is called like one at a cell only if its placeholder is spelled
with the cell. -/
theorem name_singleton_eq_iff (ha : isPlaceholder a = true) (h : isPlaceholder v = true) :
    (Object.singleton a type).name = (Object.atCell v type' x y).name ↔ a = s!"{v}_{x}_{y}" := by
  have hspelled : (s!"{v}_{x}_{y}").toList =
      variableMark :: (Object.atCell v type' x y).name.toList := by
    rw [Object.toList_name_atCell, ← List.cons_append, ← toList_of_isPlaceholder h]
    simp only [String.toList_append, List.append_assoc]
    rfl
  rw [← String.toList_inj, ← String.toList_inj, hspelled, toList_of_isPlaceholder ha,
    List.cons_inj_right]
  rfl

end Template

end PlayTrace
