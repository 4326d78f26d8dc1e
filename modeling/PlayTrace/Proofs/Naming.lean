import Mathlib
import PlayTrace.Atom

/-!
# The names of objects at cells

An object at a cell is called by its variable, without the mark, and by the column and the row of
the cell, with an underscore before each. A variable may have underscores of its own, but a number
has none, so the name can be taken apart from its end: it gives away the row, then the column, then
what is left of the variable.

## Main results

* `Object.name_atCell_inj` — two names are equal only for the same variable at the same cell
-/

namespace PlayTrace

/-! ### Parts of a text -/

/-- What stands behind the last separator of a text, and what stands in front of it. -/
theorem append_cons_inj_of_not_mem {α : Type} {sep : α} {front front' back back' : List α}
    (h : sep ∉ back) (h' : sep ∉ back') :
    front ++ sep :: back = front' ++ sep :: back' ↔ front = front' ∧ back = back' := by
  constructor
  · intro heq
    rcases List.append_eq_append_iff.1 heq with ⟨gap, hfront, hback⟩ | ⟨gap, hfront, hback⟩
    · cases gap with
      | nil => exact ⟨by simpa using hfront.symm, (List.cons.inj hback).2⟩
      | cons c gap =>
        obtain ⟨-, hback⟩ := List.cons.inj hback
        exact absurd (hback ▸ List.mem_append_right gap List.mem_cons_self) h
    · cases gap with
      | nil => exact ⟨by simpa using hfront, (List.cons.inj hback).2.symm⟩
      | cons c gap =>
        obtain ⟨-, hback⟩ := List.cons.inj hback
        exact absurd (hback ▸ List.mem_append_right gap List.mem_cons_self) h'
  · rintro ⟨rfl, rfl⟩
    rfl

/-- A number as text has digits in it and at most a sign. -/
theorem isDigit_or_eq_of_mem_toString {n : Int} {c : Char} (h : c ∈ (toString n).toList) :
    c.isDigit = true ∨ c = '-' := by
  have hdigits (m : Nat) (hc : c ∈ m.repr.toList) : c.isDigit = true := by
    rw [Nat.toList_repr] at hc
    exact Nat.isDigit_of_mem_toDigits (by decide) (by decide) hc
  rw [Int.toString_eq_repr, Int.repr_eq_if] at h
  split at h
  · exact .inl (hdigits _ h)
  · rcases List.mem_append.1 (String.toList_append ▸ h) with hsign | hc
    · exact .inr (List.mem_singleton.1 hsign)
    · exact .inl (hdigits _ hc)

theorem underscore_not_mem_toString (n : Int) : '_' ∉ (toString n).toList := fun h =>
  (isDigit_or_eq_of_mem_toString h).elim (by decide) (by decide)

theorem toList_toString_inj {m n : Int} : (toString m).toList = (toString n).toList ↔ m = n := by
  rw [String.toList_inj, Int.toString_eq_repr, Int.toString_eq_repr, Int.repr_inj]

/-- What stands in front of two coordinates, and the coordinates. -/
theorem append_coordinates_inj {front front' : List Char} {x y x' y' : Int} :
    front ++ '_' :: ((toString x).toList ++ '_' :: (toString y).toList) =
        front' ++ '_' :: ((toString x').toList ++ '_' :: (toString y').toList) ↔
      front = front' ∧ x = x' ∧ y = y' := by
  have hsplit (cs : List Char) (x y : Int) :
      cs ++ '_' :: ((toString x).toList ++ '_' :: (toString y).toList) =
        (cs ++ '_' :: (toString x).toList) ++ '_' :: (toString y).toList := by
    rw [List.append_assoc, List.cons_append]
  rw [hsplit, hsplit,
    append_cons_inj_of_not_mem (underscore_not_mem_toString y) (underscore_not_mem_toString y'),
    append_cons_inj_of_not_mem (underscore_not_mem_toString x) (underscore_not_mem_toString x'),
    toList_toString_inj, toList_toString_inj, and_assoc]

/-! ### Names -/

namespace Object

theorem toList_name_atCell (v type : String) (x y : Int) :
    (atCell v type x y).name.toList =
      (stripMark v).toList ++ '_' :: ((toString x).toList ++ '_' :: (toString y).toList) := by
  simp only [atCell, String.toList_append, List.append_assoc]
  rfl

/-- **The name of an object at a cell** gives away the variable, but for its mark, and the cell. -/
theorem name_atCell_inj {v v' type type' : String} {x y x' y' : Int} :
    (atCell v type x y).name = (atCell v' type' x' y').name ↔
      stripMark v = stripMark v' ∧ x = x' ∧ y = y' := by
  rw [← String.toList_inj, toList_name_atCell, toList_name_atCell, append_coordinates_inj,
    String.toList_inj]

end Object

end PlayTrace
