import PlayTrace.Proofs.Number.Integers
import PlayTrace.Proofs.World.Sound

/-!
# Copies of a world

A copy is made anew from the parts of a world, with the checks that every world goes through when it
is made, and is then brought to the state of the original. A world that these checks leave as it is,
is the same world as its copy. Every sound world is such a world: its avatar is present, and the
direction it looks in is a pair of small integers, which no arithmetic rounds. So a copy that makes a
step shows what the world itself would come to.

## Main results

* `World.copy_eq` — a world that the checks leave as it is, is its own copy
* `World.Sound.copy_eq`, `World.Sound.advancedCopy_eq` — sound worlds can be copied
-/

namespace PlayTrace

/-- No arithmetic rounds the vector of a direction. -/
theorem Orientation.convert_ofDirection (d : Direction) (p : Precision) :
    (ofDirection d).convert p = .ok (ofDirection d) := by
  have hsmall : |d.step.1| < 2 ^ 53 ∧ |d.step.2| < 2 ^ 53 := by
    cases d <;> decide
  rw [convert, ofDirection, Precision.convert_ofInt fun _ => hsmall.1,
    Precision.convert_ofInt fun _ => hsmall.2]
  rfl

namespace World

variable {w : World} {a : Action}

theorem checked_eq (hcontains : w.sprites.contains w.avatarId = true)
    (hconvert : w.orientation.convert w.precision = .ok w.orientation) : w.checked = .ok w := by
  rw [checked, hcontains, hconvert]
  rfl

/-- Sprites are copied one by one. -/
theorem map_sprites (t : Table Int Sprite) : (t.map fun _ s => ⟨s.key, s.cell⟩) = t := by
  obtain ⟨entries, hnodup⟩ := t
  rw [Table.map, Table.mk.injEq]
  exact List.map_id entries

/-- **A world that the checks leave as it is, is its own copy.** -/
theorem copy_eq (hcontains : w.sprites.contains w.avatarId = true)
    (hconvert : w.orientation.convert w.precision = .ok w.orientation) : w.copy = .ok w := by
  have hmade := checked_eq
    (w := { w with tick := 0, won := false, ended := false, inventory := .empty })
    hcontains hconvert
  rw [copy, map_sprites, hmade]
  rfl

namespace Sound

variable (hw : Sound w)

include hw

theorem contains_avatarId : w.sprites.contains w.avatarId = true := by
  obtain ⟨s, hs⟩ := hw.avatar
  exact Table.contains_iff.2 (Table.mem_keys_iff.2 ⟨s, hs⟩)

theorem convert_orientation : w.orientation.convert w.precision = .ok w.orientation := by
  obtain ⟨d, hd⟩ := hw.faces
  rw [hd, Orientation.convert_ofDirection]

/-- **A sound world is its own copy.** -/
theorem copy_eq : w.copy = .ok w := World.copy_eq hw.contains_avatarId hw.convert_orientation

theorem advancedCopy_eq (a : Action) : w.advancedCopy a = .ok (w.advance a) := by
  rw [advancedCopy, hw.copy_eq]
  rfl

end Sound

end World

end PlayTrace
