import PlayTrace.Proofs.World.Sound

/-!
# The world a game begins with

Each character of a level becomes the sprites of its keys, row by row, numbered as they come. So the
sprites stand in the order of their numbers, each of them lies inside the level, and counting the
sprites of a key is counting the key over the characters of the level. A game holds its avatar
exactly once; hence the world it begins with has one, and it is sound.

## Main definitions

* `GameTables.WellDrawn` — what is known of the level of a game

## Main results

* `GameTables.levelFault?_eq_none_iff` — the checks of a level
* `World.entries_ofGame` — the sprites at the beginning
* `World.sound_ofGame` — a game begins with a sound world
* `World.remaining_ofGame` — and with its number of steps to go
-/

namespace PlayTrace

theorem ite_some_eq_none_iff {α : Type} {c : Prop} [Decidable c] {a : α} {x : Option α} :
    (if c then some a else x) = none ↔ ¬ c ∧ x = none := by
  split <;> simp_all

/-! ### Levels -/

namespace GameTables

/-- A level that is a rectangle of known characters, and holds the avatar once. -/
structure WellDrawn (t : GameTables) : Prop where
  level_ne_nil : t.level ≠ []
  width_ne_zero : t.width ≠ 0
  length_row : ∀ row ∈ t.level, row.length = t.width
  unknown_eq_nil : t.unknown = []
  avatarCount_eq_one : t.avatarCount = 1

/-- **What the checks of a level look for.** -/
theorem levelFault?_eq_none_iff {t : GameTables} : t.levelFault? = none ↔ t.WellDrawn := by
  simp only [levelFault?, ite_some_eq_none_iff]
  constructor
  · rintro ⟨hrows, hwidth, heven, hknown, hcount, -⟩
    exact ⟨by simpa using hrows, hwidth, by simpa using heven, by simpa using hknown,
      by simpa using hcount⟩
  · intro h
    exact ⟨by simpa using h.level_ne_nil, h.width_ne_zero, by simpa using h.length_row,
      by simpa using h.unknown_eq_nil, by simpa using h.avatarCount_eq_one, trivial⟩

end GameTables

namespace Game

variable (g : Game)

theorem wellDrawn : g.WellDrawn := GameTables.levelFault?_eq_none_iff.1 g.levelFault?_eq_none

/-- The legend knows every character of the level. -/
theorem exists_legend {c : Char} (h : c ∈ g.characters) : ∃ keys, g.legend.get? c = some keys := by
  rw [← Table.mem_keys_iff, ← Table.contains_iff]
  by_contra hmissing
  have hmem : c ∈ g.unknown := by
    rw [GameTables.unknown, List.mem_mergeSort, List.mem_eraseDups, List.mem_filter]
    exact ⟨h, by rw [Bool.eq_false_iff.2 hmissing]; rfl⟩
  rw [g.wellDrawn.unknown_eq_nil] at hmem
  cases hmem

end Game

namespace World

variable {g : GameTables} {s : Sprite} {x y n : Nat}

/-! ### Numbers -/

theorem le_of_mem_number {ss : List Sprite} {e : Int × Sprite} (h : e ∈ number n ss) :
    (n : Int) ≤ e.1 := by
  induction ss generalizing n with
  | nil => cases h
  | cons s ss ih =>
    rcases List.mem_cons.1 h with rfl | h
    · exact Int.le_refl _
    · have hle := ih h
      push_cast at hle
      omega

theorem pairwise_number (n : Nat) (ss : List Sprite) :
    (number n ss).Pairwise fun e f => e.1 < f.1 := by
  induction ss generalizing n with
  | nil => exact .nil
  | cons s ss ih =>
    refine .cons (fun f hf => ?_) (ih (n + 1))
    have hle := le_of_mem_number hf
    push_cast at hle
    show (n : Int) < f.1
    omega

theorem map_snd_number (n : Nat) (ss : List Sprite) : (number n ss).map Prod.snd = ss := by
  induction ss generalizing n with
  | nil => rfl
  | cons s ss ih => rw [number, List.map_cons, ih]

/-- The numbers of sprites are distinct, so no sprite is lost. -/
theorem entries_ofGame (g : Game) (p : Precision) :
    (ofGame g p).sprites.entries = numberedSprites g.toGameTables := by
  refine Table.entries_ofList (List.pairwise_map.2 ?_)
  exact (pairwise_number _ _).imp Int.ne_of_lt

/-! ### Places -/

theorem cell_of_mem_rowSprites {cs : List Char} (h : s ∈ rowSprites g y x cs) :
    (x : Int) ≤ s.cell.x ∧ s.cell.x < x + cs.length ∧ s.cell.y = y := by
  induction cs generalizing x with
  | nil => cases h
  | cons c cs ih =>
    rw [List.length_cons]
    rcases List.mem_append.1 h with h | h
    · obtain ⟨k, -, rfl⟩ := List.mem_map.1 h
      push_cast
      exact ⟨Int.le_refl _, by omega, rfl⟩
    · obtain ⟨hle, hlt, hy⟩ := ih h
      push_cast at hle hlt ⊢
      exact ⟨by omega, by omega, hy⟩

theorem cell_of_mem_levelSprites {rows : List String} (hrows : ∀ row ∈ rows, row.length = n)
    (h : s ∈ levelSprites g y rows) :
    0 ≤ s.cell.x ∧ s.cell.x < n ∧ (y : Int) ≤ s.cell.y ∧ s.cell.y < y + rows.length := by
  induction rows generalizing y with
  | nil => cases h
  | cons row rows ih =>
    rw [List.length_cons]
    rcases List.mem_append.1 h with h | h
    · obtain ⟨hle, hlt, hy⟩ := cell_of_mem_rowSprites h
      rw [String.length_toList, hrows row List.mem_cons_self] at hlt
      push_cast at hle hlt ⊢
      exact ⟨hle, by omega, by omega, by omega⟩
    · obtain ⟨hle, hlt, hy, hy'⟩ := ih (fun r hr => hrows r (List.mem_cons_of_mem row hr)) h
      push_cast at hy hy' ⊢
      exact ⟨hle, hlt, by omega, by omega⟩

/-! ### Keys -/

theorem countP_rowSprites (g : GameTables) (key : String) (y x : Nat) (cs : List Char) :
    ((rowSprites g y x cs).countP fun s => s.key = key) =
      (cs.flatMap g.keysOf).count key := by
  induction cs generalizing x with
  | nil => rfl
  | cons c cs ih =>
    rw [rowSprites, List.countP_append, ih, List.flatMap_cons, List.count_append, List.countP_map]
    rfl

theorem countP_levelSprites (g : GameTables) (key : String) (y : Nat) (rows : List String) :
    ((levelSprites g y rows).countP fun s => s.key = key) =
      ((rows.flatMap String.toList).flatMap g.keysOf).count key := by
  induction rows generalizing y with
  | nil => rfl
  | cons row rows ih =>
    rw [levelSprites, List.countP_append, countP_rowSprites, ih, List.flatMap_cons,
      List.flatMap_append, List.count_append]

/-- At the beginning there are as many sprites of a key as the level says. -/
theorem keyCount_ofGame (g : Game) (p : Precision) (key : String) :
    (ofGame g p).keyCount key = (g.characters.flatMap g.keysOf).count key := by
  have hcount := countP_levelSprites g.toGameTables key 0 g.level
  rw [keyCount, entries_ofGame]
  rw [← map_snd_number 0 (levelSprites g.toGameTables 0 g.level), List.countP_map] at hcount
  exact hcount

/-- A game has its avatar once. -/
theorem keyCount_avatarKey_ofGame (g : Game) (p : Precision) :
    (ofGame g p).keyCount g.avatarKey = 1 := by
  rw [keyCount_ofGame]
  exact g.wellDrawn.avatarCount_eq_one

/-- The avatar is the last sprite with its key, and there is one. -/
theorem exists_avatar_ofGame (g : Game) (p : Precision) :
    ∃ s, (ofGame g p).avatar? = some s ∧ s.key = g.avatarKey := by
  have hcount : 0 < (ofGame g p).keyCount g.avatarKey := by
    rw [keyCount_avatarKey_ofGame]
    exact Nat.one_pos
  rw [keyCount, List.countP_pos_iff, entries_ofGame] at hcount
  have hrev : ∀ q : Int × Sprite → Bool, (numberedSprites g.toGameTables).findRev? q =
      (numberedSprites g.toGameTables).reverse.find? q := by
    intro q
    rw [List.findRev?_eq_findRev?TR, List.findRev?TR]
  cases hfind : (numberedSprites g.toGameTables).findRev? fun e => e.2.key = g.avatarKey with
  | none =>
    rw [hrev, List.find?_eq_none] at hfind
    obtain ⟨e, he, hkey⟩ := hcount
    exact absurd hkey (hfind e (List.mem_reverse.2 he))
  | some e =>
    have hid : (ofGame g p).avatarId = e.1 := by
      simp only [ofGame, hfind, Option.map_some, Option.getD_some]
    rw [hrev] at hfind
    have hmem : e ∈ (ofGame g p).sprites.entries := by
      rw [entries_ofGame]
      exact List.mem_reverse.1 (List.mem_of_find?_eq_some hfind)
    refine ⟨e.2, ?_, by simpa using List.find?_some hfind⟩
    rw [avatar?, hid, Table.get?_eq_some_iff]
    exact hmem

/-! ### The beginning -/

/-- **A game begins with a sound world.** -/
theorem sound_ofGame (g : Game) (p : Precision) : Sound (ofGame g p) := by
  have hdrawn := g.wellDrawn
  refine ⟨?_, ?_, rfl, (exists_avatar_ofGame g p).imp fun _ => And.left, ?_, ?_, ⟨_, rfl⟩⟩
  · exact Int.natCast_pos.2 (Nat.pos_of_ne_zero hdrawn.width_ne_zero)
  · exact Int.natCast_pos.2 (List.length_pos_iff.2 hdrawn.level_ne_nil)
  · intro e he
    rw [entries_ofGame] at he
    have hmem : e.2 ∈ levelSprites g.toGameTables 0 g.level := by
      rw [← map_snd_number 0 (levelSprites g.toGameTables 0 g.level)]
      exact List.mem_map_of_mem he
    obtain ⟨hx, hx', hy, hy'⟩ := cell_of_mem_levelSprites hdrawn.length_row hmem
    rw [Int.natCast_zero] at hy hy'
    rw [Int.zero_add] at hy'
    simp only [inBounds, Bool.and_eq_true, decide_eq_true_eq]
    exact ⟨⟨⟨hx, hx'⟩, hy⟩, hy'⟩
  · rw [entries_ofGame]
    exact pairwise_number _ _

theorem held_ofGame (g : Game) (p : Precision) (key : String) : (ofGame g p).held key = 0 := rfl

/-- A game has its number of steps to go. -/
theorem remaining_ofGame (g : Game) (p : Precision) :
    (ofGame g p).remaining = g.maxSteps.toNat := by
  have hmax := g.one_le_maxSteps
  simp only [remaining, ofGame, Bool.false_eq_true, if_false]
  omega

end World

end PlayTrace
