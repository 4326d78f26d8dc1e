import PlayTrace.Proofs.World.Copy
import PlayTrace.Proofs.World.Places
import PlayTrace.Proofs.World.Start

/-!
# A level and the world it describes

A level is read row by row, a world is observed column by column, and in between the sprites go by
number. All three agree on what is in a cell: the keys that the legend gives the character there, in
the order in which it gives them. A game has its avatar once, so a single character brings it, and
the avatar's cell is the place of that character.

## Main definitions

* `GameTables.charAt?`, `GameTables.keysAt` — what a level has in a column and row
* `GameTables.layout` — the sprites of a level in the order in which it is read

## Main results

* `World.map_snd_entries_ofGame` — a game begins with the sprites of its level
* `World.keys_spritesAt_ofGame` — the keys in a cell
* `World.ofGame_shows_level` — level, world and observation
-/

namespace PlayTrace

namespace GameTables

variable {t : GameTables}

/-- The character of the level in column `x` and row `y`. -/
def charAt? (t : GameTables) (x y : Nat) : Option Char := t.level[y]?.bind fun row => row.toList[x]?

/-- The keys that the level has in column `x` and row `y`. -/
def keysAt (t : GameTables) (x y : Nat) : List String := ((t.charAt? x y).map t.keysOf).getD []

/-- The sprites of a level, row by row from left to right, and as the legend lists them. -/
def layout (t : GameTables) : List Sprite :=
  (List.range t.level.length).flatMap fun (y : Nat) =>
    (List.range t.width).flatMap fun (x : Nat) => (t.keysAt x y).map fun k => ⟨k, ⟨x, y⟩⟩

theorem charAt?_eq_some_iff {x y : Nat} {c : Char} :
    t.charAt? x y = some c ↔ ∃ row, t.level[y]? = some row ∧ row.toList[x]? = some c :=
  Option.bind_eq_some_iff

theorem mem_characters_of_charAt? {x y : Nat} {c : Char} (h : t.charAt? x y = some c) :
    c ∈ t.characters := by
  obtain ⟨row, hrow, hc⟩ := charAt?_eq_some_iff.1 h
  exact List.mem_flatMap.2 ⟨row, List.mem_of_getElem? hrow, List.mem_of_getElem? hc⟩

end GameTables

namespace Game

variable {g : Game} {x y : Nat} {c : Char}

theorem length_toList_of_mem_level (g : Game) {row : String} (h : row ∈ g.level) :
    row.toList.length = g.width := by
  rw [String.length_toList]
  exact g.wellDrawn.length_row row h

/-- The places of a level that have a character form a rectangle. -/
theorem exists_charAt?_iff : (∃ c, g.charAt? x y = some c) ↔ x < g.width ∧ y < g.level.length := by
  simp only [GameTables.charAt?_eq_some_iff]
  constructor
  · rintro ⟨c, row, hrow, hc⟩
    obtain ⟨hy, -⟩ := List.getElem?_eq_some_iff.1 hrow
    obtain ⟨hx, -⟩ := List.getElem?_eq_some_iff.1 hc
    rw [g.length_toList_of_mem_level (List.mem_of_getElem? hrow)] at hx
    exact ⟨hx, hy⟩
  · rintro ⟨hx, hy⟩
    have hlength := g.length_toList_of_mem_level (List.getElem_mem hy)
    refine ⟨g.level[y].toList[x], g.level[y], List.getElem?_eq_getElem hy, ?_⟩
    exact List.getElem?_eq_getElem (by omega)

/-- A character of the level stands for the keys that the legend gives it. -/
theorem legend_of_charAt? (h : g.charAt? x y = some c) : g.legend.get? c = some (g.keysAt x y) := by
  obtain ⟨keys, hkeys⟩ := g.exists_legend (GameTables.mem_characters_of_charAt? h)
  simp only [GameTables.keysAt, GameTables.keysOf, h, hkeys, Option.map_some, Option.getD_some]

theorem lt_of_mem_keysAt {k : String} (h : k ∈ g.keysAt x y) :
    x < g.width ∧ y < g.level.length := by
  rw [← exists_charAt?_iff]
  cases hc : g.charAt? x y with
  | none =>
    rw [GameTables.keysAt, hc] at h
    cases h
  | some c => exact ⟨c, rfl⟩

theorem mem_layout_iff {s : Sprite} :
    s ∈ g.layout ↔ ∃ x y : Nat, s.cell = ⟨x, y⟩ ∧ s.key ∈ g.keysAt x y := by
  simp only [GameTables.layout, List.mem_flatMap, List.mem_range, List.mem_map]
  constructor
  · rintro ⟨y, -, x, -, k, hk, rfl⟩
    exact ⟨x, y, rfl, hk⟩
  · rintro ⟨x, y, hcell, hk⟩
    obtain ⟨hx, hy⟩ := lt_of_mem_keysAt hk
    exact ⟨y, hy, x, hx, s.key, hk, by rw [← hcell]⟩

end Game

namespace World

variable {g : Game} {p : Precision}

/-! ### The sprites of a level -/

theorem number_eq_mapIdx (n : Nat) (ss : List Sprite) :
    number n ss = ss.mapIdx fun i s => (((n + i : Nat) : Int), s) := by
  induction ss generalizing n with
  | nil => rfl
  | cons s ss ih =>
    rw [number, ih, List.mapIdx_cons]
    simp only [Nat.add_zero, Nat.add_assoc, Nat.add_comm 1]

theorem flatMap_range_succ {α : Type} (f : Nat → List α) (n : Nat) :
    (List.range (n + 1)).flatMap f = f 0 ++ (List.range n).flatMap fun i => f (i + 1) := by
  rw [List.range_succ_eq_map, List.flatMap_cons, List.flatMap_map]

theorem rowSprites_eq (t : GameTables) (y x : Nat) (cs : List Char) :
    rowSprites t y x cs = (List.range cs.length).flatMap fun i =>
      ((cs[i]?.map t.keysOf).getD []).map fun k => ⟨k, ⟨(x + i : Nat), y⟩⟩ := by
  induction cs generalizing x with
  | nil => rfl
  | cons c cs ih =>
    rw [rowSprites, ih, List.length_cons, flatMap_range_succ]
    simp only [List.getElem?_cons_zero, List.getElem?_cons_succ, Option.map_some, Option.getD_some,
      Nat.add_zero, Nat.add_assoc, Nat.add_comm 1]

theorem levelSprites_eq (t : GameTables) (y : Nat) (rows : List String) :
    levelSprites t y rows = (List.range rows.length).flatMap fun j =>
      rowSprites t (y + j) 0 ((rows[j]?.map String.toList).getD []) := by
  induction rows generalizing y with
  | nil => rfl
  | cons row rows ih =>
    rw [levelSprites, ih, List.length_cons, flatMap_range_succ]
    simp only [List.getElem?_cons_zero, List.getElem?_cons_succ, Option.map_some, Option.getD_some,
      Nat.add_zero, Nat.add_assoc, Nat.add_comm 1]

/-- The sprites are laid out as the level shows them. -/
theorem levelSprites_eq_layout (g : Game) :
    levelSprites g.toGameTables 0 g.level = g.layout := by
  rw [levelSprites_eq, GameTables.layout]
  refine List.flatMap_congr fun y hy => ?_
  have hy := List.mem_range.1 hy
  have hrow := List.getElem?_eq_getElem hy
  have hlength := g.length_toList_of_mem_level (List.getElem_mem hy)
  simp only [rowSprites_eq, hrow, hlength, GameTables.keysAt, GameTables.charAt?, Option.map_some,
    Option.getD_some, Option.bind_some, Nat.zero_add]

/-- Sprites are numbered from zero on, in the order in which the level is read. -/
theorem entries_ofGame_eq_mapIdx (g : Game) (p : Precision) :
    (ofGame g p).sprites.entries = g.layout.mapIdx fun i s => ((i : Int), s) := by
  rw [entries_ofGame, numberedSprites, levelSprites_eq_layout, number_eq_mapIdx]
  simp only [Nat.zero_add]

/-- A game begins with the sprites of its level. -/
theorem map_snd_entries_ofGame (g : Game) (p : Precision) :
    (ofGame g p).sprites.entries.map Prod.snd = g.layout := by
  rw [entries_ofGame, numberedSprites, map_snd_number, levelSprites_eq_layout]

/-! ### The keys in a cell -/

/-- What only a single number of a range contributes to is its contribution. -/
theorem flatMap_range_eq {α : Type} {f : Nat → List α} {i n : Nat} (hi : i < n)
    (h : ∀ j, j ≠ i → f j = []) : (List.range n).flatMap f = f i := by
  induction n with
  | zero => exact absurd hi (Nat.not_lt_zero i)
  | succ n ih =>
    rw [List.range_succ, List.flatMap_append, List.flatMap_singleton]
    rcases Nat.lt_succ_iff_lt_or_eq.1 hi with hlt | rfl
    · rw [ih hlt, h n (Nat.ne_of_gt hlt), List.append_nil]
    · have hbefore : (List.range i).flatMap f = [] :=
        List.flatMap_eq_nil_iff.2 fun j hj => h j (Nat.ne_of_lt (List.mem_range.1 hj))
      rw [hbefore, List.nil_append]

/-- The sprites of a level that stand in a cell. -/
theorem filter_cell_layout {x y : Nat} (hx : x < g.width) (hy : y < g.level.length) :
    g.layout.filter (fun s => s.cell = ⟨x, y⟩) = (g.keysAt x y).map fun k => ⟨k, ⟨x, y⟩⟩ := by
  have hcell : ∀ x' y' : Nat,
      (((g.keysAt x' y').map fun k => (⟨k, ⟨x', y'⟩⟩ : Sprite)).filter fun s => s.cell = ⟨x, y⟩) =
        if x' = x ∧ y' = y then (g.keysAt x' y').map fun k => ⟨k, ⟨x', y'⟩⟩ else [] := by
    intro x' y'
    split
    · rename_i heq
      obtain ⟨rfl, rfl⟩ := heq
      exact List.filter_eq_self.2 (by simp)
    · rename_i hne
      refine List.filter_eq_nil_iff.2 ?_
      simp only [List.mem_map, decide_eq_true_eq]
      rintro _ ⟨k, -, rfl⟩ h
      exact hne (by simpa using h)
  simp only [GameTables.layout, List.filter_flatMap, hcell]
  -- Row `y` alone contributes, and in it column `x` alone.
  rw [flatMap_range_eq hy, flatMap_range_eq hx]
  · simp
  · exact fun x' hne => if_neg fun h => hne h.1
  · exact fun y' hne => List.flatMap_eq_nil_iff.2 fun x' _ => if_neg fun h => hne h.2

/-- **The keys in a cell** are those of the level. -/
theorem keys_spritesAt_ofGame (g : Game) (p : Precision) {x y : Nat} (hx : x < g.width)
    (hy : y < g.level.length) :
    ((ofGame g p).spritesAt ⟨x, y⟩).map (fun e => e.2.key) = g.keysAt x y := by
  have hsprites : ((ofGame g p).spritesAt ⟨x, y⟩).map Prod.snd =
      g.layout.filter fun s => s.cell = ⟨x, y⟩ := by
    rw [← map_snd_entries_ofGame g p, List.filter_map]
    rfl
  have hkeys : ((ofGame g p).spritesAt ⟨x, y⟩).map (fun e => e.2.key) =
      (((ofGame g p).spritesAt ⟨x, y⟩).map Prod.snd).map Sprite.key := by
    rw [List.map_map]
    rfl
  rw [hkeys, hsprites, filter_cell_layout hx hy, List.map_map]
  exact List.map_id _

theorem seen_ofGame (g : Game) (p : Precision) :
    (ofGame g p).seen = (List.range g.width).map fun x =>
      (List.range g.level.length).map fun y => g.keysAt x y := by
  refine List.map_congr_left fun x hx => List.map_congr_left fun y hy => ?_
  exact keys_spritesAt_ofGame g p (List.mem_range.1 hx) (List.mem_range.1 hy)

/-! ### The avatar -/

/-- The avatar of a game stands in a cell of the level, and no other sprite has its key. -/
theorem filter_avatarKey_ofGame (g : Game) (p : Precision) :
    ∃ x y : Nat, (ofGame g p).avatar? = some ⟨g.avatarKey, ⟨x, y⟩⟩ ∧
      (ofGame g p).sprites.entries.filter (fun e => e.2.key = g.avatarKey) =
        [((ofGame g p).avatarId, ⟨g.avatarKey, ⟨x, y⟩⟩)] := by
  obtain ⟨⟨key, x, y⟩, hs, rfl⟩ := exists_avatar_ofGame g p
  have hmem : ((ofGame g p).avatarId, ⟨g.avatarKey, ⟨x, y⟩⟩) ∈
      (ofGame g p).sprites.entries.filter fun e => e.2.key = g.avatarKey :=
    List.mem_filter.2 ⟨mem_entries_of_avatar? hs, decide_eq_true rfl⟩
  have hone := keyCount_avatarKey_ofGame g p
  rw [keyCount, List.countP_eq_length_filter, List.length_eq_one_iff] at hone
  obtain ⟨e, he⟩ := hone
  rw [he, List.mem_singleton] at hmem
  obtain ⟨⟨hx, -⟩, hy, -⟩ :=
    inBounds_iff.1 ((sound_ofGame g p).inside _ (mem_entries_of_avatar? hs))
  refine ⟨x.toNat, y.toNat, ?_, ?_⟩
  · rw [Int.toNat_of_nonneg hx, Int.toNat_of_nonneg hy, hs]
  · rw [Int.toNat_of_nonneg hx, Int.toNat_of_nonneg hy, he, hmem]

/-- The level has the key of the avatar in the avatar's cell, and nowhere else. -/
theorem avatarKey_mem_keysAt_iff {n : Int} {x y x' y' : Nat}
    (h : (ofGame g p).sprites.entries.filter (fun e => e.2.key = g.avatarKey) =
      [(n, ⟨g.avatarKey, ⟨x, y⟩⟩)]) :
    g.avatarKey ∈ g.keysAt x' y' ↔ x' = x ∧ y' = y := by
  have honly : g.layout.filter (fun s => s.key = g.avatarKey) = [⟨g.avatarKey, ⟨x, y⟩⟩] := by
    rw [← map_snd_entries_ofGame g p, List.filter_map]
    exact congrArg (List.map Prod.snd) h
  have hmem : ∀ s : Sprite, s ∈ g.layout ∧ s.key = g.avatarKey ↔ s = ⟨g.avatarKey, ⟨x, y⟩⟩ := by
    intro s
    have hiff := congrArg (s ∈ ·) honly
    simpa only [List.mem_filter, decide_eq_true_eq, List.mem_singleton, eq_iff_iff] using hiff
  constructor
  · -- A second cell with the key would bring a second sprite with it.
    intro hk
    have heq := (hmem ⟨g.avatarKey, ⟨x', y'⟩⟩).1 ⟨Game.mem_layout_iff.2 ⟨x', y', rfl, hk⟩, rfl⟩
    simpa using heq
  · rintro ⟨rfl, rfl⟩
    obtain ⟨x, y, hcell, hk⟩ := Game.mem_layout_iff.1 ((hmem _).2 rfl).1
    rw [Cell.mk.injEq, Int.ofNat_inj, Int.ofNat_inj] at hcell
    rwa [hcell.1, hcell.2]

/-- The world of a game has an avatar, and no precision changes where it looks. -/
theorem checked_ofGame (g : Game) (p : Precision) : (ofGame g p).checked = .ok (ofGame g p) := by
  have hw := sound_ofGame g p
  exact checked_eq hw.contains_avatarId hw.convert_orientation

/-! ### Level, world and observation -/

/-- **Level, world and observation agree.** The world of a game is as wide and as high as the level,
and its sprites are those of the level, numbered from zero on as the level is read. What it shows in
column `x` and row `y` are the keys that the legend gives the character in row `y` and column `x`,
in order. A single sprite has the key of the avatar, the number of the avatar is that sprite's, and
the avatar's cell is the one place whose character brings the avatar: by exact arithmetic, and by
any arithmetic that has numbers for the pixels of the world. -/
theorem ofGame_shows_level (g : Game) (p : Precision) :
    (ofGame g p).checked = .ok (ofGame g p) ∧
    ((ofGame g p).width = g.width ∧ (ofGame g p).height = g.level.length ∧
      ∀ row ∈ g.level, row.length = g.width) ∧
    (ofGame g p).sprites.entries = g.layout.mapIdx (fun i s => ((i : Int), s)) ∧
    (∃ o, (ofGame g p).observation = .ok o ∧ o.length = g.width ∧
      (∀ column ∈ o, column.length = g.level.length) ∧
      ∀ x < g.width, ∀ y < g.level.length, ∃ c, g.charAt? x y = some c ∧
        g.legend.get? c = some (g.keysAt x y) ∧
        (o[x]?.bind fun column => column[y]?) = some (g.keysAt x y)) ∧
    ∃ x y : Nat,
      (ofGame g p).sprites.entries.filter (fun e => e.2.key = g.avatarKey) =
        [((ofGame g p).avatarId, ⟨g.avatarKey, ⟨x, y⟩⟩)] ∧
      (∀ x' y', g.avatarKey ∈ g.keysAt x' y' ↔ x' = x ∧ y' = y) ∧
      (ofGame g .exact).avatarCell = .ok ⟨x, y⟩ ∧
      ((ofGame g p).Resolved → (ofGame g p).avatarCell = .ok ⟨x, y⟩) := by
  refine ⟨checked_ofGame g p, ⟨rfl, rfl, g.wellDrawn.length_row⟩,
    entries_ofGame_eq_mapIdx g p, ⟨_, (sound_ofGame g p).observation_eq, ?_⟩, ?_⟩
  · rw [seen_ofGame]
    refine ⟨by simp, by simp, fun x hx y hy => ?_⟩
    obtain ⟨c, hc⟩ := Game.exists_charAt?_iff.2 ⟨hx, hy⟩
    refine ⟨c, hc, Game.legend_of_charAt? hc, ?_⟩
    simp [hx, hy]
  · obtain ⟨x, y, hs, hfilter⟩ := filter_avatarKey_ofGame g p
    exact ⟨x, y, hfilter, fun _ _ => avatarKey_mem_keysAt_iff hfilter,
      (sound_ofGame g .exact).avatarCell_exact rfl hs,
      fun hr => (sound_ofGame g p).avatarCell_eq hr hs⟩

/-- A level that is wider than high, with several sprites to a cell. -/
def hallTables : GameTables where
  level := ["#A.", "..G"]
  legend := .ofList [('#', ["floor", "wall"]), ('A', ["floor", "avatar"]), ('.', []),
    ('G', ["gem", "floor", "gem"])]
  resources := ["gem"]
  solids := ["wall"]
  goals := []
  avatarKey := "avatar"
  orientation := .down
  rotateInPlace := false
  maxSteps := 1

/-- The game of a hall. -/
def hall : Game := ⟨hallTables, by decide +kernel⟩

theorem ofGame_shows_level_hall :
    (ofGame hall .binary64).Resolved ∧ (ofGame hall .binary64).avatarCell = .ok ⟨1, 0⟩ ∧
      ∃ o, (ofGame hall .binary64).observation = .ok o ∧
        (o[2]?.bind fun column => column[1]?) = some ["gem", "floor", "gem"] := by
  have hresolved : (ofGame hall .binary64).Resolved := fun _ => by decide
  obtain ⟨-, -, -, ⟨o, ho, -, -, hshown⟩, x, y, -, hplace, -, hcell⟩ :=
    ofGame_shows_level hall .binary64
  obtain ⟨rfl, rfl⟩ := (hplace 1 0).1 (by decide)
  obtain ⟨c, -, -, hkeys⟩ := hshown 2 (by decide) 1 (by decide)
  refine ⟨hresolved, hcell hresolved, o, ho, hkeys.trans ?_⟩
  decide

end World

end PlayTrace
