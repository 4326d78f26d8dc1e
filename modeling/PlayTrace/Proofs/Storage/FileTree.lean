import Mathlib.Data.List.Basic
import PlayTrace.Storage.FileTree

/-!
# A tree that results are kept in

A directory that results are kept in has directories for the kinds of results, and these hold the
files. In a file tree in which there is nothing else, such directories can always be made and such
files can always be written, as long as their names are not too long: no file is in the way of a
directory, and no directory is in the way of a file.

## Main definitions

* `FileTree.IsPlain` — a name that leads one step down
* `FileTree.Keeps` — a tree with files in the directories of one directory only

## Main results

* `FileTree.Keeps.makeDirectory`, `FileTree.Keeps.write` — what can be done to such a tree
* `FileTree.content?_put` — what a file holds after another one, or the same, was written
-/

namespace PlayTrace

namespace FileTree

/-- A name that leads one step down from every place, and that is not too long. -/
structure IsPlain (s : String) : Prop where
  ne_parentName : s ≠ parentName
  ne_rootName : s ≠ rootName
  size_le : s.utf8ByteSize ≤ maxStepSize

instance (s : String) : Decidable (IsPlain s) :=
  decidable_of_iff (s ≠ parentName ∧ s ≠ rootName ∧ s.utf8ByteSize ≤ maxStepSize)
    ⟨fun h => ⟨h.1, h.2.1, h.2.2⟩, fun h => ⟨h.ne_parentName, h.ne_rootName, h.size_le⟩⟩

theorem IsPlain.enter_eq {s : String} (h : IsPlain s) (place : List String) :
    enter place s = place ++ [s] := if_pos h.ne_parentName

/-! ### Files -/

section Files

variable {files : List (List String × Content)} {place : List String} {c : Content}

theorem mem_put {f : List String × Content} (h : f ∈ put place c files) :
    f.1 = place ∨ f ∈ files := by
  induction files with
  | nil => exact .inl (congrArg Prod.fst (List.mem_singleton.1 h))
  | cons e es ih =>
    rw [put] at h
    split at h
    · rcases List.mem_cons.1 h with rfl | h
      · exact .inl rfl
      · exact .inr (List.mem_cons_of_mem e h)
    · rcases List.mem_cons.1 h with rfl | h
      · exact .inr List.mem_cons_self
      · exact (ih h).imp_right (List.mem_cons_of_mem e)

/-- No place of a file gets lost. -/
theorem exists_mem_put {f : List String × Content} (h : f ∈ files) :
    ∃ f' ∈ put place c files, f'.1 = f.1 := by
  induction files with
  | nil => cases h
  | cons e es ih =>
    rw [put]
    split
    · rename_i heq
      rcases List.mem_cons.1 h with rfl | h
      · exact ⟨_, List.mem_cons_self, (eq_of_beq heq).symm⟩
      · exact ⟨f, List.mem_cons_of_mem _ h, rfl⟩
    · rcases List.mem_cons.1 h with rfl | h
      · exact ⟨f, List.mem_cons_self, rfl⟩
      · obtain ⟨f', hmem, heq⟩ := ih h
        exact ⟨f', List.mem_cons_of_mem e hmem, heq⟩

/-- **What the files hold** after one was written. -/
theorem content?_put (t : FileTree) (place q : List String) (c : Content) :
    { t with files := put place c t.files }.content? q =
      if q = place then some c else t.content? q := by
  obtain ⟨files, directories⟩ := t
  show ((put place c files).find? fun e => e.1 == q).map Prod.snd =
    if q = place then some c else (files.find? fun e => e.1 == q).map Prod.snd
  induction files with
  | nil =>
    by_cases h : q = place
    · subst h
      simp [put]
    · simp [put, h, Ne.symm h]
  | cons e es ih =>
    rw [put]
    split
    · rename_i heq
      have hplace : e.1 = place := eq_of_beq heq
      by_cases h : q = place
      · subst h
        simp
      · simp [h, Ne.symm h, hplace]
    · rename_i hne
      have hplace : e.1 ≠ place := fun heq => hne (beq_iff_eq.2 heq)
      by_cases h : e.1 = q
      · subst h
        simp [hplace]
      · rw [List.find?_cons_of_neg (by simpa using h), List.find?_cons_of_neg (by simpa using h),
          ih]

end Files

/-! ### Directories -/

section Directories

variable {t : FileTree} {d q : List String}

/-- The tree with a directory, made if need be. -/
def ensure (t : FileTree) (d : List String) : FileTree :=
  if t.isDirectory d then t else { t with directories := d :: t.directories }

@[simp] theorem files_ensure (t : FileTree) (d : List String) : (t.ensure d).files = t.files := by
  rw [ensure]
  split <;> rfl

theorem mem_directories_ensure (h : q ∈ (t.ensure d).directories) : q = d ∨ q ∈ t.directories := by
  rw [ensure] at h
  split at h
  · exact .inr h
  · exact List.mem_cons.1 h

theorem isDirectory_ensure_self (t : FileTree) (d : List String) :
    (t.ensure d).isDirectory d = true := by
  rw [ensure]
  split
  · assumption
  · simp [isDirectory]

theorem isDirectory_ensure (d : List String) (h : t.isDirectory q = true) :
    (t.ensure d).isDirectory q = true := by
  rw [ensure]
  split
  · exact h
  · simp only [isDirectory, Bool.or_eq_true, List.any_cons] at h ⊢
    tauto

theorem isDirectory_put {place : List String} {c : Content} (h : t.isDirectory q = true) :
    { t with files := put place c t.files }.isDirectory q = true := by
  simp only [isDirectory, Bool.or_eq_true, List.any_eq_true] at h ⊢
  refine h.imp_right ?_
  rintro ⟨f, hf, hplace⟩
  obtain ⟨f', hf', heq⟩ := exists_mem_put hf
  exact ⟨f', hf', by rw [heq]; exact hplace⟩

end Directories

/-! ### One step down -/

section Steps

variable {t : FileTree} {place : List String} {step : String}

theorem walk_cons (h : IsPlain step) (steps : List String) (hfile : t.isFile place = false)
    (hdirectory : t.isDirectory place = true) :
    t.walk place (step :: steps) = t.walk (place ++ [step]) steps := by
  rw [walk, hfile, hdirectory, if_neg (Nat.not_lt.2 h.size_le), h.enter_eq]
  rfl

theorem makeSteps_cons (h : IsPlain step) (steps : List String)
    (hfile : t.isFile (place ++ [step]) = false) :
    t.makeSteps place (step :: steps) =
      (t.ensure (place ++ [step])).makeSteps (place ++ [step]) steps := by
  simp only [makeSteps, if_neg (Nat.not_lt.2 h.size_le), h.enter_eq, hfile]
  rfl

end Steps

/-! ### The directory of results -/

/-- A tree with nothing in it but a directory, directories in that one, and files in these. Some of
these directories are known to be there. -/
structure Keeps (t : FileTree) (top : String) (subs : List String) : Prop where
  plain : IsPlain top
  files : ∀ f ∈ t.files, ∃ sub name, f.1 = [top, sub, name]
  directories : ∀ d ∈ t.directories, d = [top] ∨ ∃ sub, d = [top, sub]
  made : ∀ sub ∈ subs, IsPlain sub ∧ t.isDirectory [top] = true ∧ t.isDirectory [top, sub] = true

namespace Keeps

variable {t : FileTree} {top sub name : String} {subs : List String}

/-- An empty tree. -/
theorem ofTexts_nil (h : IsPlain top) : (ofTexts []).Keeps top [] where
  plain := h
  files _ hf := nomatch hf
  directories _ hd := nomatch hd
  made _ hsub := nomatch hsub

theorem mono {subs' : List String} (h : t.Keeps top subs) (hsubs : ∀ sub ∈ subs', sub ∈ subs) :
    t.Keeps top subs' :=
  ⟨h.plain, h.files, h.directories, fun sub hsub => h.made sub (hsubs sub hsub)⟩

/-- Files lie three steps down. -/
theorem isFile_eq_false (h : t.Keeps top subs) {place : List String} (hlength : place.length ≠ 3) :
    t.isFile place = false := by
  rw [isFile, content?, Option.isSome_map, Option.isSome_eq_false_iff, Option.isNone_iff_eq_none,
    List.find?_eq_none]
  intro f hf heq
  obtain ⟨sub, name, hplace⟩ := h.files f hf
  rw [← eq_of_beq heq, hplace] at hlength
  exact hlength rfl

/-- Three steps down there is no directory. -/
theorem isDirectory_eq_false (h : t.Keeps top subs) (sub name : String) :
    t.isDirectory [top, sub, name] = false := by
  have hparent := h.plain.ne_parentName
  rw [isDirectory, Bool.or_eq_false_iff, Bool.or_eq_false_iff, Bool.or_eq_false_iff,
    List.any_eq_false, List.any_eq_false]
  refine ⟨⟨⟨by simp [hparent], by simp⟩, ?_⟩, ?_⟩
  · intro d hd
    rcases h.directories d hd with rfl | ⟨sub', rfl⟩ <;> simp [List.isPrefixOf]
  · intro f hf
    obtain ⟨sub', name', hplace⟩ := h.files f hf
    rw [hplace]
    simp [List.isPrefixOf]

theorem ensure (h : t.Keeps top subs) {d : List String} (hd : d = [top] ∨ ∃ sub, d = [top, sub]) :
    (t.ensure d).Keeps top subs where
  plain := h.plain
  files := by
    rw [files_ensure]
    exact h.files
  directories q hq := by
    rcases mem_directories_ensure hq with rfl | hq
    · exact hd
    · exact h.directories q hq
  made sub hsub :=
    ⟨(h.made sub hsub).1, isDirectory_ensure d (h.made sub hsub).2.1,
      isDirectory_ensure d (h.made sub hsub).2.2⟩

/-- **A directory for results can be made.** -/
theorem makeDirectory (h : t.Keeps top subs) (hsub : IsPlain sub)
    (hpath : pathFault? ⟨.here, [top, sub]⟩ = none) :
    ∃ t', t.makeDirectory ⟨.here, [top, sub]⟩ = .ok t' ∧ t'.Keeps top (sub :: subs) ∧
      t'.files = t.files := by
  have htop := h.ensure (.inl rfl)
  have hboth := htop.ensure (.inr ⟨sub, rfl⟩)
  refine ⟨(t.ensure [top]).ensure [top, sub], ?_, ⟨h.plain, hboth.files, hboth.directories, ?_⟩, ?_⟩
  · have hfile : t.isFile [top] = false := h.isFile_eq_false (by simp)
    have hfile' : (t.ensure [top]).isFile [top, sub] = false := htop.isFile_eq_false (by simp)
    rw [FileTree.makeDirectory, hpath]
    show t.makeSteps [] [top, sub] = _
    rw [makeSteps_cons h.plain [sub] hfile, List.nil_append, makeSteps_cons hsub [] hfile']
    rfl
  · intro sub' hsub'
    rcases List.mem_cons.1 hsub' with rfl | hsub'
    · exact ⟨hsub, isDirectory_ensure _ (isDirectory_ensure_self _ _), isDirectory_ensure_self _ _⟩
    · exact hboth.made sub' hsub'
  · rw [files_ensure, files_ensure]

/-- **A file of results can be written.** -/
theorem write (h : t.Keeps top subs) (hsub : sub ∈ subs) (hname : IsPlain name)
    (hpath : pathFault? ⟨.here, [top, sub, name]⟩ = none) (c : Content) :
    t.write ⟨.here, [top, sub, name]⟩ c =
        .ok { t with files := put [top, sub, name] c t.files } ∧
      { t with files := put [top, sub, name] c t.files }.Keeps top subs := by
  obtain ⟨hplain, hdirectory, hdirectory'⟩ := h.made sub hsub
  refine ⟨?_, h.plain, ?_, h.directories, ?_⟩
  · have hfile : t.isFile [] = false := h.isFile_eq_false (by simp)
    have hfile' : t.isFile [top] = false := h.isFile_eq_false (by simp)
    have hfile'' : t.isFile [top, sub] = false := h.isFile_eq_false (by simp)
    have hlocate : t.locate ⟨.here, [top, sub, name]⟩ = .ok [top, sub, name] := by
      rw [locate, hpath]
      show t.walk [] [top, sub, name] = _
      rw [walk_cons h.plain _ hfile rfl, List.nil_append, walk_cons hplain _ hfile' hdirectory,
        List.singleton_append, walk_cons hname _ hfile'' hdirectory']
      rfl
    rw [FileTree.write, hlocate]
    show (if t.isDirectory [top, sub, name] then _ else _) = _
    rw [h.isDirectory_eq_false]
    rfl
  · intro f hf
    rcases mem_put hf with heq | hf
    · exact ⟨sub, name, heq⟩
    · exact h.files f hf
  · intro sub' hsub'
    obtain ⟨hplain', htop, hdir⟩ := h.made sub' hsub'
    exact ⟨hplain', isDirectory_put htop, isDirectory_put hdir⟩

end Keeps

end FileTree

end PlayTrace
