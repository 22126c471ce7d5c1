/-
This file says what a store does that keeps blobs as files. Writing a blob makes the directories that are
missing above it and puts the file into the innermost one; the temporary file it is written to first has gone
when it is done. Removing a blob takes its file away, and its directory with it if that is empty then. Beyond
that nothing changes.
-/

import Community.Blob.Directory
import Community.Proofs.Blob.FileTree

namespace Community.Blob.Directory

open FileTree

variable {store : Directory} {parent : Names} {name : String} {data : ByteArray}

/-- The name of the temporary file to which a blob is written next. -/
def temporaryName (store : Directory) (name : String) : String :=
  name ++ temporaryMark ++ toString store.nextTemporary

theorem temporaryName_ne (store : Directory) (name : String) : store.temporaryName name ≠ name := by
  intro same
  have size := congrArg String.utf8ByteSize same
  have mark : temporaryMark.utf8ByteSize = 5 := by decide
  rw [temporaryName, String.utf8ByteSize_append, String.utf8ByteSize_append, mark] at size
  omega

/-- A blob is written where no file stands in the way and nothing has the name of its temporary file. -/
theorem put_eq (rooted : store.tree.Rooted) (fits : Fits (parent ++ [name]))
    (fitsTemporary : Fits (parent ++ [store.temporaryName name]))
    (free : ∀ front, front <+: parent → ∀ data, store.tree.holds? front ≠ some (.file data))
    (target : store.tree.holds? (parent ++ [name]) ≠ some .directory)
    (unused : store.tree.holds? (parent ++ [store.temporaryName name]) = none) (data : ByteArray) :
    ∃ tree, store.put (parent ++ [name]) data =
        ({ store with tree, nextTemporary := store.nextTemporary + 1 }, .ok ()) ∧
      tree.Rooted ∧ ∀ place, tree.holds? place =
        if place = parent ++ [name] then some (.file data)
        else if place ≠ [] ∧ place <+: parent then some .directory
        else store.tree.holds? place := by
  obtain ⟨made, isMade, makes⟩ :=
    makeDirectories_eq rooted (fits.of_front (List.prefix_append ..)) free (Nat.le_refl _)
  have unusedStill := makes.missing unused
  have beyond {place : String} : ¬ (parent ++ [place] ≠ [] ∧ parent ++ [place] <+: parent) :=
    fun inside => absurd inside.2.length_le (by simp)
  have differs := store.temporaryName_ne name
  obtain ⟨written, writes, sets⟩ :=
    writeFile_eq makes.rooted fitsTemporary makes.hasDirectory (by rw [unusedStill]; nofun) data
  have targetStill : written.holds? (parent ++ [name]) ≠ some .directory := by
    rw [sets.holds_of_ne (by simp [differs.symm]), makes.holds, if_neg beyond]
    exact target
  obtain ⟨moved, renamed, renames, replaces, clears⟩ := renameFile_eq sets.rooted fitsTemporary fits
    (sets.hasDirectory makes.hasDirectory) differs sets.holds_self targetStill
  refine ⟨renamed, ?_, clears.rooted, fun place => ?_⟩
  · unfold put
    rw [temporaryName] at writes renames
    simp only [List.dropLast_concat, List.getLastD_concat, isMade, writes, renames]
  · by_cases temporary : place = parent ++ [store.temporaryName name]
    · subst temporary
      rw [clears.holds_self, if_neg (by simp [differs]), if_neg beyond, unused]
    · rw [clears.holds_of_ne temporary, replaces.holds, sets.holds, if_neg temporary, makes.holds]

/-- Nothing happens when there is nothing to remove. -/
theorem remove_of_missing {path : Names} (fits : Fits path) (missing : store.tree.holds? path = none)
    (clear : store.tree.IsClear path) (nonempty : path ≠ []) : store.remove path = (store, .ok ()) := by
  have absent : store.tree.removeFile path = .error .notFound := by
    rw [removeFile, find_of_missing fits missing clear nonempty]
  rw [remove, absent]

/-- A blob goes, and its directory may go with it. -/
theorem remove_of_holds (rooted : store.tree.Rooted) (fits : Fits (parent ++ [name])) (inside : parent ≠ [])
    (held : store.tree.holds? (parent ++ [name]) = some (.file data)) :
    ∃ tree, store.remove (parent ++ [name]) = ({ store with tree }, .ok ()) ∧ tree.Rooted ∧
      tree.holds? (parent ++ [name]) = none ∧
      (tree.holds? parent = none ∨ tree.holds? parent = store.tree.holds? parent) ∧
      ∀ place, place ≠ parent ++ [name] → place ≠ parent → tree.holds? place = store.tree.holds? place := by
  obtain ⟨after, removes, sets⟩ := removeFile_of_holds rooted fits held
  have there : after.HasDirectory parent :=
    sets.hasDirectory (rooted.hasDirectory_of_front held (List.cons_ne_nil _ _))
  have apart : parent ≠ parent ++ [name] := by simp
  have removed : store.remove (parent ++ [name]) =
      ({ store with tree := after.removeEmptyDirectory parent }, .ok ()) := by
    simp only [remove, removes, List.dropLast_concat, if_neg inside]
  rw [removed, removeEmptyDirectory_eq sets.rooted (fits.of_front (List.prefix_append ..)) there]
  refine ⟨_, rfl, ?_⟩
  split
  · next empty =>
    refine ⟨sets.rooted.erase (isEmpty_children.1 empty), ?_, Or.inl ?_, fun place differs outside => ?_⟩
    · rw [holds?_erase, if_neg apart]
      exact sets.holds_self
    · rw [holds?_erase, if_pos rfl]
    · rw [holds?_erase, if_neg (Ne.symm outside)]
      exact sets.holds_of_ne differs
  · exact ⟨sets.rooted, sets.holds_self, Or.inr (sets.holds_of_ne apart),
      fun place differs _ => sets.holds_of_ne differs⟩

/-! ### Listing -/

/-- A text that occurs in another one has no characters that the other one lacks. -/
theorem mem_of_occursIn {part text : List Char} {c : Char} (occurs : occursIn part text) (member : c ∈ part) :
    c ∈ text := by
  induction text with
  | nil =>
    rw [List.isEmpty_iff.1 occurs] at member
    cases member
  | cons first rest inductionHypothesis =>
    rcases Bool.or_eq_true_iff.1 occurs with isFront | later
    · exact (List.isPrefixOf_iff_prefix.1 isFront).subset member
    · exact List.mem_cons_of_mem _ (inductionHypothesis later)

/-- The list of a directory, which may be missing, shows the files in it that are not temporary. -/
theorem list_eq {directory : String} (rooted : store.tree.Rooted) (fits : Fits (names directory))
    (clear : store.tree.IsClear (names directory)) (nonempty : names directory ≠ [])
    (free : ∀ data, store.tree.holds? (names directory) ≠ some (.file data)) :
    ∃ paths : List String, store.list directory = .ok (paths.mergeSort (· ≤ ·)) ∧ paths.Nodup ∧
      ∀ path, path ∈ paths ↔ ∃ name data, store.tree.holds? (names directory ++ [name]) = some (.file data) ∧
        occursIn temporaryMark.toList name.toList = false ∧ path = directory ++ "/" ++ name := by
  cases held : store.tree.holds? (names directory) with
  | none =>
    have absent : store.tree.readDirectory (names directory) = .error .notFound := by
      rw [readDirectory, find_of_missing fits held clear nonempty]
    refine ⟨[], by rw [list, absent, List.mergeSort_nil], List.nodup_nil, fun path => iff_of_false List.not_mem_nil ?_⟩
    rintro ⟨name, data, file, -⟩
    cases (rooted.below_missing held nonempty name).symm.trans file
  | some node =>
    cases node with
    | file data => exact absurd held (free data)
    | directory =>
      refine ⟨_, by rw [list, readDirectory_of_hasDirectory rooted fits (Or.inr held)], ?_, fun path => ?_⟩
      · refine List.Pairwise.filterMap _ (fun one two differs path inHere other inOther same => ?_)
          (store.tree.pairwise_children (names directory))
        dsimp only at inHere inOther
        split at inHere
        · split at inOther
          · split at inHere
            · cases inHere
            · split at inOther
              · cases inOther
              · cases inHere
                cases inOther
                exact differs ((String.append_right_inj _).1 same)
          · cases inOther
        · cases inHere
      · rw [List.mem_filterMap]
        constructor
        · rintro ⟨⟨name, node⟩, child, shown⟩
          cases node with
          | directory => cases shown
          | file data =>
            dsimp only at shown
            split at shown
            · cases shown
            · next unmarked =>
              cases shown
              exact ⟨name, data, mem_children.1 child, Bool.eq_false_iff.2 unmarked, rfl⟩
        · rintro ⟨name, data, file, unmarked, rfl⟩
          refine ⟨(name, .file data), mem_children.2 file, ?_⟩
          dsimp only
          rw [if_neg (Bool.eq_false_iff.1 unmarked)]

end Community.Blob.Directory
