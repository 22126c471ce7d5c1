/-
This file proves that chunks are as well kept in files as in memory. A chunk is a file in the directory of its
upload; its path is short enough for the operating system, and no temporary file has such a name. A tree
mirrors a store if its files are the chunks in the store, whatever directories it has besides. Requests about
an upload are answered alike by a store of files and by a store in memory that it mirrors, and it mirrors the
other one still when both have carried them out. So the directories that come and go, the temporary files and
the faults of the file system are never seen.
-/

import Mathlib.Data.String.Basic
import Community.Proofs.Blob.Directory
import Community.Proofs.Upload.Confinement

namespace Community.Upload

open Community.Blob Community.Blob.FileTree

variable {uploadId other : String} {index position : Nat} {path : Names} {name : String} {data : ByteArray}

/-! ### The files of chunks -/

/-- The directory of an upload, name by name. -/
def folder (uploadId : String) : Names :=
  ["chunks", uploadId]

/-- The name of the file of a chunk. -/
def fileName (index : Nat) : String :=
  String.ofList (chunkName index)

theorem names_storagePath (valid : isValidId uploadId) :
    Directory.names (storagePath uploadId) = folder uploadId := by
  have absent : ∀ segment ∈ ["chunks".toList, uploadId.toList], '/' ∉ segment := by
    simp only [List.forall_mem_cons]
    exact ⟨isPlain_chunks.noSlash, (isPlain_of_isValidId valid).noSlash, List.forall_mem_nil _⟩
  rw [Directory.names, storagePath_eq, String.toList_ofList,
    splitSlashes_joinSlashes (List.cons_ne_nil _ _) absent]
  simp only [List.map_cons, List.map_nil, String.ofList_toList, folder]

theorem names_chunkPath (valid : isValidId uploadId) (index : Nat) :
    Directory.names (chunkPath uploadId index) = folder uploadId ++ [fileName index] := by
  rw [Directory.names, chunkPath_eq, String.toList_ofList, splitSlashes_joinSlashes (List.cons_ne_nil _ _)
    fun segment member => (plain_chunkPath valid segment member).noSlash]
  simp only [List.map_cons, List.map_nil, String.ofList_toList, folder, fileName, List.cons_append,
    List.nil_append]

/-- The path of a chunk is the name of its file after the directory of its upload. -/
theorem chunkPath_eq_append (uploadId : String) (index : Nat) :
    chunkPath uploadId index = storagePath uploadId ++ "/" ++ fileName index := by
  apply String.toList_inj.1
  rw [chunkPath_eq, storagePath_eq]
  simp only [String.toList_append, String.toList_ofList, fileName, joinSlashes, List.append_assoc,
    List.cons_append]
  rfl

/-- Different chunks have different files. -/
theorem chunkFile_inj : folder uploadId ++ [fileName index] = folder other ++ [fileName position] ↔
    uploadId = other ∧ index = position := by
  simp only [folder, fileName, List.cons_append, List.nil_append, List.cons.injEq, true_and, and_true]
  exact and_congr_right fun _ => ⟨fun same => chunkName_injective (String.ofList_injective same),
    congrArg fileName⟩

/-- A mark of temporary files is in the name of no chunk. -/
theorem dot_notMem_fileName (index : Nat) : '.' ∉ (fileName index).toList := by
  rw [fileName, String.toList_ofList]
  exact notMem_chunkName (by decide) (by decide)

theorem occursIn_fileName (index : Nat) :
    Directory.occursIn Directory.temporaryMark.toList (fileName index).toList = false := by
  rw [Bool.eq_false_iff]
  exact fun occurs => dot_notMem_fileName index (Directory.mem_of_occursIn occurs (by decide))

theorem temporaryName_ne_fileName (store : Directory) (index position : Nat) :
    store.temporaryName (fileName index) ≠ fileName position := by
  intro same
  refine dot_notMem_fileName position (same ▸ ?_)
  rw [Directory.temporaryName, String.toList_append, String.toList_append]
  exact List.mem_append_left _ (List.mem_append_right _ (by decide))

/-! ### Paths that fit -/

/-- A number takes as many bytes as it has digits. -/
theorem utf8ByteSize_toString {number digits : Nat} (small : number < 10 ^ digits) (some : 0 < digits) :
    (toString number).utf8ByteSize ≤ digits := by
  have single (text : List Char) (allDigits : ∀ c ∈ text, c.isDigit) :
      String.utf8Len text = text.length := by
    induction text with
    | nil => rfl
    | cons c rest inductionHypothesis =>
      rw [List.forall_mem_cons] at allDigits
      have oneByte : c.utf8Size = 1 := by
        have range := (Char.isDigit_iff_toNat.1 allDigits.1).2
        exact Char.utf8Size_eq_one_iff.2 (UInt32.le_iff_toNat_le.2 (Nat.le_trans range (by decide)))
      rw [String.utf8Len_cons, inductionHypothesis allDigits.2, oneByte, List.length_cons]
  rw [← String.ofList_toList (s := toString number), String.utf8ByteSize_ofList,
    single _ fun c member => isDigit_of_mem_toString member]
  exact (Nat.length_repr_le_iff some).2 small

/-- A short name in the directory of an upload is no trouble for the operating system. -/
theorem fits_folder (valid : isValidId uploadId) (short : name.utf8ByteSize ≤ longestName) :
    Fits (folder uploadId ++ [name]) := by
  have chunks : "chunks".utf8ByteSize = 6 := by decide
  have identifier : uploadId.utf8ByteSize ≤ 128 := by
    simp only [isValidId, Bool.and_eq_true, decide_eq_true_eq] at valid
    exact valid.1.1.1.2
  refine ⟨?_, ?_⟩
  · rw [pathSize_eq]
    simp only [folder, List.cons_append, List.nil_append, namesSize, List.length_cons, List.length_nil, chunks]
    unfold longestName at short
    unfold longestPath
    omega
  · simp only [folder, List.cons_append, List.nil_append, List.forall_mem_cons]
    unfold longestName at short ⊢
    exact ⟨by omega, by omega, short, List.forall_mem_nil _⟩

theorem utf8ByteSize_fileName (small : index < UInt32.size) : (fileName index).utf8ByteSize ≤ 16 := by
  have digits : (toString index).utf8ByteSize ≤ 10 :=
    utf8ByteSize_toString (Nat.lt_trans small (by decide)) (by decide)
  have letters : "chunk_".utf8ByteSize = 6 := by decide
  have parts : fileName index = "chunk_" ++ toString index := by
    apply String.toList_inj.1
    rw [String.toList_append]
    exact String.toList_ofList
  rw [parts, String.utf8ByteSize_append, letters]
  omega

theorem fits_fileName (valid : isValidId uploadId) (small : index < UInt32.size) :
    Fits (folder uploadId ++ [fileName index]) :=
  fits_folder valid (Nat.le_trans (utf8ByteSize_fileName small) (by decide))

theorem fits_temporaryName (store : Directory) (valid : isValidId uploadId) (small : index < UInt32.size) :
    Fits (folder uploadId ++ [store.temporaryName (fileName index)]) := by
  have named := utf8ByteSize_fileName small
  have mark : Directory.temporaryMark.utf8ByteSize = 5 := by decide
  have digits : (toString store.nextTemporary).utf8ByteSize ≤ 20 :=
    utf8ByteSize_toString (Nat.lt_trans store.nextTemporary.toNat_lt (by decide)) (by decide)
  refine fits_folder valid ?_
  rw [Directory.temporaryName, String.utf8ByteSize_append, String.utf8ByteSize_append, mark]
  unfold longestName
  omega

/-! ### Trees that mirror a store -/

/-- The files of a tree are the blobs of a store, all of them chunks, in directories of uploads. -/
structure Mirrors (tree : FileTree) (memory : Memory) : Prop where
  rooted : tree.Rooted
  chunks : HoldsChunks memory
  directories : ∀ path, tree.holds? path = some .directory →
    path = ["chunks"] ∨ ∃ uploadId, path = folder uploadId
  files : ∀ path data, tree.holds? path = some (.file data) →
    ∃ uploadId index, isValidId uploadId ∧ index < UInt32.size ∧ path = folder uploadId ++ [fileName index]
  same : ∀ uploadId index, isValidId uploadId → index < UInt32.size →
    tree.holds? (folder uploadId ++ [fileName index]) =
      (memory.blobs.get? (chunkPath uploadId index)).map .file

/-- The directories above a chunk's file. -/
theorem prefix_folder_iff :
    path ≠ [] ∧ path <+: folder uploadId ↔ path = ["chunks"] ∨ path = folder uploadId := by
  simp only [folder, List.prefix_cons_iff, List.prefix_nil]
  constructor
  · rintro ⟨nonempty, isRoot | ⟨rest, rfl, rfl | ⟨-, rfl, rfl⟩⟩⟩
    · exact absurd isRoot nonempty
    · exact Or.inl rfl
    · exact Or.inr rfl
  · rintro (rfl | rfl) <;> simp

namespace Mirrors

variable {tree : FileTree} {memory : Memory} {store : Directory} {request : Request}

theorem empty : Mirrors {} {} where
  rooted := ⟨rfl, fun _ _ _ held => by cases held⟩
  chunks _ _ there := by cases there
  directories _ held := by cases held
  files _ _ held := by cases held
  same _ _ _ _ := rfl

/-- Files are three names below the root. -/
theorem length_of_file (mirrors : Mirrors tree memory) (held : tree.holds? path = some (.file data)) :
    path.length = 3 := by
  obtain ⟨uploadId, index, -, -, rfl⟩ := mirrors.files path data held
  rfl

theorem isClear (mirrors : Mirrors tree memory) (short : path.length ≤ 3) : tree.IsClear path := by
  intro front isFront differs data held
  have length := mirrors.length_of_file held
  exact differs (isFront.eq_of_length (Nat.le_antisymm isFront.length_le (length ▸ short)))

theorem not_directory (mirrors : Mirrors tree memory) (uploadId name : String) :
    tree.holds? (folder uploadId ++ [name]) ≠ some .directory := by
  intro held
  rcases mirrors.directories _ held with isChunks | ⟨other, isFolder⟩
  · cases isChunks
  · cases isFolder

/-- No file is in the way of a temporary one. -/
theorem temporary_unused (mirrors : Mirrors store.tree memory) (uploadId : String) (index : Nat) :
    store.tree.holds? (folder uploadId ++ [store.temporaryName (fileName index)]) = none := by
  cases held : store.tree.holds? (folder uploadId ++ [store.temporaryName (fileName index)]) with
  | none => rfl
  | some node =>
    cases node with
    | directory => exact absurd held (mirrors.not_directory _ _)
    | file content =>
      obtain ⟨other, position, -, -, isFile⟩ := mirrors.files _ content held
      exact absurd (List.append_singleton_inj.1 isFile).2 (temporaryName_ne_fileName store index position)

/-- A chunk is where it should be, as far as the store has it. -/
theorem find_chunk (mirrors : Mirrors tree memory) (valid : isValidId uploadId)
    (small : index < UInt32.size) :
    tree.find (folder uploadId ++ [fileName index]) =
      match memory.blobs.get? (chunkPath uploadId index) with
      | some data => .ok (.file data)
      | none => .error .notFound := by
  have same := mirrors.same uploadId index valid small
  have fits := fits_fileName valid small
  cases there : memory.blobs.get? (chunkPath uploadId index) with
  | some data =>
    rw [there] at same
    exact find_of_holds mirrors.rooted fits same
  | none =>
    rw [there] at same
    exact find_of_missing fits same (mirrors.isClear (Nat.le_refl _)) (List.cons_ne_nil _ _)

/-- A chunk is written as a file. -/
theorem put (mirrors : Mirrors store.tree memory) (valid : isValidId uploadId) (small : index < UInt32.size)
    (data : ByteArray) :
    ∃ after, store.put (folder uploadId ++ [fileName index]) data = (after, .ok ()) ∧
      Mirrors after.tree ⟨memory.blobs.insert (chunkPath uploadId index) data⟩ := by
  have free : ∀ front, front <+: folder uploadId → ∀ data, store.tree.holds? front ≠ some (.file data) :=
    fun front isFront data held =>
      absurd (mirrors.length_of_file held) (Nat.ne_of_lt (Nat.lt_succ_of_le isFront.length_le))
  obtain ⟨tree, puts, rooted, holds⟩ := Directory.put_eq mirrors.rooted (fits_fileName valid small)
    (fits_temporaryName store valid small) free (mirrors.not_directory _ _)
    (mirrors.temporary_unused uploadId index) data
  refine ⟨_, puts, rooted, ?_, fun path held => ?_, fun path content held => ?_,
    fun other position alsoValid alsoSmall => ?_⟩
  · have about : IsAbout uploadId (.put (chunkPath uploadId index) data) := ⟨index, small, rfl⟩
    simpa only [Memory.answer, canonical_chunkPath valid] using mirrors.chunks.answer valid about
  · rw [holds] at held
    split at held
    · cases held
    · split at held
      · next above => exact (prefix_folder_iff.1 above).imp_right fun isFolder => ⟨uploadId, isFolder⟩
      · exact mirrors.directories path held
  · rw [holds] at held
    split at held
    · next isFile => exact ⟨uploadId, index, valid, small, isFile⟩
    · split at held
      · cases held
      · exact mirrors.files path content held
  · have beyond : ¬ (folder other ++ [fileName position] ≠ [] ∧
        folder other ++ [fileName position] <+: folder uploadId) :=
      fun inside => absurd inside.2.length_le (by simp [folder])
    rw [holds, if_neg beyond, Table.get?_insert, mirrors.same other position alsoValid alsoSmall]
    simp only [chunkFile_inj, chunkPath_inj valid alsoValid, @eq_comm _ other, @eq_comm _ position]
    split <;> rfl

/-- A chunk's file is removed. -/
theorem remove (mirrors : Mirrors store.tree memory) (valid : isValidId uploadId)
    (small : index < UInt32.size) :
    ∃ after, store.remove (folder uploadId ++ [fileName index]) = (after, .ok ()) ∧
      Mirrors after.tree ⟨memory.blobs.erase (chunkPath uploadId index)⟩ := by
  have fits := fits_fileName valid small
  have here := mirrors.same uploadId index valid small
  have chunks : HoldsChunks ⟨memory.blobs.erase (chunkPath uploadId index)⟩ := by
    have about : IsAbout uploadId (.remove (chunkPath uploadId index)) := ⟨index, small, rfl⟩
    simpa only [Memory.answer, canonical_chunkPath valid] using mirrors.chunks.answer valid about
  cases there : memory.blobs.get? (chunkPath uploadId index) with
  | none =>
    rw [there] at here
    refine ⟨store, Directory.remove_of_missing fits here (mirrors.isClear (Nat.le_refl _))
      (List.cons_ne_nil _ _), mirrors.rooted, chunks, mirrors.directories, mirrors.files,
      fun other position alsoValid alsoSmall => ?_⟩
    rw [mirrors.same other position alsoValid alsoSmall, Table.get?_erase]
    split
    · next isChunk => rw [← isChunk, there]
    · rfl
  | some data =>
    rw [there] at here
    obtain ⟨tree, removes, rooted, gone, above, elsewhere⟩ :=
      Directory.remove_of_holds mirrors.rooted fits (List.cons_ne_nil _ _) here
    have before (path : Names) (node : Node) (held : tree.holds? path = some node) :
        store.tree.holds? path = some node := by
      by_cases isFile : path = folder uploadId ++ [fileName index]
      · cases (isFile ▸ held).symm.trans gone
      · by_cases isFolder : path = folder uploadId
        · subst isFolder
          rcases above with removed | stays
          · cases removed.symm.trans held
          · exact stays.symm.trans held
        · exact (elsewhere path isFile isFolder).symm.trans held
    refine ⟨_, removes, rooted, chunks, fun path held => mirrors.directories path (before path _ held),
      fun path content held => mirrors.files path content (before path _ held),
      fun other position alsoValid alsoSmall => ?_⟩
    rw [Table.get?_erase]
    split
    · next isChunk =>
      obtain ⟨rfl, rfl⟩ := (chunkPath_inj valid alsoValid).1 isChunk
      exact gone
    · next notChunk =>
      rw [elsewhere _ (fun isFile => notChunk ?_) (fun isFolder => ?_)]
      · exact mirrors.same other position alsoValid alsoSmall
      · obtain ⟨rfl, rfl⟩ := chunkFile_inj.1 isFile
        rfl
      · exact absurd (congrArg List.length isFolder) (by simp [folder])

/-- The list of an upload's directory shows the same chunks. -/
theorem list (mirrors : Mirrors store.tree memory) (valid : isValidId uploadId) :
    store.list (storagePath uploadId) = .ok (memory.list (storagePath uploadId)) := by
  have isFolder := names_storagePath valid
  have clear : store.tree.IsClear (folder uploadId) := mirrors.isClear (Nat.le_succ 2)
  have fits : Fits (folder uploadId) :=
    (fits_fileName valid (by decide : 0 < UInt32.size)).of_front (List.prefix_append ..)
  obtain ⟨paths, lists, distinct, shows⟩ := Directory.list_eq mirrors.rooted (isFolder ▸ fits)
    (isFolder ▸ clear) (isFolder ▸ List.cons_ne_nil _ _)
    (fun data held => absurd (mirrors.length_of_file held) (by simp [isFolder, folder]))
  rw [lists, Memory.list]
  refine congrArg _ (mergeSort_eq_of_mem_iff distinct (memory.blobs.distinct.sublist List.filter_sublist)
    fun path => ?_)
  rw [shows, isFolder, ← List.mem_mergeSort (l := memory.blobs.keys.filter _)]
  refine Iff.trans ?_ (mirrors.chunks.mem_list valid).symm
  constructor
  · rintro ⟨name, data, held, -, rfl⟩
    obtain ⟨other, index, -, small, isFile⟩ := mirrors.files _ data held
    obtain ⟨sameFolder, rfl⟩ := List.append_singleton_inj.1 isFile
    cases sameFolder
    rw [mirrors.same uploadId index valid small, Option.map_eq_some_iff] at held
    obtain ⟨content, there, -⟩ := held
    rw [← chunkPath_eq_append]
    exact ⟨⟨index, small, rfl⟩, content, there⟩
  · rintro ⟨⟨index, small, rfl⟩, data, there⟩
    refine ⟨fileName index, data, ?_, occursIn_fileName index, chunkPath_eq_append uploadId index⟩
    rw [mirrors.same uploadId index valid small, there]
    rfl

/-- A request about an upload is answered alike by files and by the memory that they mirror, and they mirror
it still when both have carried out the request. -/
theorem answer (mirrors : Mirrors store.tree memory) (valid : isValidId uploadId)
    (about : IsAbout uploadId request) :
    (store.answer request).2 = (memory.answer request).2 ∧
      Mirrors (store.answer request).1.tree (memory.answer request).1 := by
  cases request with
  | put path data =>
    obtain ⟨index, small, rfl⟩ := about
    obtain ⟨after, puts, mirrored⟩ := mirrors.put valid small data
    simp only [Directory.answer, Memory.answer, canonical_chunkPath valid, names_chunkPath valid, puts]
    exact ⟨rfl, mirrored⟩
  | remove path =>
    obtain ⟨index, small, rfl⟩ := about
    obtain ⟨after, removes, mirrored⟩ := mirrors.remove valid small
    simp only [Directory.answer, Memory.answer, canonical_chunkPath valid, names_chunkPath valid, removes]
    exact ⟨rfl, mirrored⟩
  | contains path =>
    obtain ⟨index, small, rfl⟩ := about
    refine ⟨?_, mirrors⟩
    simp only [Directory.answer, Memory.answer, canonical_chunkPath valid, names_chunkPath valid, Except.bind,
      Except.map, mirrors.find_chunk valid small, Table.contains]
    cases memory.blobs.get? (chunkPath uploadId index) <;> rfl
  | fetch path =>
    obtain ⟨index, small, rfl⟩ := about
    refine ⟨?_, mirrors⟩
    simp only [Directory.answer, Memory.answer, canonical_chunkPath valid, names_chunkPath valid, Except.bind,
      readFile, mirrors.find_chunk valid small]
    cases memory.blobs.get? (chunkPath uploadId index) <;> rfl
  | list directory =>
    cases (about : directory = storagePath uploadId)
    refine ⟨?_, mirrors⟩
    simp only [Directory.answer, Memory.answer, canonical_storagePath valid, Except.bind, Except.map,
      mirrors.list valid]
    rfl

end Mirrors

end Community.Upload
