/-
This file proves that uploads do not share places in the blob store. The identifiers that are accepted are
plain segments, so the directory and the chunks of an upload have canonical paths; different chunks have
different paths, and nothing that lies directly under the directory of one upload is a chunk of another.
-/

import Community.Proofs.Blob.Listing
import Community.Proofs.Blob.Path
import Community.Upload.Naming
import Std.Data.String.ToNat

namespace Community.Upload

open Community.Blob

variable {uploadId other : String} {index position : Nat} {c : Char}

/-! ### Segments -/

/-- The last segment of a chunk's path. -/
def chunkName (index : Nat) : List Char :=
  "chunk_".toList ++ (toString index).toList

theorem chunkName_injective : Function.Injective chunkName := by
  intro first second equal
  have digits : (toString first).toList = (toString second).toList :=
    List.append_cancel_left equal
  exact Nat.repr_injective (String.toList_inj.1 digits)

theorem isDigit_of_mem_toString (member : c ∈ (toString index).toList) : c.isDigit :=
  Nat.isDigit_of_mem_toDigits (by decide) (by decide) (Nat.toList_repr ▸ member)

/-- The name of a chunk is made of a few letters and of digits. -/
theorem notMem_chunkName (notDigit : c.isDigit = false) (notLetter : c ∉ "chunk_".toList) :
    c ∉ chunkName index := by
  intro member
  rcases List.mem_append.1 member with letter | digit
  · exact notLetter letter
  · rw [isDigit_of_mem_toString digit] at notDigit
    cases notDigit

theorem isPlain_chunkName (index : Nat) : IsPlain (chunkName index) := by
  have long : chunkName index = 'c' :: 'h' :: ("unk_".toList ++ (toString index).toList) := rfl
  refine ⟨?_, ?_, notMem_chunkName (by decide) (by decide), notMem_chunkName (by decide) (by decide),
    notMem_chunkName (by decide) (by decide)⟩
  · rw [long]
    rfl
  · rw [long]
    nofun

theorem isPlain_chunks : IsPlain "chunks".toList := by
  constructor <;> decide

/-- An identifier that is accepted is a plain segment. -/
theorem isPlain_of_isValidId (valid : isValidId uploadId) : IsPlain uploadId.toList := by
  simp only [isValidId, ne_eq, decide_not, Bool.and_eq_true, Bool.not_eq_true',
    decide_eq_false_iff_not, decide_eq_true_eq, List.all_eq_true] at valid
  obtain ⟨⟨⟨⟨nonempty, -⟩, notDot⟩, notDots⟩, ordinary⟩ := valid
  have isnt {text : String} (differs : uploadId ≠ text) : uploadId.toList ≠ text.toList :=
    fun equal => differs (String.toList_inj.1 equal)
  have absent {c : Char} (special : isIdChar c = false) : c ∉ uploadId.toList := by
    intro member
    rw [ordinary c member] at special
    cases special
  refine ⟨?_, isnt notDots, absent (by decide), absent (by decide), absent (by decide)⟩
  simp only [isIdle, Bool.or_eq_false_iff, decide_eq_false_iff_not]
  exact ⟨isnt nonempty, isnt notDot⟩

/-! ### Paths -/

theorem storagePath_eq (uploadId : String) :
    storagePath uploadId = String.ofList (joinSlashes ["chunks".toList, uploadId.toList]) := by
  apply String.toList_inj.1
  rw [String.toList_ofList, storagePath, String.toList_append]
  rfl

theorem storagePath_injective : Function.Injective storagePath := by
  intro uploadId other equal
  have characters := congrArg String.toList equal
  simp only [storagePath, String.toList_append] at characters
  exact String.toList_inj.1 (List.append_cancel_left characters)

theorem chunkPath_eq (uploadId : String) (index : Nat) :
    chunkPath uploadId index =
      String.ofList (joinSlashes ["chunks".toList, uploadId.toList, chunkName index]) := by
  apply String.toList_inj.1
  rw [String.toList_ofList]
  simp only [chunkPath, String.toList_append, List.append_assoc]
  rfl

theorem canonical_storagePath (valid : isValidId uploadId) :
    canonical (storagePath uploadId) = .ok (storagePath uploadId) := by
  rw [storagePath_eq]
  refine canonical_joinSlashes (List.cons_ne_nil _ _) fun segment member => ?_
  simp only [List.mem_cons, List.not_mem_nil, or_false] at member
  rcases member with rfl | rfl
  · exact isPlain_chunks
  · exact isPlain_of_isValidId valid

theorem plain_chunkPath (valid : isValidId uploadId) :
    ∀ segment ∈ ["chunks".toList, uploadId.toList, chunkName index], IsPlain segment := by
  intro segment member
  simp only [List.mem_cons, List.not_mem_nil, or_false] at member
  rcases member with rfl | rfl | rfl
  · exact isPlain_chunks
  · exact isPlain_of_isValidId valid
  · exact isPlain_chunkName index

theorem canonical_chunkPath (valid : isValidId uploadId) :
    canonical (chunkPath uploadId index) = .ok (chunkPath uploadId index) := by
  rw [chunkPath_eq]
  exact canonical_joinSlashes (List.cons_ne_nil _ _) (plain_chunkPath valid)

/-- Different chunks have different paths. -/
theorem chunkPath_inj (valid : isValidId uploadId) (alsoValid : isValidId other) :
    chunkPath uploadId index = chunkPath other position ↔ uploadId = other ∧ index = position := by
  refine ⟨fun equal => ?_, fun ⟨same, sameIndex⟩ => by rw [same, sameIndex]⟩
  rw [chunkPath_eq, chunkPath_eq] at equal
  have segments := joinSlashes_inj (List.cons_ne_nil _ _) (List.cons_ne_nil _ _)
    (fun segment member => (plain_chunkPath valid segment member).noSlash)
    (fun segment member => (plain_chunkPath alsoValid segment member).noSlash)
    (String.ofList_injective equal)
  simp only [List.cons.injEq, true_and, and_true] at segments
  exact ⟨String.toList_inj.1 segments.1, chunkName_injective segments.2⟩

theorem isDirectlyUnder_chunkPath (uploadId : String) (index : Nat) :
    Memory.isDirectlyUnder (storagePath uploadId) (chunkPath uploadId index) := by
  refine Memory.isDirectlyUnder_iff.2 ⟨chunkName index, (isPlain_chunkName index).noSlash, ?_⟩
  rw [chunkPath_eq, storagePath_eq]
  simp only [String.toList_ofList, joinSlashes, List.append_assoc, List.cons_append]

/-- What lies directly under the directory of an upload leads to no chunk of another upload. -/
theorem eq_of_isDirectlyUnder {path : String} (valid : isValidId uploadId)
    (alsoValid : isValidId other) (under : Memory.isDirectlyUnder (storagePath uploadId) path)
    (leads : canonical path = .ok (chunkPath other index)) : uploadId = other := by
  obtain ⟨name, absent, equal⟩ := Memory.isDirectlyUnder_iff.1 under
  have noSlash : ∀ segment ∈ ["chunks".toList, uploadId.toList, name], '/' ∉ segment := by
    intro segment member
    simp only [List.mem_cons, List.not_mem_nil, or_false] at member
    rcases member with rfl | rfl | rfl
    · exact isPlain_chunks.noSlash
    · exact (isPlain_of_isValidId valid).noSlash
    · exact absent
  have joined : path.toList = joinSlashes ["chunks".toList, uploadId.toList, name] := by
    rw [equal, storagePath_eq, String.toList_ofList]
    simp only [joinSlashes, List.append_assoc, List.cons_append]
  have cut : segmentsOf path.toList =
      "chunks".toList :: uploadId.toList :: [name].filter fun segment => !isIdle segment := by
    rw [joined, segmentsOf, splitSlashes_joinSlashes (List.cons_ne_nil _ _) noSlash,
      List.filter_cons_of_pos (by rw [isPlain_chunks.notIdle]; rfl),
      List.filter_cons_of_pos (by rw [(isPlain_of_isValidId valid).notIdle]; rfl)]
  obtain ⟨-, named⟩ := canonical_eq_ok leads
  rw [chunkPath_eq, cut] at named
  have segments := joinSlashes_inj (List.cons_ne_nil _ _) (List.cons_ne_nil _ _)
    (fun segment member => (plain_chunkPath alsoValid segment member).noSlash)
    (fun segment member => noSlash segment <| by
      simp only [List.mem_cons, List.mem_filter] at member ⊢
      rcases member with isChunks | isId | ⟨isName | none, -⟩
      · exact Or.inl isChunks
      · exact Or.inr (Or.inl isId)
      · exact Or.inr (Or.inr (Or.inl isName))
      · cases none)
    (String.ofList_injective named)
  simp only [List.cons.injEq, true_and] at segments
  exact String.toList_inj.1 segments.1.symm

end Community.Upload
