/-
This file says what the list of a directory shows: the blobs that lie directly under it, each of them once,
in an order that depends on nothing else. So stores that hold the same blobs under a directory list it in the
same way, however they came to hold them. No blob is shown by the lists of two directories, and what is removed
outside a directory does not show in its list.
-/

import Mathlib.Data.List.Perm.Subperm
import Community.Blob.Memory
import Community.Proofs.Blob.Path

namespace Community.Blob

/-- Paths in ascending order depend only on which paths they are. -/
theorem mergeSort_eq_of_mem_iff {one two : List String} (distinct : one.Nodup)
    (alsoDistinct : two.Nodup) (same : ∀ path, path ∈ one ↔ path ∈ two) :
    one.mergeSort (· ≤ ·) = two.mergeSort (· ≤ ·) := by
  have ascending (paths : List String) : (paths.mergeSort (· ≤ ·)).Pairwise (· ≤ ·) := by
    have sorted : (paths.mergeSort (· ≤ ·)).Pairwise fun one two => decide (one ≤ two) = true := by
      refine List.pairwise_mergeSort (fun _ _ _ first second => ?_) (fun one two => ?_) paths
      · exact decide_eq_true (String.le_trans (of_decide_eq_true first) (of_decide_eq_true second))
      · simp [String.le_total one two]
    exact sorted.imp of_decide_eq_true
  have perm : one.Perm two := (List.perm_ext_iff_of_nodup distinct alsoDistinct).2 same
  refine List.Perm.eq_of_pairwise (fun _ _ _ _ => String.le_antisymm) (ascending one) (ascending two) ?_
  exact (List.mergeSort_perm one _).trans (perm.trans (List.mergeSort_perm two _).symm)

namespace Memory

variable {store other : Memory} {directory path : String}

theorem isDirectlyUnder_iff {directory path : String} :
    isDirectlyUnder directory path ↔
      ∃ name, '/' ∉ name ∧ path.toList = directory.toList ++ '/' :: name := by
  simp only [isDirectlyUnder, String.toList_append, Bool.and_eq_true, Bool.not_eq_true',
    List.contains_eq_mem, decide_eq_false_iff_not, List.isPrefixOf_iff_prefix]
  constructor
  · rintro ⟨⟨name, equal⟩, absent⟩
    rw [← equal, List.drop_left] at absent
    exact ⟨name, absent, by rw [← equal, List.append_assoc]; rfl⟩
  · rintro ⟨name, absent, equal⟩
    have cut : path.toList = (directory.toList ++ "/".toList) ++ name := by
      rw [equal, List.append_assoc]
      rfl
    rw [cut, List.drop_left]
    exact ⟨List.prefix_append _ _, absent⟩

/-- No path lies directly under two directories. -/
theorem eq_of_isDirectlyUnder {second : String} (under : isDirectlyUnder directory path)
    (alsoUnder : isDirectlyUnder second path) : directory = second := by
  obtain ⟨name, noSlash, equal⟩ := isDirectlyUnder_iff.1 under
  obtain ⟨another, alsoNoSlash, alsoEqual⟩ := isDirectlyUnder_iff.1 alsoUnder
  refine String.toList_inj.1 ?_
  rcases List.append_eq_append_iff.1 (equal.symm.trans alsoEqual) with
    ⟨more, longer, rest⟩ | ⟨more, longer, rest⟩
  -- were one directory longer, the name under the other would have a slash
  all_goals
    cases more with
    | nil => simp [longer]
    | cons c more =>
      simp only [List.cons_append, List.cons.injEq] at rest
      simp [rest.2] at noSlash alsoNoSlash

theorem mem_list : path ∈ store.list directory ↔
    isDirectlyUnder directory path ∧ ∃ data, store.blobs.get? path = some data := by
  rw [list, List.mem_mergeSort, List.mem_filter, and_comm]
  exact and_congr_right fun _ => Table.mem_keys

theorem nodup_list (store : Memory) (directory : String) : (store.list directory).Nodup :=
  (List.mergeSort_perm _ _).nodup_iff.2 (store.blobs.distinct.sublist List.filter_sublist)

/-- Stores that hold blobs at the same paths under a directory list it in the same way. -/
theorem list_congr (same : ∀ path, isDirectlyUnder directory path →
      ((∃ data, store.blobs.get? path = some data) ↔ ∃ data, other.blobs.get? path = some data)) :
    store.list directory = other.list directory := by
  refine mergeSort_eq_of_mem_iff (store.blobs.distinct.sublist List.filter_sublist)
    (other.blobs.distinct.sublist List.filter_sublist) fun path => ?_
  rw [← List.mem_mergeSort, ← List.mem_mergeSort (l := other.blobs.keys.filter _)]
  exact mem_list.trans ((and_congr_right (same path)).trans mem_list.symm)

/-! ### Removing blobs -/

/-- The store without the blobs at certain paths. -/
def without (store : Memory) (gone : String → Bool) : Memory :=
  ⟨store.blobs.filter fun path _ => !gone path⟩

section Without

variable {gone : String → Bool}

theorem get?_without (store : Memory) (gone : String → Bool) (path : String) :
    (store.without gone).blobs.get? path = if gone path then none else store.blobs.get? path := by
  rw [without, Table.get?_filter]
  cases gone path <;> cases store.blobs.get? path <;> rfl

/-- Only the paths that hold blobs matter for what is left. -/
theorem without_congr {others : String → Bool}
    (same : ∀ path data, store.blobs.get? path = some data → gone path = others path) :
    store.without gone = store.without others := by
  refine congrArg Memory.mk (Table.ext (List.filter_congr fun binding member => ?_))
  dsimp only
  rw [same _ _ (Table.get?_eq_some_iff.2 member)]

theorem without_eq_self (kept : ∀ path data, store.blobs.get? path = some data → gone path = false) :
    store.without gone = store := by
  refine congrArg Memory.mk (Table.ext (List.filter_eq_self.2 fun binding member => ?_))
  dsimp only
  rw [kept _ _ (Table.get?_eq_some_iff.2 member)]
  rfl

theorem without_without (store : Memory) (gone others : String → Bool) :
    (store.without gone).without others = store.without fun path => gone path || others path := by
  refine congrArg Memory.mk (Table.ext ?_)
  simp only [without, Table.filter, List.filter_filter]
  refine List.filter_congr fun binding _ => ?_
  cases gone binding.1 <;> cases others binding.1 <;> rfl

/-- What goes outside a directory does not show in its list. -/
theorem list_without (outside : ∀ path, isDirectlyUnder directory path → gone path = false) :
    (store.without gone).list directory = store.list directory := by
  refine list_congr fun path under => ?_
  rw [get?_without, outside path under]
  rfl

end Without

/-- Is every path of the store its own canonical form? -/
def IsCanonical (store : Memory) : Prop :=
  ∀ path data, store.blobs.get? path = some data → canonical path = .ok path

theorem IsCanonical.without (holds : store.IsCanonical) (gone : String → Bool) :
    (store.without gone).IsCanonical := by
  intro path data there
  rw [get?_without] at there
  split at there
  · cases there
  · exact holds path data there

/-- The blob at a canonical path goes when it is removed, and no other. -/
theorem answer_remove (accepted : canonical path = .ok path) :
    store.answer (.remove path) = (store.without fun other => other = path, .ok ()) := by
  dsimp only [answer]
  rw [accepted]
  refine Prod.ext (congrArg Memory.mk (Table.ext (List.filter_congr fun binding _ => ?_))) rfl
  simp

end Memory

end Community.Blob
