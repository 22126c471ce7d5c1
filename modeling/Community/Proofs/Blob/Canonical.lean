/-
This file proves that canonical paths are confined. Which paths are refused, and what is left of the others, is
said through the pieces between their slashes alone. A path that is accepted keeps those of its pieces that name
something; cut again, it falls into just these. None of them leads upwards or nowhere, so a walk along them goes one
level down with every step, wherever it begins.
-/

import Mathlib.Data.List.Infix
import Community.Blob.Directory
import Community.Proofs.Blob.Path

namespace Community.Blob

/-- The pieces of a path between its slashes. -/
def pieces (path : String) : List (List Char) :=
  path.toList.splitOn '/'

/-- The pieces of a path that name something. -/
def namings (path : String) : List (List Char) :=
  (pieces path).filter fun piece => piece ≠ [] ∧ piece ≠ ['.']

/-- Where a piece leads from a place, which is given by the names on the way to it. -/
def enter (place : List (List Char)) (piece : List Char) : List (List Char) :=
  if piece = [] ∨ piece = ['.'] then place
  else if piece = ['.', '.'] then place.dropLast
  else place ++ [piece]

/-- Where some pieces lead from a place. -/
def walk (place : List (List Char)) (way : List (List Char)) : List (List Char) :=
  way.foldl enter place

/-! ### Cutting and joining as lists do -/

theorem splitSlashes_eq_splitOn (text : List Char) : splitSlashes text = text.splitOn '/' := by
  induction text with
  | nil => rfl
  | cons c text inductionHypothesis =>
    unfold List.splitOn at inductionHypothesis ⊢
    rw [List.splitOnP_cons_eq_if_modifyHead, ← inductionHypothesis]
    by_cases isSlash : c = '/'
    · rw [isSlash, splitSlashes_slash]
      rfl
    · obtain ⟨first, rest, cut, equal⟩ := splitSlashes_cons isSlash text
      rw [equal, cut, if_neg (by simpa using isSlash)]
      rfl

theorem joinSlashes_eq_intercalate (segments : List (List Char)) :
    joinSlashes segments = ['/'].intercalate segments := by
  induction segments with
  | nil => rfl
  | cons first rest inductionHypothesis =>
    cases rest with
    | nil => simp [joinSlashes, List.intercalate]
    | cons second more =>
      rw [joinSlashes, inductionHypothesis]
      · simp [List.intercalate]
      · exact List.cons_ne_nil second more

theorem segmentsOf_eq_namings (path : String) : segmentsOf path.toList = namings path := by
  rw [segmentsOf, splitSlashes_eq_splitOn]
  refine List.filter_congr fun piece _ => ?_
  simp [isIdle]

/-! ### Paths that are refused -/

/-- A path is refused if it is absolute, holds a character that no path may hold, leads upwards, or names
nothing. -/
theorem canonical_fails_iff (path : String) :
    (∃ error, canonical path = .error error) ↔
      path.toList.head? = some '/' ∨ '\\' ∈ path.toList ∨ '\x00' ∈ path.toList ∨
        ['.', '.'] ∈ pieces path ∨ ∀ piece ∈ pieces path, piece = [] ∨ piece = ['.'] := by
  have malformed : isMalformed path.toList = true ↔
      path.toList.head? = some '/' ∨ '\\' ∈ path.toList ∨ '\x00' ∈ path.toList := by
    simp [isMalformed, or_assoc]
  have upwards : escapes path.toList = true ↔ ['.', '.'] ∈ pieces path := by
    simp [escapes, splitSlashes_eq_splitOn, pieces]
  have nothing : segmentsOf path.toList = [] ↔ ∀ piece ∈ pieces path, piece = [] ∨ piece = ['.'] := by
    rw [segmentsOf_eq_namings, namings, List.filter_eq_nil_iff]
    simp only [decide_eq_true_eq, not_and_or, not_not]
  rw [← or_assoc, ← or_assoc, or_assoc (a := path.toList.head? = some '/'), ← malformed, ← upwards, ← nothing]
  unfold canonical
  dsimp only
  split
  · next refused => exact iff_of_true ⟨_, rfl⟩ (Or.inl refused)
  · next wellFormed =>
    split
    · next refused => exact iff_of_true ⟨_, rfl⟩ (Or.inr (Or.inl refused))
    · next inside =>
      split
      · next empty => exact iff_of_true ⟨_, rfl⟩ (Or.inr (Or.inr empty))
      · next some =>
        refine iff_of_false ?_ ?_
        · rintro ⟨error, accepted⟩
          cases accepted
        · rintro (refused | refused | empty)
          · exact wellFormed refused
          · exact inside refused
          · exact some empty

/-! ### Paths that are accepted -/

section Accepted

variable {path result : String}

theorem namings_ne_nil (accepted : canonical path = .ok result) : namings path ≠ [] := by
  rw [← segmentsOf_eq_namings]
  exact (canonical_eq_ok accepted).1

theorem isPlain_of_mem_namings (accepted : canonical path = .ok result) :
    ∀ piece ∈ namings path, IsPlain piece := fun _ member =>
  isPlain_of_canonical accepted (segmentsOf_eq_namings path ▸ member)

theorem toList_of_accepted (accepted : canonical path = .ok result) :
    result.toList = ['/'].intercalate (namings path) := by
  rw [(canonical_eq_ok accepted).2, String.toList_ofList, joinSlashes_eq_intercalate, segmentsOf_eq_namings]

/-- A canonical form falls into the pieces that it was made of. -/
theorem pieces_of_accepted (accepted : canonical path = .ok result) : pieces result = namings path := by
  rw [pieces, toList_of_accepted accepted]
  exact List.splitOn_intercalate '/' (fun piece member => (isPlain_of_mem_namings accepted piece member).noSlash)
    (namings_ne_nil accepted)

theorem leads_of_mem_pieces (accepted : canonical path = .ok result) :
    ∀ piece ∈ pieces result, piece ≠ [] ∧ piece ≠ ['.'] ∧ piece ≠ ['.', '.'] := by
  intro piece member
  rw [pieces_of_accepted accepted] at member
  obtain ⟨-, names⟩ := List.mem_filter.1 member
  obtain ⟨nonempty, elsewhere⟩ := of_decide_eq_true names
  exact ⟨nonempty, elsewhere, (isPlain_of_mem_namings accepted piece member).notUpwards⟩

/-- A slash at either end would leave an empty piece. -/
theorem slash_not_at_end (nonempty : [] ∉ pieces result) :
    result.toList.head? ≠ some '/' ∧ result.toList.getLast? ≠ some '/' := by
  constructor
  · intro absolute
    obtain ⟨rest, text⟩ := List.head?_eq_some_iff.1 absolute
    have cut := List.splitOn_append_cons_self (a := '/') [] rest
    rw [List.nil_append, ← text] at cut
    refine nonempty ?_
    rw [pieces, cut]
    exact List.mem_append_left _ List.mem_cons_self
  · intro trailing
    obtain ⟨front, text⟩ := List.getLast?_eq_some_iff.1 trailing
    have cut := List.splitOn_append_cons_self (a := '/') front []
    rw [← text] at cut
    refine nonempty ?_
    rw [pieces, cut]
    exact List.mem_append_right _ List.mem_cons_self

/-- Two paths that are accepted mean the same blob if they name the same things in the same order. -/
theorem canonical_eq_iff {other another : String} (accepted : canonical path = .ok result)
    (alsoAccepted : canonical other = .ok another) : another = result ↔ namings other = namings path := by
  constructor
  · rintro rfl
    rw [← pieces_of_accepted accepted, pieces_of_accepted alsoAccepted]
  · intro same
    rw [← String.toList_inj, toList_of_accepted accepted, toList_of_accepted alsoAccepted, same]

end Accepted

/-- Pieces that lead neither upwards nor nowhere lead one level down each. -/
theorem walk_eq_append {place way : List (List Char)}
    (leads : ∀ piece ∈ way, piece ≠ [] ∧ piece ≠ ['.'] ∧ piece ≠ ['.', '.']) : walk place way = place ++ way := by
  induction way generalizing place with
  | nil => exact (List.append_nil place).symm
  | cons piece way inductionHypothesis =>
    obtain ⟨⟨nonempty, elsewhere, notUpwards⟩, further⟩ := List.forall_mem_cons.1 leads
    have down : enter place piece = place ++ [piece] := by
      rw [enter, if_neg (not_or.2 ⟨nonempty, elsewhere⟩), if_neg notUpwards]
    rw [walk, List.foldl_cons, down]
    exact (inductionHypothesis further).trans (List.append_assoc ..)

/-- A path is refused exactly if it begins with a slash, holds a backslash or a NUL, has a piece that leads upwards,
or has no piece that names something. Of any other path there remain the pieces that name something, in their order
and with single slashes between them: there is at least one, none of them is empty, `.` or `..`, and the result has
no slash at either end. Written behind any root it leads below the root, and does so from its first piece on; the
names under which a file is kept are just these pieces. The result is its own canonical form, and two paths have the
same one if and only if they name the same things in the same order. -/
theorem canonical_confined (path : String) :
    ((∃ error, canonical path = .error error) ↔
      path.toList.head? = some '/' ∨ '\\' ∈ path.toList ∨ '\x00' ∈ path.toList ∨
        ['.', '.'] ∈ pieces path ∨ ∀ piece ∈ pieces path, piece = [] ∨ piece = ['.']) ∧
    ∀ result, canonical path = .ok result →
      namings path ≠ [] ∧ result.toList = ['/'].intercalate (namings path) ∧ pieces result = namings path ∧
      (∀ piece ∈ pieces result, piece ≠ [] ∧ piece ≠ ['.'] ∧ piece ≠ ['.', '.']) ∧
      result.toList.head? ≠ some '/' ∧ result.toList.getLast? ≠ some '/' ∧
      (∀ root, pieces (root ++ "/" ++ result) = pieces root ++ pieces result) ∧
      (∀ place front, front <+: pieces result → walk place front = place ++ front) ∧
      Directory.names result = (namings path).map String.ofList ∧
      canonical result = .ok result ∧
      ∀ other another, canonical other = .ok another → (another = result ↔ namings other = namings path) := by
  refine ⟨canonical_fails_iff path, fun result accepted => ?_⟩
  have leads := leads_of_mem_pieces accepted
  have atEnds := slash_not_at_end fun empty => (leads [] empty).1 rfl
  refine ⟨namings_ne_nil accepted, toList_of_accepted accepted, pieces_of_accepted accepted, leads, atEnds.1,
    atEnds.2, fun root => ?_, fun place front isFront => ?_, ?_, canonical_canonical accepted,
    fun other another alsoAccepted => canonical_eq_iff accepted alsoAccepted⟩
  · have joined : (root ++ "/" ++ result).toList = root.toList ++ '/' :: result.toList := by simp
    rw [pieces, joined]
    exact List.splitOn_append_cons_self _ _
  · exact walk_eq_append fun piece member => leads piece (isFront.subset member)
  · rw [Directory.names, splitSlashes_eq_splitOn, ← pieces_of_accepted accepted]
    rfl

/-- A path with empty pieces, a piece that stays, a trailing slash and pieces that merely look like leading upwards
stands for the same blob as the path without them, and leads below any root. -/
theorem canonical_confined_untidy :
    canonical "a//./.../b/" = .ok "a/.../b" ∧ canonical "a/.../b" = .ok "a/.../b" ∧
      pieces "a/.../b" = [['a'], ['.', '.', '.'], ['b']] ∧
      ∀ place, walk place (pieces "a/.../b") = place ++ pieces "a/.../b" := by
  have accepted : canonical "a//./.../b/" = .ok "a/.../b" := by decide
  obtain ⟨-, result⟩ := canonical_confined "a//./.../b/"
  obtain ⟨-, -, cut, -, -, -, -, below, -, again, -⟩ := result _ accepted
  exact ⟨accepted, again, cut.trans (by decide), fun place => below place _ (List.prefix_refl _)⟩

end Community.Blob
