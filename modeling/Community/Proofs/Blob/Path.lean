/-
This file proves that a path written with plain segments is its own canonical form. A text is cut at its
slashes and joined again without loss, so two paths with plain segments are the same only if their segments
are. The segments that count in any path that is accepted are plain, so a canonical form is canonical itself.
-/

import Mathlib.Data.List.Basic
import Community.Blob.Path

namespace Community.Blob

/-- A segment that a canonical path can have. -/
structure IsPlain (segment : List Char) : Prop where
  notIdle : isIdle segment = false
  notUpwards : segment ≠ ['.', '.']
  noSlash : '/' ∉ segment
  noBackslash : '\\' ∉ segment
  noNul : '\x00' ∉ segment

variable {segment : List Char} {segments others : List (List Char)}

/-! ### Cutting at slashes and joining -/

theorem splitSlashes_ne_nil (text : List Char) : splitSlashes text ≠ [] := by
  cases text with
  | nil => nofun
  | cons c text =>
    rw [splitSlashes]
    split
    · nofun
    · split <;> nofun

theorem splitSlashes_cons {c : Char} (ordinary : c ≠ '/') (text : List Char) :
    ∃ first rest, splitSlashes text = first :: rest ∧
      splitSlashes (c :: text) = (c :: first) :: rest := by
  rw [splitSlashes]
  cases cut : splitSlashes text with
  | nil => exact absurd cut (splitSlashes_ne_nil text)
  | cons first rest => exact ⟨first, rest, rfl, if_neg ordinary⟩

theorem splitSlashes_slash (text : List Char) :
    splitSlashes ('/' :: text) = [] :: splitSlashes text := by
  rw [splitSlashes]
  cases cut : splitSlashes text with
  | nil => exact absurd cut (splitSlashes_ne_nil text)
  | cons first rest => rfl

theorem splitSlashes_of_notMem (absent : '/' ∉ segment) : splitSlashes segment = [segment] := by
  induction segment with
  | nil => rfl
  | cons c text inductionHypothesis =>
    rw [List.mem_cons, not_or] at absent
    obtain ⟨first, rest, cut, equal⟩ := splitSlashes_cons (Ne.symm absent.1) text
    rw [inductionHypothesis absent.2] at cut
    cases cut
    exact equal

theorem splitSlashes_append (absent : '/' ∉ segment) (text : List Char) :
    splitSlashes (segment ++ '/' :: text) = segment :: splitSlashes text := by
  induction segment with
  | nil => exact splitSlashes_slash text
  | cons c more inductionHypothesis =>
    rw [List.mem_cons, not_or] at absent
    obtain ⟨first, rest, cut, equal⟩ :=
      splitSlashes_cons (Ne.symm absent.1) (more ++ '/' :: text)
    rw [inductionHypothesis absent.2] at cut
    cases cut
    exact equal

theorem noSlash_of_mem_splitSlashes {text : List Char} (member : segment ∈ splitSlashes text) : '/' ∉ segment := by
  induction text generalizing segment with
  | nil =>
    cases List.mem_singleton.1 member
    nofun
  | cons c text inductionHypothesis =>
    by_cases isSlash : c = '/'
    · subst isSlash
      rw [splitSlashes_slash] at member
      rcases List.mem_cons.1 member with rfl | later
      · nofun
      · exact inductionHypothesis later
    · obtain ⟨first, rest, cut, equal⟩ := splitSlashes_cons isSlash text
      rw [equal] at member
      rw [cut] at inductionHypothesis
      rcases List.mem_cons.1 member with rfl | later
      · rw [List.mem_cons, not_or]
        exact ⟨Ne.symm isSlash, inductionHypothesis List.mem_cons_self⟩
      · exact inductionHypothesis (List.mem_cons_of_mem _ later)

/-- Cutting adds nothing. -/
theorem mem_of_mem_splitSlashes {text : List Char} {c : Char} (member : segment ∈ splitSlashes text)
    (inside : c ∈ segment) : c ∈ text := by
  induction text generalizing segment with
  | nil =>
    cases List.mem_singleton.1 member
    cases inside
  | cons d text inductionHypothesis =>
    by_cases isSlash : d = '/'
    · subst isSlash
      rw [splitSlashes_slash] at member
      rcases List.mem_cons.1 member with rfl | later
      · cases inside
      · exact List.mem_cons_of_mem _ (inductionHypothesis later inside)
    · obtain ⟨first, rest, cut, equal⟩ := splitSlashes_cons isSlash text
      rw [equal] at member
      rw [cut] at inductionHypothesis
      rcases List.mem_cons.1 member with rfl | later
      · rcases List.mem_cons.1 inside with rfl | further
        · exact List.mem_cons_self
        · exact List.mem_cons_of_mem _ (inductionHypothesis List.mem_cons_self further)
      · exact List.mem_cons_of_mem _ (inductionHypothesis (List.mem_cons_of_mem _ later) inside)

/-- Segments that are joined come back when the path is cut. -/
theorem splitSlashes_joinSlashes (nonempty : segments ≠ [])
    (absent : ∀ segment ∈ segments, '/' ∉ segment) :
    splitSlashes (joinSlashes segments) = segments := by
  induction segments with
  | nil => exact absurd rfl nonempty
  | cons first rest inductionHypothesis =>
    have absentHere := absent first List.mem_cons_self
    cases rest with
    | nil => exact splitSlashes_of_notMem absentHere
    | cons second more =>
      rw [joinSlashes, splitSlashes_append absentHere, inductionHypothesis nofun fun segment member =>
        absent segment (List.mem_cons_of_mem _ member)]
      nofun

theorem joinSlashes_inj (nonempty : segments ≠ []) (alsoNonempty : others ≠ [])
    (absent : ∀ segment ∈ segments, '/' ∉ segment) (alsoAbsent : ∀ segment ∈ others, '/' ∉ segment)
    (equal : joinSlashes segments = joinSlashes others) : segments = others := by
  rw [← splitSlashes_joinSlashes nonempty absent, equal,
    splitSlashes_joinSlashes alsoNonempty alsoAbsent]

/-- Joining adds nothing but slashes. -/
theorem mem_joinSlashes {c : Char} (member : c ∈ joinSlashes segments) (ordinary : c ≠ '/') :
    ∃ segment ∈ segments, c ∈ segment := by
  induction segments with
  | nil => cases member
  | cons first rest inductionHypothesis =>
    cases rest with
    | nil => exact ⟨first, List.mem_cons_self, member⟩
    | cons second more =>
      rw [joinSlashes, List.mem_append, List.mem_cons] at member
      · rcases member with here | isSlash | later
        · exact ⟨first, List.mem_cons_self, here⟩
        · exact absurd isSlash ordinary
        · obtain ⟨segment, among, inside⟩ := inductionHypothesis later
          exact ⟨segment, List.mem_cons_of_mem _ among, inside⟩
      · nofun

/-! ### Canonical forms -/

/-- A path whose segments that count are plain has these, joined, as its canonical form. -/
theorem canonical_eq_ok {path canonicalPath : String} (accepted : canonical path = .ok canonicalPath) :
    segmentsOf path.toList ≠ [] ∧
      canonicalPath = String.ofList (joinSlashes (segmentsOf path.toList)) := by
  unfold canonical at accepted
  dsimp only at accepted
  split at accepted
  · cases accepted
  · split at accepted
    · cases accepted
    · split at accepted
      · cases accepted
      · next some =>
        cases accepted
        exact ⟨some, rfl⟩

theorem segmentsOf_joinSlashes (nonempty : segments ≠ [])
    (plain : ∀ segment ∈ segments, IsPlain segment) :
    segmentsOf (joinSlashes segments) = segments := by
  rw [segmentsOf, splitSlashes_joinSlashes nonempty fun segment member =>
    (plain segment member).noSlash, List.filter_eq_self]
  intro segment member
  rw [(plain segment member).notIdle]
  rfl

theorem isMalformed_joinSlashes (plain : ∀ segment ∈ segments, IsPlain segment) :
    isMalformed (joinSlashes segments) = false := by
  have relative : (joinSlashes segments).head? ≠ some '/' := by
    cases segments with
    | nil => nofun
    | cons first rest =>
      have plainHere := plain first List.mem_cons_self
      cases first with
      | nil => cases plainHere.notIdle
      | cons c text =>
        intro absolute
        have isSlash : c = '/' := by
          cases rest <;> simpa [joinSlashes] using absolute
        exact plainHere.noSlash (isSlash ▸ List.mem_cons_self)
  have noBackslash : '\\' ∉ joinSlashes segments := fun member => by
    obtain ⟨segment, among, inside⟩ := mem_joinSlashes member (by decide)
    exact (plain segment among).noBackslash inside
  have noNul : '\x00' ∉ joinSlashes segments := fun member => by
    obtain ⟨segment, among, inside⟩ := mem_joinSlashes member (by decide)
    exact (plain segment among).noNul inside
  simp [isMalformed, relative, noBackslash, noNul]

/-- A path with plain segments is canonical. -/
theorem canonical_joinSlashes (nonempty : segments ≠ [])
    (plain : ∀ segment ∈ segments, IsPlain segment) :
    canonical (String.ofList (joinSlashes segments)) =
      .ok (String.ofList (joinSlashes segments)) := by
  have inside : escapes (joinSlashes segments) = false := by
    rw [escapes, splitSlashes_joinSlashes nonempty fun segment member =>
      (plain segment member).noSlash]
    simp only [List.contains_eq_mem, decide_eq_false_iff_not]
    exact fun upwards => (plain _ upwards).notUpwards rfl
  unfold canonical
  dsimp only
  rw [String.toList_ofList, isMalformed_joinSlashes plain, inside,
    segmentsOf_joinSlashes nonempty plain]
  cases segments with
  | nil => exact absurd rfl nonempty
  | cons first rest => rfl

/-- The segments that count in a path that is accepted are plain. -/
theorem isPlain_of_canonical {path canonicalPath : String} (accepted : canonical path = .ok canonicalPath)
    (member : segment ∈ segmentsOf path.toList) : IsPlain segment := by
  unfold canonical at accepted
  dsimp only at accepted
  split at accepted
  · cases accepted
  · next wellFormed =>
    split at accepted
    · cases accepted
    · next inside =>
      obtain ⟨among, counts⟩ := List.mem_filter.1 member
      have absent {c : Char} (missing : c ∉ path.toList) : c ∉ segment :=
        fun here => missing (mem_of_mem_splitSlashes among here)
      simp only [isMalformed, Bool.or_eq_true, List.contains_eq_mem, decide_eq_true_eq, not_or] at wellFormed
      simp only [escapes, List.contains_eq_mem, decide_eq_true_eq] at inside
      exact {
        notIdle := by simpa using counts
        notUpwards := fun upwards => inside (upwards ▸ among)
        noSlash := noSlash_of_mem_splitSlashes among
        noBackslash := absent wellFormed.1.2
        noNul := absent wellFormed.2 }

/-- A canonical form is its own canonical form. -/
theorem canonical_canonical {path canonicalPath : String} (accepted : canonical path = .ok canonicalPath) :
    canonical canonicalPath = .ok canonicalPath := by
  obtain ⟨nonempty, rfl⟩ := canonical_eq_ok accepted
  exact canonical_joinSlashes nonempty fun segment member => isPlain_of_canonical accepted member

end Community.Blob
