/-
This file holds sets of chunk indices. A set is a list in strictly ascending order, which is also the order
in which the indices are reported.
-/

namespace Community.Upload

/-- A finite set of indices, in ascending order. -/
structure IndexSet where
  toList : List Nat
  ascending : toList.Pairwise (· < ·)
  deriving DecidableEq, Repr

namespace IndexSet

/-- The set without indices. -/
def empty : IndexSet := ⟨[], .nil⟩

instance : EmptyCollection IndexSet := ⟨empty⟩

/-- Places an index in an ascending list, unless it is there. -/
def place (index : Nat) : List Nat → List Nat
  | [] => [index]
  | first :: rest =>
    if index < first then index :: first :: rest
    else if index = first then first :: rest
    else first :: place index rest

theorem mem_place {index other : Nat} {indices : List Nat} :
    other ∈ place index indices ↔ other = index ∨ other ∈ indices := by
  induction indices with
  | nil => simp [place]
  | cons first rest inductionHypothesis =>
    simp only [place]
    split
    · simp
    · split
      · next equal => subst equal; simp
      · simp only [List.mem_cons, inductionHypothesis]
        exact or_left_comm

theorem place_ascending (index : Nat) {indices : List Nat} (ascending : indices.Pairwise (· < ·)) :
    (place index indices).Pairwise (· < ·) := by
  induction indices with
  | nil => simp [place]
  | cons first rest inductionHypothesis =>
    rw [List.pairwise_cons] at ascending
    simp only [place]
    split
    · next before =>
      refine List.pairwise_cons.2 ⟨fun other member => ?_, List.pairwise_cons.2 ascending⟩
      rcases List.mem_cons.1 member with isFirst | inRest
      · exact isFirst ▸ before
      · exact Nat.lt_trans before (ascending.1 other inRest)
    · split
      · exact List.pairwise_cons.2 ascending
      · refine List.pairwise_cons.2 ⟨fun other member => ?_, inductionHypothesis ascending.2⟩
        rcases mem_place.1 member with isIndex | inRest
        · omega
        · exact ascending.1 other inRest

/-- Adds an index. -/
def insert (indices : IndexSet) (index : Nat) : IndexSet :=
  ⟨place index indices.toList, place_ascending index indices.ascending⟩

/-- All indices below a bound. -/
def below (bound : Nat) : IndexSet :=
  ⟨List.range bound, List.pairwise_lt_range⟩

/-- The number of indices. -/
def size (indices : IndexSet) : Nat :=
  indices.toList.length

instance : Membership Nat IndexSet := ⟨fun indices index => index ∈ indices.toList⟩

theorem mem_insert {indices : IndexSet} {index other : Nat} :
    other ∈ indices.insert index ↔ other = index ∨ other ∈ indices :=
  mem_place

theorem mem_below {bound index : Nat} : index ∈ below bound ↔ index < bound :=
  List.mem_range

end IndexSet

end Community.Upload
