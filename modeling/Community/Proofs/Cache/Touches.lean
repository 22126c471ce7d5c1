/-
This file proves that the keys by their last use are a list in which a touch moves its key to the back. Keys are
touched, removed, evicted from the front and all forgotten, in any order; what is kept of them is a plain list
without duplicates that undergoes the same. The stamp of a key is the number of touches before its last one.
Stamps therefore never come again, not even after all keys have been forgotten, and their order is the order of
the last touches.
-/

import Mathlib.Data.List.Induction
import Community.Proofs.Cache.Recency

namespace Community.Cache.Recency

/-! ### Uses of keys -/

/-- What can be done with keys that are kept by their last use. -/
inductive Use
  | touch (key : String)
  | remove (key : String)
  | evictOldest
  | clear
  deriving DecidableEq

/-- The recency after a use. -/
def perform (recency : Recency) : Use → Recency
  | .touch key => recency.touch key
  | .remove key => recency.remove key
  | .evictOldest => recency.evictOldest.1
  | .clear => recency.clear

/-- The recency after some uses, the earliest first. -/
def run (history : List Use) : Recency :=
  history.foldl perform .empty

/-- The keys that are evicted one after the other, until none is left or as many are gone as asked for. -/
def evictions (recency : Recency) : Nat → List String
  | 0 => []
  | count + 1 =>
    match recency.evictOldest with
    | (rest, some key) => key :: rest.evictions count
    | (_, none) => []

/-- A list of keys after a use: a key that is touched goes to the back, and the one at the front is evicted. -/
def Use.replay (keys : List String) : Use → List String
  | .touch key => keys.filter (· ≠ key) ++ [key]
  | .remove key => keys.filter (· ≠ key)
  | .evictOldest => keys.tail
  | .clear => []

/-- A list of keys after some uses, the earliest first. -/
def replay (history : List Use) : List String :=
  history.foldl Use.replay []

/-- The key that is touched. -/
def Use.touched? : Use → Option String
  | .touch key => some key
  | .remove _ | .evictOldest | .clear => none

/-- The keys that are touched, the earliest touch first. -/
def touched (history : List Use) : List String :=
  history.filterMap Use.touched?

/-- Is this the position of the last touch of a key? -/
structure IsLastTouch (touches : List String) (key : String) (position : Nat) : Prop where
  here : touches[position]? = some key
  last : ∀ later, position < later → touches[later]? ≠ some key

variable {recency : Recency} {keys touches : List String} {key other : String} {stamp position : Nat}

/-! ### The list of the keys -/

namespace Orders

/-- Every use does to the keys what it does to their list. -/
theorem perform (orders : recency.Orders keys) (use : Use) :
    (recency.perform use).Orders (use.replay keys) := by
  cases use with
  | touch key => exact orders.touch key
  | remove key => exact orders.remove key
  | clear => exact .clear recency
  | evictOldest =>
    unfold Recency.perform
    cases keys with
    | nil =>
      rw [orders.evictOldest_nil]
      exact orders
    | cons first rest =>
      obtain ⟨evicted, left⟩ := orders.evictOldest_eq
      rw [evicted]
      exact left

theorem run (history : List Use) : (run history).Orders (replay history) := by
  induction history using List.reverseRecOn with
  | nil => exact .empty
  | append_singleton history use inductionHypothesis =>
    unfold Recency.run replay
    rw [List.foldl_concat, List.foldl_concat]
    exact inductionHypothesis.perform use

theorem evictions_eq (orders : recency.Orders keys) (count : Nat) :
    recency.evictions count = keys.take count := by
  induction count generalizing recency keys with
  | zero => rw [evictions, List.take_zero]
  | succ count inductionHypothesis =>
    cases keys with
    | nil => rw [evictions, orders.evictOldest_nil, List.take_nil]
    | cons first rest =>
      obtain ⟨evicted, left⟩ := orders.evictOldest_eq
      rw [evictions, evicted, List.take_succ_cons]
      exact congrArg (first :: ·) (inductionHypothesis left)

theorem stamp?_eq_some_iff (orders : recency.Orders keys) :
    recency.stamp? key = some stamp ↔ recency.byStamp.get? stamp = some key :=
  (orders.inverse key stamp).trans Table.get?_eq_some_iff.symm

theorem contains_iff (orders : recency.Orders keys) : recency.contains key ↔ key ∈ keys := by
  unfold contains Table.contains
  rw [Option.isSome_iff_exists]
  refine ⟨fun ⟨stamp, found⟩ => ?_, orders.exists_stamp⟩
  rw [← orders.values]
  exact List.mem_map_of_mem (f := Prod.snd) ((orders.inverse key stamp).1 found)

theorem stamp?_lt (orders : recency.Orders keys) (found : recency.stamp? key = some stamp) :
    stamp < recency.nextStamp :=
  orders.bounded _ ((orders.inverse key stamp).1 found)

/-- Along the list the stamps ascend. -/
theorem pairwise_stamps (orders : recency.Orders keys) :
    keys.Pairwise fun one other => ∃ earlier later,
      recency.stamp? one = some earlier ∧ recency.stamp? other = some later ∧ earlier < later := by
  rw [← orders.values, List.pairwise_map]
  refine (List.pairwise_map.1 orders.ascending).imp_of_mem fun {one other} member alsoMember ascends => ?_
  exact ⟨one.1, other.1, (orders.inverse _ _).2 member, (orders.inverse _ _).2 alsoMember, ascends⟩

end Orders

/-! ### The numbers of the touches -/

namespace IsLastTouch

theorem unique {another : Nat} (isLast : IsLastTouch touches key position)
    (alsoLast : IsLastTouch touches key another) : position = another := by
  rcases Nat.lt_trichotomy position another with before | same | after
  · exact absurd alsoLast.here (isLast.last another before)
  · exact same
  · exact absurd isLast.here (alsoLast.last position after)

/-- A touch of another key leaves the last touch where it is. -/
theorem concat (isLast : IsLastTouch touches key position) (differs : other ≠ key) :
    IsLastTouch (touches ++ [other]) key position := by
  have inside := (List.getElem?_eq_some_iff.1 isLast.here).1
  refine ⟨(List.getElem?_append_left inside).trans isLast.here, fun later after again => ?_⟩
  rw [List.getElem?_append] at again
  split at again
  · exact isLast.last later after again
  · have touchedAgain := List.mem_of_getElem? again
    exact differs (List.mem_singleton.1 touchedAgain).symm

theorem self (touches : List String) (key : String) :
    IsLastTouch (touches ++ [key]) key touches.length := by
  refine ⟨List.getElem?_concat_length, fun later after again => ?_⟩
  have inside := (List.getElem?_eq_some_iff.1 again).1
  rw [List.length_append, List.length_singleton] at inside
  omega

end IsLastTouch

/-- As many stamps are given out as there were touches, and a key's stamp is the number of touches before its
last one. -/
structure Numbers (recency : Recency) (touches : List String) : Prop where
  next : recency.nextStamp = touches.length
  stamps : ∀ key stamp, recency.stamp? key = some stamp → IsLastTouch touches key stamp

namespace Numbers

theorem empty : Recency.empty.Numbers [] where
  next := rfl
  stamps _ _ found := by cases found

theorem touch (numbers : recency.Numbers touches) (key : String) :
    (recency.touch key).Numbers (touches ++ [key]) where
  next := by
    rw [List.length_append, List.length_singleton, ← numbers.next]
    rfl
  stamps other stamp found := by
    unfold stamp? Recency.touch at found
    rw [Table.get?_insert] at found
    split at found
    · next same =>
      rw [← Option.some.inj found, numbers.next, ← same]
      exact .self touches key
    · next differs => exact (numbers.stamps other stamp found).concat differs

/-- To forget keys is to give out no stamp. -/
theorem forget {later : Recency} (numbers : recency.Numbers touches)
    (next : later.nextStamp = recency.nextStamp)
    (stamps : ∀ key stamp, later.stamp? key = some stamp → recency.stamp? key = some stamp) :
    later.Numbers touches :=
  ⟨next.trans numbers.next, fun key stamp found => numbers.stamps key stamp (stamps key stamp found)⟩

theorem erase (numbers : recency.Numbers touches) (key : String) (order : Table Nat String) :
    Numbers { recency with lastAccess := recency.lastAccess.erase key, byStamp := order } touches := by
  refine numbers.forget rfl fun other stamp found => ?_
  unfold stamp? at found
  rw [Table.get?_erase] at found
  split at found
  · cases found
  · exact found

theorem remove (numbers : recency.Numbers touches) (key : String) : (recency.remove key).Numbers touches := by
  unfold Recency.remove
  split
  · exact numbers.erase key _
  · exact numbers

theorem evictOldest (numbers : recency.Numbers touches) : recency.evictOldest.1.Numbers touches := by
  unfold Recency.evictOldest
  split
  · exact numbers.erase _ _
  · exact numbers

theorem clear (numbers : recency.Numbers touches) : recency.clear.Numbers touches :=
  numbers.forget rfl fun _ _ found => by cases found

theorem perform (numbers : recency.Numbers touches) (use : Use) :
    (recency.perform use).Numbers (touches ++ use.touched?.toList) := by
  have untouched : touches ++ (none : Option String).toList = touches := List.append_nil touches
  cases use with
  | touch key => exact numbers.touch key
  | remove key => exact untouched.symm ▸ numbers.remove key
  | evictOldest => exact untouched.symm ▸ numbers.evictOldest
  | clear => exact untouched.symm ▸ numbers.clear

theorem run (history : List Use) : (run history).Numbers (touched history) := by
  induction history using List.reverseRecOn with
  | nil => exact .empty
  | append_singleton history use inductionHypothesis =>
    unfold Recency.run touched
    rw [List.foldl_concat, List.filterMap_append, List.filterMap_cons, List.filterMap_nil]
    have further := inductionHypothesis.perform use
    cases use <;> exact further

end Numbers

theorem stamp?_touch (recency : Recency) (key : String) :
    (recency.touch key).stamp? key = some recency.nextStamp :=
  Table.get?_insert_self _ _ _

theorem touched_append (before rest : List Use) :
    touched (before ++ rest) = touched before ++ touched rest :=
  List.filterMap_append

/-- Whatever has been done with keys, what is kept of them is the list in which every touch has moved its key to
the back and nothing else has changed the order. The two tables are inverse to each other. The stamps lie below the
next one, which is the number of all touches and so at most that of all uses: after fewer uses than `2 ^ 64` it fits
in 64 bits. A key that is kept has the number of touches before its last one as its stamp. A touch gets a larger
stamp than every earlier one, whatever was done in between. The list has each kept key once, in the order of the last
touches, and from its front the keys are evicted, as many as are asked for. -/
theorem kept_by_last_touch (history : List Use) :
    let recency := run history
    let keys := replay history
    ((∀ key stamp, recency.lastAccess.get? key = some stamp ↔ recency.byStamp.get? stamp = some key) ∧
      (∀ key stamp, recency.stamp? key = some stamp → stamp < recency.nextStamp) ∧
      recency.nextStamp = (touched history).length ∧ recency.nextStamp ≤ history.length) ∧
    (∀ key stamp, recency.stamp? key = some stamp ↔ key ∈ keys ∧ IsLastTouch (touched history) key stamp) ∧
    (∀ before rest one other, history = before ++ .touch one :: rest → ∃ earlier later,
      ((run before).touch one).stamp? one = some earlier ∧ (recency.touch other).stamp? other = some later ∧
        earlier < later) ∧
    keys.Nodup ∧ (∀ key, recency.contains key ↔ key ∈ keys) ∧ recency.size = keys.length ∧
    (keys.Pairwise fun one other => ∃ earlier later,
      IsLastTouch (touched history) one earlier ∧ IsLastTouch (touched history) other later ∧ earlier < later) ∧
    recency.oldest? = keys.head? ∧ ∀ count, recency.evictions count = keys.take count := by
  intro recency keys
  have orders : recency.Orders keys := .run history
  have numbers : recency.Numbers (touched history) := .run history
  refine ⟨⟨fun key stamp => orders.stamp?_eq_some_iff, fun key stamp => orders.stamp?_lt, numbers.next, ?_⟩,
    fun key stamp => ⟨fun found => ⟨?_, numbers.stamps key stamp found⟩, fun ⟨member, isLast⟩ => ?_⟩,
    fun before rest one other parts => ?_, orders.distinct, fun key => orders.contains_iff, orders.size_eq, ?_,
    orders.oldest?_eq, orders.evictions_eq⟩
  · rw [numbers.next]
    exact List.length_filterMap_le _ _
  · exact orders.contains_iff.1 (Option.isSome_iff_exists.2 ⟨stamp, found⟩)
  · obtain ⟨given, found⟩ := orders.exists_stamp member
    rw [isLast.unique (numbers.stamps key given found)]
    exact found
  · refine ⟨_, _, stamp?_touch _ one, stamp?_touch recency other, ?_⟩
    rw [(Numbers.run before).next, numbers.next, parts, touched_append, List.length_append]
    exact Nat.lt_add_of_pos_right (Nat.zero_lt_succ _)
  · refine orders.pairwise_stamps.imp fun ⟨earlier, later, first, second, ascends⟩ => ?_
    exact ⟨earlier, later, numbers.stamps _ _ first, numbers.stamps _ _ second, ascends⟩

/-- Three keys that are touched twice go in the order of their second touches. -/
example :
    (run [.touch "a", .touch "b", .touch "c", .touch "a", .touch "c", .touch "b"]).evictions 4 =
      ["a", "c", "b"] := by decide

end Community.Cache.Recency
