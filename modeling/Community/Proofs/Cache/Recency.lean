/-
This file proves that the recency of keys is what it is meant to be: a list of keys, the least recently used
first. A touch moves its key to the end of the list, and the key that goes first is at its front. The stamps
stand in ascending order and below the next one, so a new stamp is none of those that are given out.
-/

import Mathlib.Data.List.Nodup
import Mathlib.Data.Prod.Basic
import Community.Cache.Recency

namespace Community

/-! ### Bindings of tables -/

namespace Table

variable {κ ν : Type} [DecidableEq κ] {table : Table κ ν} {key : κ} {value : ν}

theorem bindings_erase :
    (table.erase key).bindings = table.bindings.filter fun binding => binding.1 ≠ key := rfl

theorem bind_of_notMem {bindings : List (κ × ν)} (fresh : key ∉ bindings.map Prod.fst) :
    bind key value bindings = bindings ++ [(key, value)] := by
  induction bindings with
  | nil => rfl
  | cons binding rest inductionHypothesis =>
    rw [List.map_cons, List.mem_cons, not_or] at fresh
    rw [bind, if_neg (Ne.symm fresh.1), inductionHypothesis fresh.2, List.cons_append]

/-- A new key is bound at the end. -/
theorem bindings_insert_of_fresh (fresh : key ∉ table.bindings.map Prod.fst) (value : ν) :
    (table.insert key value).bindings = table.bindings ++ [(key, value)] :=
  bind_of_notMem fresh

theorem size_insert_of_fresh (fresh : table.get? key = none) (value : ν) :
    (table.insert key value).size = table.size + 1 := by
  have absent : key ∉ table.bindings.map Prod.fst := by
    intro bound
    obtain ⟨binding, member, rfl⟩ := List.mem_map.1 bound
    cases fresh.symm.trans (get?_eq_some_iff.2 member)
  exact (congrArg List.length (bindings_insert_of_fresh absent value)).trans List.length_append

theorem size_erase (found : table.get? key = some value) : (table.erase key).size + 1 = table.size := by
  have once : (table.bindings.map Prod.fst).count key = 1 :=
    List.count_eq_one_of_mem table.distinct (List.mem_map_of_mem (get?_eq_some_iff.1 found))
  rw [List.count, List.countP_map] at once
  have others : (table.erase key).size = table.bindings.countP fun binding => ¬(binding.1 == key) = true := by
    rw [size, bindings_erase, ← List.countP_eq_length_filter]
    exact List.countP_congr fun binding _ => by simp
  rw [others, Nat.add_comm, ← once]
  exact (List.length_eq_countP_add_countP _).symm

theorem bind_perm {bindings : List (κ × ν)} (distinct : (bindings.map Prod.fst).Nodup) :
    (bind key value bindings).Perm
      ((bindings.filter fun binding => binding.1 ≠ key) ++ [(key, value)]) := by
  induction bindings with
  | nil => rfl
  | cons binding rest inductionHypothesis =>
    obtain ⟨absent, distinctRest⟩ := List.nodup_cons.1 distinct
    by_cases same : binding.1 = key
    · subst same
      have others : (rest.filter fun other => other.1 ≠ binding.1) = rest :=
        List.filter_eq_self.2 fun other member =>
          decide_eq_true fun equal => absent (List.mem_map.2 ⟨other, member, equal⟩)
      rw [bind, if_pos rfl, List.filter_cons_of_neg (by simp), others]
      exact (List.perm_append_singleton _ _).symm
    · rw [bind, if_neg same, List.filter_cons_of_pos (by simpa using same), List.cons_append]
      exact (inductionHypothesis distinctRest).cons _

/-- A key that is bound anew changes places at most. -/
theorem bindings_insert_perm (table : Table κ ν) (key : κ) (value : ν) :
    (table.insert key value).bindings.Perm ((table.erase key).bindings ++ [(key, value)]) :=
  bind_perm table.distinct

end Table

namespace Cache.Recency

/-- The keys by their last use, the least recently used first. -/
structure Orders (recency : Recency) (keys : List String) : Prop where
  values : recency.byStamp.bindings.map Prod.snd = keys
  distinct : keys.Nodup
  ascending : (recency.byStamp.bindings.map Prod.fst).Pairwise (· < ·)
  bounded : ∀ binding ∈ recency.byStamp.bindings, binding.1 < recency.nextStamp
  inverse : ∀ key stamp,
    recency.lastAccess.get? key = some stamp ↔ (stamp, key) ∈ recency.byStamp.bindings

namespace Orders

variable {recency : Recency} {keys rest : List String} {key : String} {stamp : Nat}

theorem empty : Recency.empty.Orders [] where
  values := rfl
  distinct := List.nodup_nil
  ascending := List.Pairwise.nil
  bounded _ member := by cases member
  inverse _ _ := ⟨fun found => (by cases found), fun member => (by cases member)⟩

/-- A key has one stamp, and a stamp has one key. -/
theorem stamp_iff (orders : recency.Orders keys) (found : recency.lastAccess.get? key = some stamp)
    {binding : Nat × String} (member : binding ∈ recency.byStamp.bindings) :
    binding.1 ≠ stamp ↔ binding.2 ≠ key := by
  have here := (orders.inverse key stamp).1 found
  refine not_congr ⟨fun same => ?_, fun same => ?_⟩
  · have leads : recency.byStamp.get? stamp = some binding.2 :=
      Table.get?_eq_some_iff.2 (by rw [← same]; exact member)
    exact Option.some.inj (leads.symm.trans (Table.get?_eq_some_iff.2 here))
  · have leads := (orders.inverse key binding.1).2 (by rw [← same]; exact member)
    exact Option.some.inj (leads.symm.trans found)

/-- To forget the stamp of a key is to forget the key. -/
theorem bindings_erase (orders : recency.Orders keys)
    (found : recency.lastAccess.get? key = some stamp) :
    (recency.byStamp.erase stamp).bindings =
      recency.byStamp.bindings.filter fun binding => binding.2 ≠ key := by
  rw [Table.bindings_erase]
  refine List.filter_congr fun binding member => ?_
  rw [decide_eq_decide]
  exact orders.stamp_iff found member

theorem exists_stamp (orders : recency.Orders keys) (member : key ∈ keys) :
    ∃ stamp, recency.lastAccess.get? key = some stamp := by
  rw [← orders.values] at member
  obtain ⟨⟨stamp, other⟩, bound, rfl⟩ := List.mem_map.1 member
  exact ⟨stamp, (orders.inverse other stamp).2 bound⟩

/-- A key that is forgotten in both tables is gone from the list. -/
theorem without (orders : recency.Orders keys) {order : Table Nat String}
    (bindings : order.bindings = recency.byStamp.bindings.filter fun binding => binding.2 ≠ key) :
    Orders { recency with lastAccess := recency.lastAccess.erase key, byStamp := order }
      (keys.filter (· ≠ key)) where
  values := by
    rw [bindings, ← orders.values, List.filter_map]
    rfl
  distinct := orders.distinct.filter _
  ascending := by
    rw [bindings]
    exact orders.ascending.sublist (List.filter_sublist.map Prod.fst)
  bounded binding member := by
    rw [bindings] at member
    exact orders.bounded binding (List.mem_filter.1 member).1
  inverse other stamp := by
    rw [bindings, List.mem_filter, Table.get?_erase, ← orders.inverse]
    by_cases same : key = other
    · simp [same]
    · simp [same, Ne.symm same]

/-- A key that is forgotten leaves the others in their order. -/
theorem remove (orders : recency.Orders keys) (key : String) :
    (recency.remove key).Orders (keys.filter (· ≠ key)) := by
  unfold Recency.remove
  split
  · next stamp found => exact orders.without (orders.bindings_erase found)
  · next unknown =>
    have absent : keys.filter (· ≠ key) = keys := by
      refine List.filter_eq_self.2 fun other member => decide_eq_true ?_
      rintro rfl
      obtain ⟨stamp, found⟩ := orders.exists_stamp member
      rw [unknown] at found
      cases found
    rwa [absent]

/-- A key that is absent and gets the next stamp goes to the end. -/
theorem append (orders : recency.Orders keys) (absent : key ∉ keys)
    {access : Table String Nat}
    (accessed : ∀ other, access.get? other =
      if key = other then some recency.nextStamp else recency.lastAccess.get? other) :
    Orders ⟨access, recency.byStamp.insert recency.nextStamp key, recency.nextStamp + 1⟩
      (keys ++ [key]) := by
  have fresh : recency.nextStamp ∉ recency.byStamp.bindings.map Prod.fst := by
    intro bound
    obtain ⟨binding, member, same⟩ := List.mem_map.1 bound
    exact absurd (orders.bounded binding member) (by omega)
  have appended := Table.bindings_insert_of_fresh fresh key
  refine ⟨?_, ?_, ?_, ?_, ?_⟩
  · rw [appended, List.map_append, orders.values]
    rfl
  · refine List.nodup_append.2 ⟨orders.distinct, by simp, fun first member second isKey same => ?_⟩
    rw [same, List.mem_singleton.1 isKey] at member
    exact absent member
  · rw [appended, List.map_append, List.pairwise_append]
    refine ⟨orders.ascending, List.pairwise_singleton _ _, fun first member second isNext => ?_⟩
    obtain ⟨binding, bound, rfl⟩ := List.mem_map.1 member
    rw [List.mem_singleton.1 isNext]
    exact orders.bounded binding bound
  · intro binding member
    rw [appended, List.mem_append] at member
    rcases member with old | new
    · exact Nat.lt_succ_of_lt (orders.bounded binding old)
    · rw [List.mem_singleton.1 new]
      exact Nat.lt_succ_self _
  · intro other stamp
    rw [appended, List.mem_append, accessed, ← orders.inverse]
    by_cases same : key = other
    · subst same
      have unstamped : recency.lastAccess.get? key ≠ some stamp := fun found =>
        absent (orders.values ▸ List.mem_map.2 ⟨_, (orders.inverse key stamp).1 found, rfl⟩)
      simp [unstamped, eq_comm]
    · simp [same, Ne.symm same]

/-- A key that is touched goes to the end. -/
theorem touch (orders : recency.Orders keys) (key : String) :
    (recency.touch key).Orders (keys.filter (· ≠ key) ++ [key]) := by
  obtain ⟨order, bindings, touched⟩ : ∃ order : Table Nat String,
      order.bindings = recency.byStamp.bindings.filter (fun binding => binding.2 ≠ key) ∧
        recency.touch key = ⟨recency.lastAccess.insert key recency.nextStamp,
          order.insert recency.nextStamp key, recency.nextStamp + 1⟩ := by
    unfold Recency.touch
    cases found : recency.lastAccess.get? key with
    | some stamp => exact ⟨_, orders.bindings_erase found, rfl⟩
    | none =>
      refine ⟨_, (List.filter_eq_self.2 fun binding member => decide_eq_true ?_).symm, rfl⟩
      rintro rfl
      rw [(orders.inverse _ _).2 member] at found
      cases found
  rw [touched]
  refine (orders.without bindings).append (by simp) fun other => ?_
  dsimp only
  rw [Table.get?_insert, Table.get?_erase]
  split <;> rfl

/-- The least recently used key is the first. -/
theorem oldest?_eq (orders : recency.Orders keys) : recency.oldest? = keys.head? := by
  rw [← orders.values]
  rfl

/-- The key that is evicted is the first, and it is forgotten like any other. -/
theorem evictOldest_eq (orders : recency.Orders (key :: rest)) :
    recency.evictOldest = (recency.remove key, some key) ∧ (recency.remove key).Orders rest := by
  have forgotten : (key :: rest).filter (· ≠ key) = rest := by
    rw [List.filter_cons_of_neg (by simp)]
    refine List.filter_eq_self.2 fun other member => decide_eq_true ?_
    rintro rfl
    exact (List.nodup_cons.1 orders.distinct).1 member
  refine ⟨?_, forgotten ▸ orders.remove key⟩
  obtain ⟨⟨stamp, first⟩, others, bindings, rfl, -⟩ := List.map_eq_cons_iff.1 orders.values
  have found := (orders.inverse first stamp).2 (by rw [bindings]; exact List.mem_cons_self)
  unfold Recency.evictOldest Recency.remove
  rw [bindings]
  dsimp only [List.head?_cons]
  rw [found]

theorem evictOldest_nil (orders : recency.Orders []) : recency.evictOldest = (recency, none) := by
  unfold Recency.evictOldest
  rw [List.map_eq_nil_iff.1 orders.values]
  rfl

theorem clear (recency : Recency) : recency.clear.Orders [] where
  values := rfl
  distinct := List.nodup_nil
  ascending := List.Pairwise.nil
  bounded _ member := by cases member
  inverse _ _ := ⟨fun found => (by cases found), fun member => (by cases member)⟩

/-- The keys that are known are those of the list. -/
theorem keys_perm (orders : recency.Orders keys) : recency.lastAccess.keys.Perm keys := by
  have stamped : (recency.lastAccess.bindings.map Prod.swap).Perm recency.byStamp.bindings := by
    have distinct := (List.Nodup.of_map Prod.fst recency.lastAccess.distinct).map Prod.swap_injective
    have alsoDistinct := List.Nodup.of_map Prod.fst recency.byStamp.distinct
    refine (List.perm_ext_iff_of_nodup distinct alsoDistinct).2 fun ⟨stamp, key⟩ => ?_
    rw [← orders.inverse, Table.get?_eq_some_iff]
    simp
  have same := stamped.map Prod.snd
  rwa [orders.values, List.map_map] at same

/-- As many keys are known as the list has. -/
theorem size_eq (orders : recency.Orders keys) : recency.size = keys.length := by
  rw [← orders.keys_perm.length_eq]
  exact (List.length_map _).symm

end Orders

end Cache.Recency

end Community
