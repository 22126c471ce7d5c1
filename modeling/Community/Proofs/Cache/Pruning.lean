/-
This file proves that pruning makes the index of the articles exact. What is pruned away are slots without a live
entry, and no live slot was missing before: that is kept by everything that can happen, as long as the clock does
not go back. So afterwards the index lists under each article the slots that hold a live copy of it, and no
article without one. The cache of the articles goes from one state to the next by its own operations alone, and
therefore it never holds more entries than its capacity; the index lists no slot twice, so it is no larger.
-/

import Mathlib.Data.Set.Card
import Community.Proofs.Cache.Invalidation

namespace Community.Cache

/-! ### No slot is listed twice -/

namespace System

variable {system : System} {events : List Event}

/-- No slot is ever listed twice. -/
theorem nodup_copies_run (distinct : ∀ article, (system.service.copies article).Nodup) (article : UInt64) :
    ((system.run events).service.copies article).Nodup := by
  induction events generalizing system with
  | nil => exact distinct article
  | cons event rest inductionHypothesis =>
    refine inductionHypothesis fun other => ?_
    rcases system.relists_next event other with sublist | ⟨viewer, unknown, appended⟩
    · exact (distinct other).sublist sublist
    · rw [appended]
      exact List.nodup_append.2 ⟨distinct other, List.nodup_singleton _, by
        rintro key member _ isNew rfl
        exact unknown (List.mem_singleton.1 isNew ▸ member)⟩

end System

/-! ### All keys of the index -/

namespace Service

variable {service : Service} {now : Nat} {key : String}

/-- The keys in the index, article by article. -/
def indexedKeys (service : Service) : List String :=
  service.detailIndex.values.flatten

theorem mem_indexedKeys : key ∈ service.indexedKeys ↔ ∃ article, key ∈ service.copies article := by
  unfold indexedKeys copies Table.values
  simp only [List.mem_flatten, List.mem_map, Prod.exists, exists_eq_right]
  constructor
  · rintro ⟨keys, ⟨article, bound⟩, member⟩
    exact ⟨article, by rwa [Table.get?_eq_some_iff.2 bound]⟩
  · rintro ⟨article, member⟩
    cases bound : service.detailIndex.get? article with
    | none =>
      rw [bound] at member
      cases member
    | some keys =>
      rw [bound] at member
      exact ⟨keys, ⟨article, Table.get?_eq_some_iff.1 bound⟩, member⟩

/-- Slots of different articles are different, so no key stands in the index twice. -/
theorem Filed.nodup_indexedKeys (filed : service.Filed) (distinct : ∀ article, (service.copies article).Nodup) :
    service.indexedKeys.Nodup := by
  have lists {binding : UInt64 × List String} (bound : binding ∈ service.detailIndex.bindings) :
      service.copies binding.1 = binding.2 := by
    unfold copies
    rw [Table.get?_eq_some_iff.2 bound]
    rfl
  refine List.nodup_flatten.2 ⟨fun keys member => ?_, ?_⟩
  · obtain ⟨binding, bound, rfl⟩ := List.mem_map.1 member
    exact lists bound ▸ distinct binding.1
  · refine List.pairwise_map.2 ?_
    refine (List.pairwise_map.1 service.detailIndex.distinct).imp_of_mem fun one two differs => ?_
    intro key member alsoMember
    obtain ⟨viewer, rfl⟩ := filed.own _ key (lists one ▸ member)
    obtain ⟨watcher, same⟩ := filed.own _ _ (lists two ▸ alsoMember)
    exact differs (Key.articleDetail_inj.1 same).1

theorem flatten_filter {κ : Type} (keep : String → Bool) (bindings : List (κ × List String)) :
    (((bindings.map fun binding => (binding.1, binding.2.filter keep)).filter
      fun binding => !binding.2.isEmpty).map Prod.snd).flatten =
        (bindings.map Prod.snd).flatten.filter keep := by
  induction bindings with
  | nil => rfl
  | cons binding rest inductionHypothesis =>
    rw [List.map_cons, List.map_cons, List.flatten_cons, List.filter_append, ← inductionHypothesis,
      List.filter_cons]
    cases binding.2.filter keep <;> simp

/-- Pruning drops the keys without a live entry, and keeps the others in their order. -/
theorem indexedKeys_pruneIndex (service : Service) (now : Nat) :
    (service.pruneIndex now).1.indexedKeys = service.indexedKeys.filter (service.articles.contains now) :=
  flatten_filter _ _

theorem foldl_length (lists : List (List String)) (start : Nat) :
    lists.foldl (fun total keys => total + keys.length) start = start + lists.flatten.length := by
  induction lists generalizing start with
  | nil => rfl
  | cons keys rest inductionHypothesis =>
    rw [List.foldl_cons, inductionHypothesis, List.flatten_cons, List.length_append, Nat.add_assoc]

/-- Pruning tells how many keys it drops. -/
theorem snd_pruneIndex (service : Service) (now : Nat) : (service.pruneIndex now).2 =
    (service.indexedKeys.filter (· ∉ (service.pruneIndex now).1.indexedKeys)).length := by
  have dropped : service.indexedKeys.filter (· ∉ (service.pruneIndex now).1.indexedKeys) =
      service.indexedKeys.filter fun key => !service.articles.contains now key := by
    refine List.filter_congr fun key member => ?_
    rw [indexedKeys_pruneIndex]
    simp [List.mem_filter, member]
  have left :
      (service.detailIndex.mapValues fun _ keys => keys.filter (service.articles.contains now)).values.flatten =
        service.indexedKeys.filter (service.articles.contains now) := by
    rw [indexedKeys, List.filter_flatten, Table.values, Table.mapValues, Table.values, List.map_map,
      List.map_map]
    rfl
  have count := List.length_eq_length_filter_add (l := service.indexedKeys) (service.articles.contains now)
  have total : service.indexedKeys.length = service.detailIndex.values.flatten.length := rfl
  rw [dropped, pruneIndex]
  dsimp only
  rw [foldl_length, foldl_length, left, ← total]
  omega

/-! ### The index after pruning -/

/-- Does the index list live slots alone, and no article without one? -/
structure Pruned (service : Service) (now : Nat) : Prop where
  live : ∀ article, ∀ key ∈ service.copies article, service.articles.contains now key
  nonempty : ∀ article keys, service.detailIndex.get? article = some keys → keys ≠ []

theorem pruned_pruneIndex (service : Service) (now : Nat) : (service.pruneIndex now).1.Pruned now where
  live article key member := by
    rw [copies_pruneIndex] at member
    exact (List.mem_filter.1 member).2
  nonempty article keys bound := by
    have kept := Option.filter_eq_some_iff.1 ((Table.get?_filter ..).symm.trans bound)
    simpa using kept.2

theorem pruned_cleanup (service : Service) (now : Nat) : (service.cleanup now).1.Pruned now := by
  obtain ⟨cleaned, -, -, same⟩ := service.exists_cleanup now
  rw [same]
  exact cleaned.pruned_pruneIndex now

namespace Pruned

/-- There is nothing left to prune. -/
theorem pruneIndex_eq (pruned : service.Pruned now) : service.pruneIndex now = (service, 0) := by
  have lists {binding : UInt64 × List String} (bound : binding ∈ service.detailIndex.bindings) :
      binding.2.filter (service.articles.contains now) = binding.2 := by
    refine List.filter_eq_self.2 fun key member => pruned.live binding.1 key ?_
    unfold copies
    rwa [Table.get?_eq_some_iff.2 bound]
  have index : ((service.detailIndex.mapValues fun _ keys => keys.filter (service.articles.contains now)).filter
      fun _ keys => !keys.isEmpty) = service.detailIndex := by
    have same : (service.detailIndex.mapValues fun _ keys => keys.filter (service.articles.contains now)) =
        service.detailIndex := by
      refine Table.ext ((List.map_congr_left fun binding bound => ?_).trans (List.map_id _))
      exact Prod.ext rfl (lists bound)
    rw [same]
    refine Table.ext (List.filter_eq_self.2 fun binding bound => ?_)
    have nonempty := pruned.nonempty _ _ (Table.get?_eq_some_iff.2 bound)
    simpa using nonempty
  have unchanged : (service.pruneIndex now).1 = service := by
    unfold pruneIndex
    dsimp only
    rw [index]
  refine Prod.ext unchanged ?_
  rw [snd_pruneIndex, unchanged]
  simp

/-- With a complete index, pruning leaves exactly the live slots of each article. -/
theorem mem_copies_iff (pruned : service.Pruned now) (indexed : service.Indexed now) (filed : service.Filed)
    {article : UInt64} : key ∈ service.copies article ↔
      Key.IsOf article key ∧ service.articles.contains now key := by
  refine ⟨fun member => ⟨filed.own article key member, pruned.live article key member⟩, ?_⟩
  rintro ⟨⟨viewer, rfl⟩, live⟩
  obtain ⟨entry, holds, unexpired⟩ := Bounded.contains_iff.1 live
  exact indexed article viewer entry holds unexpired

/-- The articles in the index are those of which there is a live copy. -/
theorem ncard_articles (pruned : service.Pruned now) (indexed : service.Indexed now) (filed : service.Filed) :
    {article | ∃ viewer, service.articles.contains now (Key.articleDetail article viewer)}.ncard =
      service.indexedArticles := by
  have same : {article | ∃ viewer, service.articles.contains now (Key.articleDetail article viewer)} =
      ((service.detailIndex.keys.toFinset : Finset UInt64) : Set UInt64) := by
    ext article
    rw [Set.mem_ofPred_eq, Finset.mem_coe, List.mem_toFinset, Table.mem_keys]
    constructor
    · rintro ⟨viewer, live⟩
      have member := (pruned.mem_copies_iff indexed filed).2 ⟨⟨viewer, rfl⟩, live⟩
      cases bound : service.detailIndex.get? article with
      | some keys => exact ⟨keys, rfl⟩
      | none =>
        rw [copies, bound] at member
        cases member
    · rintro ⟨keys, bound⟩
      obtain ⟨key, member⟩ := List.exists_mem_of_ne_nil _ (pruned.nonempty _ _ bound)
      have listed : key ∈ service.copies article := by rwa [copies, bound]
      obtain ⟨⟨viewer, rfl⟩, live⟩ := (pruned.mem_copies_iff indexed filed).1 listed
      exact ⟨viewer, live⟩
  rw [same, Set.ncard_coe_finset]
  exact (List.toFinset_card_of_nodup service.detailIndex.distinct).trans (List.length_map _)

/-- The index is no larger than the cache of the articles. -/
theorem length_indexedKeys_le (pruned : service.Pruned now) (distinct : service.indexedKeys.Nodup) :
    service.indexedKeys.length ≤ service.articles.size := by
  have resident : service.indexedKeys ⊆ service.articles.entries.keys := by
    intro key member
    obtain ⟨article, listed⟩ := mem_indexedKeys.1 member
    obtain ⟨entry, holds, -⟩ := Bounded.contains_iff.1 (pruned.live article key listed)
    exact Table.mem_keys.2 ⟨entry, holds⟩
  have fewer := (distinct.subperm resident).length_le
  rwa [Table.keys, List.length_map] at fewer

end Pruned

end Service

namespace System

/-- Let the index be pruned, by itself or in the course of a cleanup, in any state to which a run leads whose
clock does not go back. Afterwards it lists under each article exactly the slots that hold a live copy of it, each
of them once, and no article without one. So it counts the articles of which there is a live copy, and lists no
more slots than the cache of the articles may hold. Pruning tells how many keys it has dropped, and pruning again
at the same time drops none and changes nothing. -/
theorem pruned_index_exact (config : CacheConfig) (clock : Nat) (events : List Event)
    (forward : (initial config clock).RunsForward events) (event : Event)
    (prunes : event = .prune ∨ event = .cleanup) :
    let system := (initial config clock).run events
    let pruned := (system.next event).service
    (∀ article key, key ∈ pruned.copies article ↔
      Key.IsOf article key ∧ pruned.articles.contains system.clock key) ∧
    (∀ article keys, pruned.detailIndex.get? article = some keys → keys ≠ [] ∧ keys.Nodup) ∧
    pruned.indexedArticles =
      {article | ∃ viewer, pruned.articles.contains system.clock (Key.articleDetail article viewer)}.ncard ∧
    pruned.indexedKeys.Nodup ∧
    pruned.indexedKeys.length ≤ (effective config.article).capacity ∧
    system.service.indexedKeys.Nodup ∧
    (system.service.pruneIndex system.clock).2 = (system.service.indexedKeys.filter
      (· ∉ (system.next .prune).service.indexedKeys)).length ∧
    pruned.pruneIndex system.clock = (pruned, 0) := by
  intro system pruned
  have nodup (more : List Event) (article : UInt64) :
      (((initial config clock).run more).service.copies article).Nodup :=
    @nodup_copies_run (initial config clock) more (fun _ => List.nodup_nil) article
  have isRun : (initial config clock).run (events ++ [event]) = system.next event := run_append ..
  have indexed : system.Indexed := indexed_run (indexed_initial config clock) forward
  have filed : system.service.Filed := filed_run (filed_initial config clock)
  have filedAfter : pruned.Filed := filed_next filed event
  have nodupAfter : ∀ article, (pruned.copies article).Nodup := by
    have listed := nodup (events ++ [event])
    rwa [isRun] at listed
  have distinct : pruned.indexedKeys.Nodup := filedAfter.nodup_indexedKeys nodupAfter
  have exact : pruned.Indexed system.clock ∧ pruned.Pruned system.clock := by
    rcases prunes with rfl | rfl
    · exact ⟨Service.Indexed.pruneIndex indexed, Service.pruned_pruneIndex _ _⟩
    · exact ⟨Service.Indexed.cleanup indexed, Service.pruned_cleanup _ _⟩
  obtain ⟨indexedAfter, isPruned⟩ := exact
  obtain ⟨history, leads⟩ := (initial config clock).leads_run (events ++ [event])
  rw [isRun] at leads
  refine ⟨fun article key => isPruned.mem_copies_iff indexedAfter filedAfter, fun article keys bound => ⟨
    isPruned.nonempty article keys bound, ?_⟩, (isPruned.ncard_articles indexedAfter filedAfter).symm, distinct,
    (isPruned.length_indexedKeys_le distinct).trans ?_, filed.nodup_indexedKeys (nodup events),
    Service.snd_pruneIndex _ _, isPruned.pruneIndex_eq⟩
  · have listed := nodupAfter article
    rwa [Service.copies, bound] at listed
  · show (system.next event).service.articles.size ≤ _
    rw [leads]
    exact (limits_kept config.article history).1

/-- The cache of the articles holds one entry, and the second article pushes out the first. The index still lists
both; pruning drops the slot of the first, and then nothing more. -/
theorem pruned_index_exact_evicted :
    let config : CacheConfig := { article := { ({} : CacheConfig).article with capacity := 1 } }
    let events : List Event :=
      [.read (.article 1 2), .settle 0 (.only (.article 1 2) (.ok draft)),
        .read (.article 3 2), .settle 1 (.only (.article 3 2) (.ok draft))]
    let system := (initial config 0).run events
    let pruned := (system.next .prune).service
    system.service.indexedArticles = 2 ∧
      Key.articleDetail 1 2 ∉ pruned.copies 1 ∧ Key.articleDetail 3 2 ∈ pruned.copies 3 ∧
      pruned.indexedKeys.length ≤ 1 ∧
      {article | ∃ viewer, pruned.articles.contains system.clock (Key.articleDetail article viewer)}.ncard = 1 ∧
      (system.service.pruneIndex system.clock).2 = 1 ∧ pruned.pruneIndex system.clock = (pruned, 0) := by
  intro config events system pruned
  have forward : (initial config 0).RunsForward events := ⟨trivial, trivial, trivial, trivial, trivial⟩
  obtain ⟨lists, -, counts, -, fits, -, tells, nothing⟩ :=
    pruned_index_exact config 0 events forward .prune (Or.inl rfl)
  have capacity : (effective config.article).capacity = 1 := by decide
  obtain ⟨both, gone, there, one, dropped⟩ : system.service.indexedArticles = 2 ∧
      ¬ pruned.articles.contains system.clock (Key.articleDetail 1 2) ∧
      pruned.articles.contains system.clock (Key.articleDetail 3 2) ∧ pruned.indexedArticles = 1 ∧
      (system.service.indexedKeys.filter (· ∉ pruned.indexedKeys)).length = 1 := by
    decide +kernel
  rw [capacity] at fits
  simp only [pruned, system] at *
  exact ⟨both, fun listed => gone ((lists 1 _).1 listed).2, (lists 3 _).2 ⟨⟨2, rfl⟩, there⟩, fits,
    counts.symm.trans one, tells.trans dropped, nothing⟩

end System

end Community.Cache
