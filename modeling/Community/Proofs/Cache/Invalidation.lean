/-
This file proves that dropping an article reaches every copy of it that is alive, and nothing else.
The index misses no live copy, so none is left for any viewer. And it lists under an article only
slots of that article, so the slots of the others hold what they held and stand in the order of use in
which they stood. That order is meaningful at every moment because the cache of the articles behaves
like a queue: it lists every resident key once.
-/

import Community.Proofs.Cache.Changes
import Community.Proofs.Cache.Freshness

namespace Community.Cache

/-- Is it the key of a slot of the article? -/
def Key.IsOf (article : UInt64) (key : String) : Prop :=
  ∃ viewer, key = Key.articleDetail article viewer

/-- The keys of a cache in their order of use, the least recently used first. -/
def Bounded.usage {ν : Type} (cache : Bounded ν) : List String :=
  cache.recency.byStamp.values

/-- Does the cache represent a queue? -/
def Bounded.IsQueue {ν : Type} (cache : Bounded ν) : Prop :=
  ∃ queue, Represents cache queue

/-- The index lists slots under their own article, and the cache of the articles represents a queue.
-/
structure Service.Filed (service : Service) : Prop where
  own : ∀ article, ∀ key ∈ service.copies article, Key.IsOf article key
  queued : service.articles.IsQueue

/-! ### The order of use -/

namespace Bounded

variable {ν : Type} {cache : Bounded ν}

/-- The order of use lists the keys that hold an entry. -/
theorem IsQueue.mem_usage_iff (queued : cache.IsQueue) (key : String) :
    key ∈ cache.usage ↔ (cache.entries.get? key).isSome := by
  obtain ⟨queue, represents⟩ := queued
  have keys : cache.usage = queue.items.map Item.key := represents.order.values
  rw [keys, ← Option.isSome_map, represents.get?_eq key]
  simp [Queue.find?]

theorem IsQueue.nodup_usage (queued : cache.IsQueue) : cache.usage.Nodup := by
  obtain ⟨queue, represents⟩ := queued
  have keys : cache.usage = queue.items.map Item.key := represents.order.values
  rw [keys]
  exact represents.order.distinct

/-- Keys that are removed leave the others in their order of use. -/
theorem IsQueue.usage_foldl_remove (queued : cache.IsQueue) (keys : List String) :
    (keys.foldl remove cache).usage = cache.usage.filter (· ∉ keys) := by
  obtain ⟨queue, represents⟩ := queued
  have before : cache.usage = queue.items.map Item.key := represents.order.values
  have afterwards : (keys.foldl remove cache).usage =
      (queue.items.filter fun item => item.key ∉ keys).map Item.key :=
    (represents.removeAll keys).order.values
  rw [before, afterwards, List.filter_map]
  rfl

theorem isQueue_create (config : GroupConfig) : (create config : Bounded ν).IsQueue :=
  ⟨_, .create config⟩

/-- Whatever operations do to a cache that represents a queue, it goes on representing one. -/
theorem IsQueue.of_leads [Weighed ν] {after : Bounded ν} (queued : cache.IsQueue) (leads : cache.LeadsTo after) :
    after.IsQueue := by
  obtain ⟨queue, represents⟩ := queued
  obtain ⟨history, rfl⟩ := leads
  exact ⟨_, represents.run history⟩

end Bounded

/-! ### What keeps the index and the order of use -/

namespace Service

variable {service after : Service} {now : Nat} {article : UInt64}

/-- What can happen to the index and to the cache of the articles keeps both in order. -/
theorem Filed.of_changes (filed : service.Filed) (relists : service.Relists after)
    (leads : service.articles.LeadsTo after.articles) : after.Filed where
  own article key member := by
    rcases relists article with sublist | ⟨viewer, -, appended⟩
    · exact filed.own article key (sublist.subset member)
    · rw [appended] at member
      rcases List.mem_append.1 member with known | isNew
      · exact filed.own article key known
      · exact ⟨viewer, List.mem_singleton.1 isNew⟩
  queued := filed.queued.of_leads leads

/-! ### What dropping an article leaves alone -/

/-- A key of another article holds what it held. -/
theorem Filed.get?_invalidateArticle (filed : service.Filed) {key : String}
    (foreign : ¬ Key.IsOf article key) :
    (service.invalidateArticle article).1.articles.entries.get? key =
      service.articles.entries.get? key := by
  refine (service.resident?_invalidateArticle article .article key).trans (if_neg ?_)
  rintro ⟨-, listed⟩
  exact foreign (filed.own article key listed)

/-- Keys of other articles stand in the order of use as they stood. -/
theorem Filed.sublist_usage_invalidateArticle (filed : service.Filed) {others : List String}
    (foreign : ∀ key ∈ others, ¬ Key.IsOf article key) :
    others.Sublist (service.invalidateArticle article).1.articles.usage ↔
      others.Sublist service.articles.usage := by
  rw [articles_invalidateArticle, filed.queued.usage_foldl_remove]
  constructor
  · exact fun sublist => sublist.trans List.filter_sublist
  · intro sublist
    have spared : others.filter (· ∉ service.copies article) = others :=
      List.filter_eq_self.2 fun key member => decide_eq_true fun listed =>
        foreign key member (filed.own article key listed)
    rw [← spared]
    exact sublist.filter _

end Service

/-! ### Every run -/

namespace System

variable {system : System} {event : Event} {events : List Event}

theorem filed_initial (config : CacheConfig) (clock : Nat) : (initial config clock).service.Filed where
  own _ _ member := by cases member
  queued := Bounded.isQueue_create config.article

theorem filed_next (filed : system.service.Filed) (event : Event) : (system.next event).service.Filed :=
  filed.of_changes (system.relists_next event) (system.leads_next event)

theorem filed_run (filed : system.service.Filed) : (system.run events).service.Filed := by
  induction events generalizing system with
  | nil => exact filed
  | cons event rest inductionHypothesis => exact inductionHypothesis (filed_next filed event)

/-- In the course of every run whose clock does not go back the index knows every slot that holds a
live article. When an article is dropped then, no live copy of it is left for any viewer. The slots of
all other articles hold what they held, and they stand in the order of use, which lists every resident
key once, as they stood before. -/
theorem dropped_article_gone (config : CacheConfig) (clock : Nat) (events : List Event)
    (forward : (initial config clock).RunsForward events) :
    let system := (initial config clock).run events
    let cache := system.service.articles
    (∀ article viewer, cache.contains system.clock (Key.articleDetail article viewer) →
      Key.articleDetail article viewer ∈ system.service.copies article) ∧
    ∀ article,
      let dropped := (system.next (.invalidate (.article article))).service.articles
      (∀ viewer, ¬ dropped.contains system.clock (Key.articleDetail article viewer)) ∧
      (∀ key, ¬ Key.IsOf article key → dropped.entries.get? key = cache.entries.get? key) ∧
      (dropped.usage.Nodup ∧ ∀ key, key ∈ dropped.usage ↔ (dropped.entries.get? key).isSome) ∧
      ∀ others : List String, (∀ key ∈ others, ¬ Key.IsOf article key) →
        (others.Sublist dropped.usage ↔ others.Sublist cache.usage) := by
  intro system cache
  have indexed : system.Indexed := indexed_run (indexed_initial config clock) forward
  have filed : system.service.Filed := filed_run (filed_initial config clock)
  refine ⟨fun article viewer live => ?_, fun article => ⟨fun viewer live => ?_, fun key foreign => ?_, ?_,
    fun others foreign => ?_⟩⟩
  · obtain ⟨entry, holds, unexpired⟩ := Bounded.contains_iff.1 live
    exact indexed article viewer entry holds unexpired
  · obtain ⟨entry, holds, unexpired⟩ := Bounded.contains_iff.1 live
    rw [indexed.isExpired_invalidateArticle holds] at unexpired
    cases unexpired
  · exact filed.get?_invalidateArticle foreign
  · have queued := (filed_next filed (.invalidate (.article article))).queued
    exact ⟨queued.nodup_usage, queued.mem_usage_iff⟩
  · exact filed.sublist_usage_invalidateArticle foreign

/-- A viewer has read two articles before the index is pruned, and the first of them is dropped. It is
gone for every viewer, and the other is as it was. -/
theorem dropped_article_gone_pruned :
    let events : List Event :=
      [.read (.article 1 2), .settle 0 (.only (.article 1 2) (.ok draft)), .tick 5,
        .read (.article 3 2), .settle 1 (.only (.article 3 2) (.ok draft)), .prune]
    let system := (initial {} 0).run events
    let dropped := (system.next (.invalidate (.article 1))).service.articles
    system.service.articles.contains system.clock (Key.articleDetail 1 2) ∧
      (∀ viewer, ¬ dropped.contains system.clock (Key.articleDetail 1 viewer)) ∧
      dropped.entries.get? (Key.articleDetail 3 2) =
        system.service.articles.entries.get? (Key.articleDetail 3 2) := by
  intro events system dropped
  have forward : (initial {} 0).RunsForward events :=
    ⟨trivial, trivial, Nat.zero_le 5, trivial, trivial, trivial, trivial⟩
  obtain ⟨gone, spared, -, -⟩ := (dropped_article_gone {} 0 events forward).2 1
  have foreign : ¬ Key.IsOf 1 (Key.articleDetail 3 2) := by
    rintro ⟨viewer, same⟩
    exact absurd (Key.articleDetail_inj.1 same).1 (by decide)
  simp only [dropped, system]
  exact ⟨by decide +kernel, gone, spared (Key.articleDetail 3 2) foreign⟩

end System

end Community.Cache
