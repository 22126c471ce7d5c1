/-
This file says what can happen to the cache of the articles and to their index. The cache goes from one state to
the next by its own operations alone. The index loses slots, and it lists at most one slot anew for each article,
a slot of that article which was not listed. What these two facts keep is kept by whatever happens.
-/

import Community.Proofs.Cache.Bounds
import Community.Proofs.Cache.Index

namespace Community.Cache

/-! ### Caches that operations lead to -/

namespace Bounded

variable {ν : Type} [Weighed ν] {cache after later : Bounded ν}

/-- Do operations lead from one cache to the other? -/
def LeadsTo (cache after : Bounded ν) : Prop :=
  ∃ history, after = cache.run history

theorem run_append (cache : Bounded ν) (earlier more : List (Nat × Operation ν)) :
    cache.run (earlier ++ more) = (cache.run earlier).run more := by
  induction earlier generalizing cache with
  | nil => rfl
  | cons step rest inductionHypothesis => exact inductionHypothesis (cache.perform step.1 step.2).1

namespace LeadsTo

theorem refl (cache : Bounded ν) : cache.LeadsTo cache :=
  ⟨[], rfl⟩

theorem trans (leads : cache.LeadsTo after) (further : after.LeadsTo later) : cache.LeadsTo later := by
  obtain ⟨earlier, rfl⟩ := leads
  obtain ⟨more, rfl⟩ := further
  exact ⟨earlier ++ more, (cache.run_append earlier more).symm⟩

theorem perform (cache : Bounded ν) (now : Nat) (operation : Operation ν) :
    cache.LeadsTo (cache.perform now operation).1 :=
  ⟨[(now, operation)], rfl⟩

theorem foldl_remove (cache : Bounded ν) (keys : List String) : cache.LeadsTo (keys.foldl remove cache) := by
  induction keys generalizing cache with
  | nil => exact refl cache
  | cons key rest inductionHypothesis =>
    exact (perform cache 0 (.delete key)).trans (inductionHypothesis (cache.remove key))

end LeadsTo

end Bounded

/-! ### What the articles' cache goes through -/

namespace Service

variable {service after : Service} {now : Nat} {article : UInt64} {key : String}

theorem leads_getBytes (service : Service) (now : Nat) (group : Group) (key : String) :
    service.articles.LeadsTo (service.getBytes now group key).1.articles := by
  cases group with
  | article => exact .perform _ now (.get key)
  | global | user | list => exact .refl _

theorem leads_deleteKey (service : Service) (group : Group) (key : String) :
    service.articles.LeadsTo (service.deleteKey group key).1.articles := by
  cases group with
  | article => exact .perform _ 0 (.delete key)
  | global | user | list => exact .refl _

theorem leads_putBytes (service : Service) (now : Nat) (group : Group) (key : String) (bytes : ByteArray)
    (ttl : Duration) : service.articles.LeadsTo (service.putBytes now group key bytes ttl).articles := by
  cases group with
  | article => exact .perform _ now (.setWithTtl key bytes ttl)
  | global | user | list => exact .refl _

theorem leads_lookSlot {α : Type} (service : Service) (now : Nat) (slot : Slot α) :
    service.articles.LeadsTo (service.lookSlot now slot).1.articles := by
  have read := service.leads_getBytes now slot.group slot.key
  unfold lookSlot
  split
  · next after got =>
    rw [got] at read
    exact read
  · next after bytes got =>
    rw [got] at read
    split
    · exact read
    · exact read.trans (after.leads_deleteKey _ _)

theorem leads_fillSlot {α : Type} (service : Service) (now : Nat) (slot : Slot α) (content : α) :
    service.articles.LeadsTo (service.fillSlot now slot content).1.articles := by
  unfold fillSlot
  split
  · exact service.leads_putBytes ..
  · exact .refl _

theorem leads_settle (service : Service) (now : Nat) (subject : Subject) (loaded : Outcome subject.Content) :
    service.articles.LeadsTo (service.settle now subject loaded).1.articles := by
  cases loaded with
  | error error => exact .refl _
  | ok content =>
    have filled := service.leads_fillSlot now (service.slot subject) content
    show service.articles.LeadsTo (service.fill now subject content).1.articles
    unfold fill
    split
    · next after refused =>
      rw [refused] at filled
      exact filled
    · next after written =>
      rw [written] at filled
      cases subject <;> exact filled

/-- The articles' cache after keys of it have been deleted. -/
theorem articles_deleteKeys (service : Service) (keys : List String) :
    (service.deleteKeys .article keys).1.articles = keys.foldl Bounded.remove service.articles := by
  rw [fst_deleteKeys]
  induction keys generalizing service with
  | nil => rfl
  | cons key rest inductionHypothesis => exact inductionHypothesis (service.deleteKey .article key).1

theorem articles_invalidateArticle (service : Service) (article : UInt64) :
    (service.invalidateArticle article).1.articles =
      (service.copies article).foldl Bounded.remove service.articles := by
  unfold invalidateArticle copies
  split
  · next unknown => rw [unknown]; rfl
  · next keys known => rw [known]; exact articles_deleteKeys _ keys

theorem leads_invalidate (service : Service) (target : Target) :
    service.articles.LeadsTo (service.invalidate target).articles := by
  cases target with
  | categories | tags | user | list => exact service.leads_deleteKey _ _
  | article article =>
    rw [invalidate, articles_invalidateArticle]
    exact .foldl_remove _ _
  | everything => exact .perform _ 0 .clear

/-! ### What the index goes through -/

/-- Is nothing listed anew but, for each article, at most one slot of it that was not listed? -/
def Relists (service after : Service) : Prop :=
  ∀ article, (after.copies article).Sublist (service.copies article) ∨
    ∃ viewer, Key.articleDetail article viewer ∉ service.copies article ∧
      after.copies article = service.copies article ++ [Key.articleDetail article viewer]

namespace Relists

theorem of_index (same : after.detailIndex = service.detailIndex) : service.Relists after := by
  intro article
  unfold copies
  rw [same]
  exact Or.inl (List.Sublist.refl _)

theorem of_frames (frames : service.Frames after) : service.Relists after :=
  of_index frames.detailIndex

theorem indexSlot (service : Service) (article viewer : UInt64) :
    service.Relists (service.indexSlot article (Key.articleDetail article viewer)) := by
  intro other
  unfold Service.indexSlot copies
  dsimp only
  rw [Table.get?_insert]
  split
  · next same =>
    subst same
    rw [Option.getD_some]
    split
    · exact Or.inl (List.Sublist.refl _)
    · next unknown => exact Or.inr ⟨viewer, unknown, rfl⟩
  · exact Or.inl (List.Sublist.refl _)

theorem settle (service : Service) (now : Nat) (subject : Subject) (loaded : Outcome subject.Content) :
    service.Relists (service.settle now subject loaded).1 := by
  cases loaded with
  | error error => exact .of_index rfl
  | ok content =>
    have filled := service.frames_fillSlot now (service.slot subject) content
    show service.Relists (service.fill now subject content).1
    unfold fill
    split
    · next after refused =>
      rw [refused] at filled
      exact .of_frames filled
    · next after written =>
      rw [written] at filled
      cases subject with
      | categories | tags | user | list => exact .of_frames filled
      | article article viewer =>
        intro other
        have noted := indexSlot after article viewer other
        unfold copies at noted ⊢
        rwa [filled.detailIndex] at noted

theorem pruneIndex (service : Service) (now : Nat) : service.Relists (service.pruneIndex now).1 := by
  intro article
  rw [copies_pruneIndex]
  exact Or.inl List.filter_sublist

theorem cleanup (service : Service) (now : Nat) : service.Relists (service.cleanup now).1 := by
  obtain ⟨cleaned, -, sameIndex, same⟩ := service.exists_cleanup now
  rw [same]
  intro article
  have pruned := pruneIndex cleaned now article
  unfold copies at pruned ⊢
  rwa [sameIndex] at pruned

theorem invalidate (service : Service) (target : Target) : service.Relists (service.invalidate target) := by
  cases target with
  | categories | tags | user | list => exact .of_frames (service.frames_deleteKey _ _)
  | article article =>
    intro other
    rw [Service.invalidate, copies_invalidateArticle]
    split
    · exact Or.inl (List.nil_sublist _)
    · exact Or.inl (List.Sublist.refl _)
  | everything => exact fun article => Or.inl (List.nil_sublist _)

end Relists

end Service

namespace System

variable {system : System} {events : List Event}

theorem leads_next (system : System) (event : Event) :
    system.service.articles.LeadsTo (system.next event).service.articles := by
  cases event with
  | tick | prune => exact .refl _
  | read subject =>
    rw [service_read]
    exact Service.leads_lookSlot ..
  | warmUp =>
    rw [next_warmUp, service_warm]
    exact .refl _
  | settle number sources =>
    cases flies : system.loads number with
    | none =>
      rw [next_settle_none flies]
      exact .refl _
    | some load =>
      rw [service_settle flies]
      exact Service.leads_settle ..
  | invalidate target => exact Service.leads_invalidate ..
  | cleanup => exact .perform _ system.clock .cleanup
  | setOnlineCount count => exact Service.leads_fillSlot ..
  | getOnlineCount => exact Service.leads_lookSlot ..

theorem leads_run (system : System) (events : List Event) :
    system.service.articles.LeadsTo (system.run events).service.articles := by
  induction events generalizing system with
  | nil => exact .refl _
  | cons event rest inductionHypothesis =>
    exact (system.leads_next event).trans (inductionHypothesis (system.next event))

theorem relists_next (system : System) (event : Event) :
    system.service.Relists (system.next event).service := by
  cases event with
  | tick => exact .of_index rfl
  | read subject =>
    rw [service_read]
    exact .of_frames (Service.frames_lookSlot ..)
  | warmUp =>
    rw [next_warmUp, service_warm]
    exact .of_index rfl
  | settle number sources =>
    cases flies : system.loads number with
    | none =>
      rw [next_settle_none flies]
      exact .of_index rfl
    | some load =>
      rw [service_settle flies]
      exact .settle _ _ _ _
  | invalidate target => exact .invalidate _ target
  | prune => exact .pruneIndex _ _
  | cleanup => exact .cleanup _ _
  | setOnlineCount count => exact .of_frames (Service.frames_fillSlot ..)
  | getOnlineCount => exact .of_frames (Service.frames_lookSlot ..)

end System

end Community.Cache
