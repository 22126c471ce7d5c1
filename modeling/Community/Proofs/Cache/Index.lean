/-
This file proves that the index of the articles misses no live slot as long as the clock does not go back. It
may miss a slot whose entry has expired and is still there: pruning forgets it, and a clock that goes back
brings the entry to life again. So dropping the slots that the index knows for an article leaves nothing of the
article that is still alive, or that could be at a later time.
-/

import Mathlib.Data.List.Basic
import Community.Proofs.Cache.System
import Std.Data.String.ToNat

namespace Community.Cache

variable {article other viewer watcher : UInt64}

/-! ### The keys of articles -/

theorem not_mem_toString {c : Char} (special : c.isDigit = false) (number : UInt64) :
    c ∉ (toString number).toList := by
  intro member
  have digit : c.isDigit :=
    Nat.isDigit_of_mem_toDigits (by decide) (by decide) (Nat.toList_repr ▸ member)
  rw [digit] at special
  cases special

theorem toString_injective : Function.Injective (toString : UInt64 → String) :=
  fun _ _ same => UInt64.toNat_inj.1 (Nat.repr_injective same)

theorem Key.toList_articleDetail (article viewer : UInt64) :
    (Key.articleDetail article viewer).toList =
      "article:detail:".toList ++ ((toString article).toList ++
        (":user".toList ++ (toString viewer).toList)) := by
  unfold articleDetail
  simp only [String.toList_append, List.append_assoc]

/-- The key of an article's slot tells which article it is and who views it. -/
theorem Key.articleDetail_inj :
    Key.articleDetail article viewer = Key.articleDetail other watcher ↔
      article = other ∧ viewer = watcher := by
  refine ⟨fun same => ?_, fun ⟨sameArticle, sameViewer⟩ => by rw [sameArticle, sameViewer]⟩
  have digitless (number : UInt64) : ':' ∉ (toString number).toList :=
    not_mem_toString (by decide) number
  have afterwards (number : UInt64) : ':' ∉ "user".toList ++ (toString number).toList :=
    List.not_mem_append (by decide) (digitless number)
  have colon (number : UInt64) : ":user".toList ++ (toString number).toList =
      ':' :: ("user".toList ++ (toString number).toList) :=
    congrArg (· ++ (toString number).toList) (show ":user".toList = ':' :: "user".toList by decide)
  have split := congrArg String.toList same
  rw [toList_articleDetail, toList_articleDetail, List.append_cancel_left_eq, colon, colon,
    List.append_cons_inj_of_notMem (digitless _) (afterwards _)] at split
  exact ⟨toString_injective (String.toList_inj.1 split.1),
    toString_injective (String.toList_inj.1 (List.append_cancel_left split.2.2))⟩

/-! ### What the index knows -/

namespace Service

variable {service smaller : Service} {now moment : Nat} {key wanted : String}

/-- The slots that the index knows for an article. -/
def copies (service : Service) (article : UInt64) : List String :=
  (service.detailIndex.get? article).getD []

/-- Noting a slot adds it to those of its article. -/
theorem mem_copies_indexSlot :
    wanted ∈ (service.indexSlot article key).copies other ↔
      article = other ∧ wanted = key ∨ wanted ∈ service.copies other := by
  unfold indexSlot copies
  dsimp only
  rw [Table.get?_insert]
  by_cases same : article = other
  · subst same
    by_cases known : key ∈ (service.detailIndex.get? article).getD []
    · simp only [if_pos, known, Option.getD_some, true_and]
      exact ⟨Or.inr, fun either => either.elim (· ▸ known) id⟩
    · simp only [if_pos, if_neg known, Option.getD_some, true_and, List.mem_append,
        List.mem_singleton]
      exact or_comm
  · simp [same]

/-- Pruning keeps the slots that hold a live entry. -/
theorem copies_pruneIndex (service : Service) (now : Nat) (article : UInt64) :
    (service.pruneIndex now).1.copies article =
      (service.copies article).filter (service.articles.contains now) := by
  unfold pruneIndex copies
  dsimp only
  rw [Table.get?_filter, Table.get?_mapValues]
  cases service.detailIndex.get? article with
  | none => rfl
  | some keys =>
    cases live : keys.filter (service.articles.contains now) <;> simp [Option.filter, live]

/-- The index knows no slots of an article that has been dropped. -/
theorem copies_invalidateArticle (service : Service) (article other : UInt64) :
    (service.invalidateArticle article).1.copies other =
      if article = other then [] else service.copies other := by
  unfold invalidateArticle copies
  split
  · next unknown =>
    split
    · next same => rw [← same, unknown]; rfl
    · rfl
  · rw [(frames_deleteKeys ..).detailIndex, Table.get?_erase]
    split <;> rfl

/-- Dropping an article deletes the slots that the index knows for it and nothing else. -/
theorem resident?_invalidateArticle (service : Service) (article : UInt64) (place : Group)
    (key : String) :
    (service.invalidateArticle article).1.resident? place key =
      if .article = place ∧ key ∈ service.copies article then none
      else service.resident? place key := by
  unfold invalidateArticle copies
  split
  · next unknown => simp [unknown]
  · next keys known =>
    rw [resident?_deleteKeys, known, Option.getD_some]
    cases place <;> rfl

theorem retains_invalidateArticle (service : Service) (article : UInt64) :
    service.Retains (service.invalidateArticle article).1 := by
  intro place key entry holds
  rw [resident?_invalidateArticle] at holds
  split at holds
  · cases holds
  · exact holds

theorem retains_invalidate (service : Service) (target : Target) :
    service.Retains (service.invalidate target) := by
  cases target with
  | categories | tags | user | list => exact service.retains_deleteKey _ _
  | article article => exact service.retains_invalidateArticle article
  | everything =>
    intro place key entry holds
    rw [invalidate, resident?_clearAll] at holds
    cases holds

/-! ### The index is complete -/

/-- Does the index know every slot that holds a live article? -/
def Indexed (service : Service) (now : Nat) : Prop :=
  ∀ article viewer entry,
    service.resident? .article (Key.articleDetail article viewer) = some entry →
      entry.isExpired now = false → Key.articleDetail article viewer ∈ service.copies article

theorem Indexed.later (indexed : service.Indexed now) (passes : now ≤ moment) :
    service.Indexed moment :=
  fun article viewer entry holds live =>
    indexed article viewer entry holds (Entry.isLive_of_later passes live)

/-- What only loses entries and keeps its index stays complete. -/
theorem Indexed.of_retains (indexed : service.Indexed now) (retains : service.Retains smaller)
    (sameIndex : smaller.detailIndex = service.detailIndex) : smaller.Indexed now := by
  intro article viewer entry holds live
  have known := indexed article viewer entry (retains _ _ _ holds) live
  unfold copies
  rwa [sameIndex]

theorem Indexed.deleteKey (indexed : service.Indexed now) (group : Group) (key : String) :
    (service.deleteKey group key).1.Indexed now :=
  indexed.of_retains (service.retains_deleteKey group key) (service.frames_deleteKey group key).detailIndex

theorem Indexed.lookSlot {α : Type} (indexed : service.Indexed now) (slot : Slot α) :
    (service.lookSlot moment slot).1.Indexed now :=
  indexed.of_retains (service.retains_lookSlot moment slot)
    (service.frames_lookSlot moment slot).detailIndex

/-- A slot of another group that is filled is none of an article. -/
theorem Indexed.fillSlot {α : Type} {slot : Slot α} (indexed : service.Indexed now)
    (elsewhere : slot.group ≠ .article) (content : α) :
    (service.fillSlot moment slot content).1.Indexed now := by
  intro article viewer entry holds live
  unfold copies
  rw [(service.frames_fillSlot moment slot content).detailIndex]
  rcases resident?_fillSlot holds with ⟨here, -⟩ | held
  · exact absurd here.symm elsewhere
  · exact indexed article viewer entry held live

/-- The slot of an article is noted when it is filled. -/
theorem Indexed.fill (indexed : service.Indexed now) (subject : Subject)
    (content : subject.Content) : (service.fill moment subject content).1.Indexed now := by
  unfold Service.fill
  split
  · next filled refused =>
    rw [fst_fillSlot_of_refused refused]
    exact indexed
  · next filled written =>
    cases subject with
    | article article viewer =>
      intro other watcher entry holds live
      rw [mem_copies_indexSlot]
      have stored : (service.fillSlot moment (service.slot (.article article viewer)) content).1.resident?
          .article (Key.articleDetail other watcher) = some entry := by
        rw [written]
        exact holds
      rcases resident?_fillSlot stored with ⟨-, same, -⟩ | held
      · obtain ⟨rfl, rfl⟩ := Key.articleDetail_inj.1 same
        exact Or.inl ⟨rfl, rfl⟩
      · refine Or.inr ?_
        have index := (service.frames_fillSlot moment (service.slot (.article article viewer)) content).detailIndex
        rw [written] at index
        have known := indexed other watcher entry held live
        unfold copies at known ⊢
        rwa [index]
    | categories | tags | user | list =>
      exact written ▸ indexed.fillSlot (by nofun) content

theorem Indexed.settle (indexed : service.Indexed now) (subject : Subject)
    (loaded : Outcome subject.Content) : (service.settle moment subject loaded).1.Indexed now := by
  cases loaded with
  | ok content => exact indexed.fill subject content
  | error error => exact indexed

theorem Indexed.invalidateArticle (indexed : service.Indexed now) (article : UInt64) :
    (service.invalidateArticle article).1.Indexed now := by
  intro other viewer entry holds live
  rw [resident?_invalidateArticle] at holds
  split at holds
  · cases holds
  · next spared =>
    have known := indexed other viewer entry holds live
    rw [copies_invalidateArticle, if_neg]
    · exact known
    · rintro rfl
      exact spared ⟨rfl, known⟩

theorem Indexed.pruneIndex (indexed : service.Indexed now) :
    (service.pruneIndex now).1.Indexed now := by
  intro article viewer entry holds live
  rw [copies_pruneIndex, List.mem_filter]
  exact ⟨indexed article viewer entry holds live, Bounded.contains_iff.2 ⟨entry, holds, live⟩⟩

theorem Indexed.cleanup (indexed : service.Indexed now) :
    (service.cleanup now).1.Indexed now := by
  obtain ⟨cleaned, retains, sameIndex, same⟩ := service.exists_cleanup now
  rw [same]
  exact (indexed.of_retains retains sameIndex).pruneIndex

theorem indexed_clearAll (service : Service) (now : Nat) : service.clearAll.Indexed now := by
  intro article viewer entry holds
  rw [resident?_clearAll] at holds
  cases holds

theorem Indexed.invalidate (indexed : service.Indexed now) (target : Target) :
    (service.invalidate target).Indexed now := by
  cases target with
  | categories | tags | user | list => exact indexed.deleteKey _ _
  | article article => exact indexed.invalidateArticle article
  | everything => exact indexed_clearAll service now

/-- Once an article has been dropped, what is left of it has expired. -/
theorem Indexed.isExpired_invalidateArticle (indexed : service.Indexed now)
    {entry : Entry ByteArray}
    (holds : (service.invalidateArticle article).1.resident? .article
      (Key.articleDetail article viewer) = some entry) : entry.isExpired now := by
  by_contra live
  have known := indexed.invalidateArticle article article viewer entry holds
    (Bool.not_eq_true _ ▸ live)
  rw [copies_invalidateArticle, if_pos rfl] at known
  cases known

end Service

/-! ### The index of a system -/

namespace System

variable {system : System} {event : Event} {events : List Event}

/-- Does the index know every slot that holds a live article? -/
def Indexed (system : System) : Prop :=
  system.service.Indexed system.clock

theorem indexed_initial (config : CacheConfig) (clock : Nat) : (initial config clock).Indexed := by
  intro article viewer entry holds
  cases holds

theorem indexed_next (indexed : system.Indexed) (forward : system.Forward event) :
    (system.next event).Indexed := by
  unfold Indexed
  rw [clock_next]
  cases event with
  | tick now => exact Service.Indexed.later indexed forward
  | read subject =>
    rw [service_read]
    exact Service.Indexed.lookSlot indexed _
  | warmUp =>
    rw [next_warmUp, service_warm]
    exact indexed
  | settle number sources =>
    cases flies : system.loads number with
    | none =>
      rw [next_settle_none flies]
      exact indexed
    | some load =>
      rw [service_settle flies]
      exact Service.Indexed.settle indexed _ _
  | invalidate target => exact Service.Indexed.invalidate indexed target
  | prune => exact Service.Indexed.pruneIndex indexed
  | cleanup => exact Service.Indexed.cleanup indexed
  | setOnlineCount count => exact Service.Indexed.fillSlot indexed (by nofun) count
  | getOnlineCount => exact Service.Indexed.lookSlot indexed _

theorem indexed_run (indexed : system.Indexed) (forward : system.RunsForward events) :
    (system.run events).Indexed := by
  induction events generalizing system with
  | nil => exact indexed
  | cons event rest inductionHypothesis =>
    exact inductionHypothesis (indexed_next indexed forward.1) forward.2

end System

end Community.Cache
