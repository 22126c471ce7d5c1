/-
This file is the cache in front of the articles. Whatever is read through it goes the same way: a look at the
slot, and when nothing usable is there a load from elsewhere, whose value is put into the slot before it is
handed on. `look` is the first part and `settle` the last; between them other calls may do whatever they like
to the cache. A load that fails leaves nothing behind.

Categories, tags and the number of users online share a cache without bounds; articles, users and lists have
a bounded group each. An article has one slot for every viewer, and an index from articles to their slots lets
all of them be dropped at once.
-/

import Community.Cache.Bounded
import Community.Cache.Codec
import Community.Cache.Expiring
import Community.Cache.Key
import Community.Error

namespace Community.Cache

/-- The caches of the service and the index of the articles' slots. -/
structure Service where
  config : CacheConfig
  global : Expiring ByteArray
  articles : Bounded ByteArray
  users : Bounded ByteArray
  lists : Bounded ByteArray
  /-- The slots in use for each article, as far as they have been filled. -/
  detailIndex : Table UInt64 (List String) := ∅

/-- What can be read through the cache. -/
inductive Subject where
  | categories
  | tags
  | article (id viewer : UInt64)
  | user (id : UInt64) (kind : PayloadKind)
  | list (key : String) (kind : PayloadKind)
  deriving DecidableEq, Repr

/-- What reading a subject yields. -/
def Subject.Content : Subject → Type
  | categories => List Category
  | tags => List Tag
  | article .. => Article
  | user .. => Payload
  | list .. => Payload

/-- What loading a subject is called in messages. -/
def Subject.operation : Subject → String
  | categories => "load article categories"
  | tags => "load article tags"
  | article .. => "load article detail"
  | user .. => "load user"
  | list .. => "load list"

/-- The caches of which slots are part. -/
inductive Group where
  | global
  | article
  | user
  | list
  deriving DecidableEq, Repr

/-- The place of a value in the cache: its group and key, how long it is served, and how it is written. -/
structure Slot (α : Type) where
  group : Group
  key : String
  ttl : Duration
  codec : Codec α

namespace Service

/-- Empty caches under a configuration. -/
def create (config : CacheConfig) : Service where
  config := config
  global := .create config.defaultTtl
  articles := .create config.article
  users := .create config.user
  lists := .create config.list

/-- The slot of a subject. -/
def slot (service : Service) : (subject : Subject) → Slot subject.Content
  | .categories => ⟨.global, Key.categories, service.config.categoriesTtl, .categories⟩
  | .tags => ⟨.global, Key.tags, service.config.tagsTtl, .tags⟩
  | .article id viewer =>
    ⟨.article, Key.articleDetail id viewer, service.config.articleDetailTtl, .article⟩
  | .user id kind => ⟨.user, Key.user id, service.users.config.ttl, .payload kind⟩
  | .list key kind => ⟨.list, key, service.lists.config.ttl, .payload kind⟩

/-- The slot of the number of users online. -/
def onlineSlot (service : Service) : Slot Int64 :=
  ⟨.global, Key.onlineCount, service.config.onlineCountTtl, .count⟩

/-! ### Bytes in slots -/

/-- Reads the bytes of a key. -/
def getBytes (service : Service) (now : Nat) (group : Group) (key : String) :
    Service × Option ByteArray :=
  match group with
  | .global =>
    let (cache, bytes) := service.global.get now key
    ({ service with global := cache }, bytes)
  | .article =>
    let (cache, bytes) := service.articles.get now key
    ({ service with articles := cache }, bytes)
  | .user =>
    let (cache, bytes) := service.users.get now key
    ({ service with users := cache }, bytes)
  | .list =>
    let (cache, bytes) := service.lists.get now key
    ({ service with lists := cache }, bytes)

/-- Stores bytes under a key. -/
def putBytes (service : Service) (now : Nat) (group : Group) (key : String) (bytes : ByteArray)
    (ttl : Duration) : Service :=
  match group with
  | .global => { service with global := service.global.setWithTtl now key bytes ttl }
  | .article => { service with articles := service.articles.setWithTtl now key bytes ttl }
  | .user => { service with users := service.users.setWithTtl now key bytes ttl }
  | .list => { service with lists := service.lists.setWithTtl now key bytes ttl }

/-- Removes a key, and tells whether it held something. -/
def deleteKey (service : Service) (group : Group) (key : String) : Service × Bool :=
  match group with
  | .global =>
    let (cache, found) := service.global.delete key
    ({ service with global := cache }, found)
  | .article =>
    let (cache, found) := service.articles.delete key
    ({ service with articles := cache }, found)
  | .user =>
    let (cache, found) := service.users.delete key
    ({ service with users := cache }, found)
  | .list =>
    let (cache, found) := service.lists.delete key
    ({ service with lists := cache }, found)

/-! ### Values in slots -/

variable {α : Type}

/-- Reads the value of a slot. Bytes that hold no value are dropped. -/
def lookSlot (service : Service) (now : Nat) (slot : Slot α) : Service × Option α :=
  match service.getBytes now slot.group slot.key with
  | (service, none) => (service, none)
  | (service, some bytes) =>
    match slot.codec.decode? bytes with
    | some value => (service, some value)
    | none => ((service.deleteKey slot.group slot.key).1, none)

/-- Puts a value into a slot, and tells whether it could be written. -/
def fillSlot (service : Service) (now : Nat) (slot : Slot α) (value : α) : Service × Bool :=
  match slot.codec.encode? value with
  | some bytes => (service.putBytes now slot.group slot.key bytes slot.ttl, true)
  | none => (service, false)

/-! ### Reading through the cache -/

/-- Notes that a slot of an article is in use. -/
def indexSlot (service : Service) (article : UInt64) (key : String) : Service :=
  let keys := (service.detailIndex.get? article).getD []
  let keys := if key ∈ keys then keys else keys ++ [key]
  { service with detailIndex := service.detailIndex.insert article keys }

/-- The first part of a read: the value in the subject's slot, if there is one. -/
def look (service : Service) (now : Nat) (subject : Subject) : Service × Option subject.Content :=
  service.lookSlot now (service.slot subject)

/-- Puts a loaded value into its subject's slot, and tells whether it could be written. The slot of an
article is noted in the index along with it. -/
def fill (service : Service) (now : Nat) (subject : Subject) (content : subject.Content) :
    Service × Bool :=
  match service.fillSlot now (service.slot subject) content with
  | (filled, false) => (filled, false)
  | (filled, true) =>
    match subject with
    | .article id viewer => (filled.indexSlot id (Key.articleDetail id viewer), true)
    | _ => (filled, true)

/-- The last part of a read: a value that was loaded is put into its slot and handed on. -/
def settle (service : Service) (now : Nat) (subject : Subject) (loaded : Outcome subject.Content) :
    Service × Outcome subject.Content :=
  match loaded with
  | .ok content => ((service.fill now subject content).1, .ok content)
  | .error error => (service, .error error)

/-! ### Invalidation -/

/-- Drops the categories. -/
def invalidateCategories (service : Service) : Service :=
  (service.deleteKey .global Key.categories).1

/-- Drops the tags. -/
def invalidateTags (service : Service) : Service :=
  (service.deleteKey .global Key.tags).1

/-- Drops a user's payload. -/
def invalidateUser (service : Service) (user : UInt64) : Service :=
  (service.deleteKey .user (Key.user user)).1

/-- Drops a list. -/
def invalidateList (service : Service) (key : String) : Service :=
  (service.deleteKey .list key).1

/-- Drops keys of a group, and tells how many of them held something. -/
def deleteKeys (service : Service) (group : Group) (keys : List String) : Service × Nat :=
  keys.foldl (fun (service, removed) key =>
    let (service, found) := service.deleteKey group key
    (service, removed + found.toNat)) (service, 0)

/-- Drops every viewer's copy of an article, and tells how many there were. -/
def invalidateArticle (service : Service) (article : UInt64) : Service × Nat :=
  match service.detailIndex.get? article with
  | none => (service, 0)
  | some keys =>
    deleteKeys { service with detailIndex := service.detailIndex.erase article } .article keys

/-- Forgets the slots in the index that hold no live article, and tells how many they were. -/
def pruneIndex (service : Service) (now : Nat) : Service × Nat :=
  let total (index : Table UInt64 (List String)) :=
    index.values.foldl (fun total keys => total + keys.length) 0
  let live := service.detailIndex.mapValues fun _ keys =>
    keys.filter (service.articles.contains now)
  ({ service with detailIndex := live.filter fun _ keys => !keys.isEmpty },
    total service.detailIndex - total live)

/-! ### The number of users online -/

/-- Stores the number of users online. -/
def setOnlineCount (service : Service) (now : Nat) (count : Int64) : Service :=
  (service.fillSlot now service.onlineSlot count).1

/-- The number of users online, as long as it is fresh. -/
def getOnlineCount (service : Service) (now : Nat) : Service × Option Int64 :=
  service.lookSlot now service.onlineSlot

/-! ### Upkeep -/

/-- Removes what has expired from every cache and prunes the index; tells how many entries went. -/
def cleanup (service : Service) (now : Nat) : Service × Nat :=
  let (global, fromGlobal) := service.global.cleanup now
  let (articles, fromArticles) := service.articles.cleanup now
  let (users, fromUsers) := service.users.cleanup now
  let (lists, fromLists) := service.lists.cleanup now
  let cleaned := { service with global, articles, users, lists }
  ((cleaned.pruneIndex now).1, fromGlobal + fromArticles + fromUsers + fromLists)

/-- Empties every cache and the index. -/
def clearAll (service : Service) : Service :=
  { service with
    global := service.global.clear
    articles := service.articles.clear
    users := service.users.clear
    lists := service.lists.clear
    detailIndex := ∅ }

/-- The number of articles with a slot in the index. -/
def indexedArticles (service : Service) : Nat :=
  service.detailIndex.size

/-- The performance of one of the caches. -/
def stats (service : Service) (now : Nat) : Group → Stats
  | .global => service.global.stats now
  | .article => service.articles.stats
  | .user => service.users.stats
  | .list => service.lists.stats

end Service

end Community.Cache
