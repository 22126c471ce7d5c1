/-
This file serves articles from a catalog in memory. Categories come in the order of their sort key, ties
by identifier; tags in the order in which they were listed. An article is served as its viewer sees it: it
is liked if that viewer has liked it, and never for the anonymous viewer, whose identifier is zero.
-/

import Community.Catalog.Model
import Community.Catalog.Codec
import Community.Json.Reader
import Community.Error
import Community.Table

namespace Community

open Community.Json

/-- The articles that can be asked for. -/
structure Repository where
  categories : List Category := []
  tags : List Tag := []
  articles : Table UInt64 Article := ∅
  /-- The likes, each an article and a user. -/
  likes : Table (UInt64 × UInt64) Unit := ∅

namespace Repository

/-- Adds an article, in place of the one with its identifier. -/
def putArticle (repository : Repository) (article : Article) : Repository :=
  { repository with articles := repository.articles.insert article.id article }

/-- Records that a user likes an article, or no longer does. -/
def setLiked (repository : Repository) (article user : UInt64) (liked : Bool) : Repository :=
  { repository with
    likes :=
      if liked then repository.likes.insert (article, user) () else
        repository.likes.erase (article, user) }

/-- The repository of a catalog. Of two articles with one identifier the later counts. -/
def ofCatalog (catalog : Catalog) : Repository where
  categories := catalog.categories
  tags := catalog.tags
  articles := Table.empty.insertAll (catalog.articles.map fun article => (article.id, article))
  likes := Table.empty.insertAll (catalog.likes.map fun like => (like, ()))

/-- The failure of opening a file that is not there. -/
def noSuchFile : ServiceError :=
  .storage "No such file or directory (os error 2)"

/-- The repository of a catalog file, given its content if the file exists. -/
def load (file : Option ByteArray) : Outcome Repository :=
  match file with
  | none => .error noSuchFile
  | some bytes =>
    match (Document.ofBytes? bytes).bind Catalog.ofDocument? with
    | some catalog => .ok (ofCatalog catalog)
    | none => .error .serialization

/-- Does a category come before another one, or at the same place? -/
def categoryOrder (first second : Category) : Bool :=
  first.sortOrder < second.sortOrder || first.sortOrder = second.sortOrder && first.id ≤ second.id

/-- All categories in order. -/
def allCategories (repository : Repository) : List Category :=
  repository.categories.mergeSort categoryOrder

/-- All tags. -/
def allTags (repository : Repository) : List Tag :=
  repository.tags

/-- An article as a viewer sees it. -/
def article (repository : Repository) (id viewer : UInt64) : Outcome Article :=
  match repository.articles.get? id with
  | none => .error (.notFound ("article " ++ toString id))
  | some article =>
    .ok { article with isLiked := viewer ≠ 0 && repository.likes.contains (id, viewer) }

end Repository

end Community
