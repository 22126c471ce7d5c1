/-
This file writes the records of articles as JSON values and reads them from documents. Fields are
written in the order of their declaration, all of them; the fields with a default may be missing from what
is read.
-/

import Community.Catalog.Model
import Community.Json.Record
import Community.Json.Value

namespace Community

open Community.Json

/-- A date-time as a JSON value. -/
def DateTime.toValue (time : DateTime) : Value :=
  .text time.write

/-! ### Categories -/

/-- The fields of a category. -/
def Category.fieldNames : List String :=
  ["id", "name", "slug", "description", "parent_id", "article_count", "sort_order", "created_at"]

/-- A category as a JSON value. -/
def Category.toValue (category : Category) : Value :=
  .object [
    ("id", .integer category.id.toNat),
    ("name", .text category.name),
    ("slug", .text category.slug),
    ("description", .text category.description),
    ("parent_id", .integer category.parentId.toNat),
    ("article_count", .integer category.articleCount.toInt),
    ("sort_order", .integer category.sortOrder.toInt),
    ("created_at", category.createdAt.toValue)]

/-- Reads a category. -/
def Category.ofDocument? (document : Document) : Option Category := do
  let record ← Record.ofDocument? Category.fieldNames document
  return {
    id := ← record.required "id" word64?
    name := ← record.required "name" Document.text?
    slug := ← record.required "slug" Document.text?
    description := ← record.optional "description" Document.text? ""
    parentId := ← record.optional "parent_id" word64? 0
    articleCount := ← record.optional "article_count" signed64? 0
    sortOrder := ← record.optional "sort_order" signed32? 0
    createdAt := ← record.required "created_at" dateTime? }

/-! ### Tags -/

/-- The fields of a tag. -/
def Tag.fieldNames : List String :=
  ["id", "name", "slug", "article_count", "created_at"]

/-- A tag as a JSON value. -/
def Tag.toValue (tag : Tag) : Value :=
  .object [
    ("id", .integer tag.id.toNat),
    ("name", .text tag.name),
    ("slug", .text tag.slug),
    ("article_count", .integer tag.articleCount.toInt),
    ("created_at", tag.createdAt.toValue)]

/-- Reads a tag. -/
def Tag.ofDocument? (document : Document) : Option Tag := do
  let record ← Record.ofDocument? Tag.fieldNames document
  return {
    id := ← record.required "id" word64?
    name := ← record.required "name" Document.text?
    slug := ← record.required "slug" Document.text?
    articleCount := ← record.optional "article_count" signed64? 0
    createdAt := ← record.required "created_at" dateTime? }

/-! ### Authors -/

/-- The fields of an author's card. -/
def Author.fieldNames : List String :=
  ["id", "username", "nickname", "avatar"]

/-- An author's card as a JSON value. -/
def Author.toValue (author : Author) : Value :=
  .object [
    ("id", .integer author.id.toNat),
    ("username", .text author.username),
    ("nickname", .text author.nickname),
    ("avatar", .text author.avatar)]

/-- Reads an author's card. -/
def Author.ofDocument? (document : Document) : Option Author := do
  let record ← Record.ofDocument? Author.fieldNames document
  return {
    id := ← record.required "id" word64?
    username := ← record.required "username" Document.text?
    nickname := ← record.optional "nickname" Document.text? ""
    avatar := ← record.optional "avatar" Document.text? "" }

/-! ### Articles -/

/-- The fields of an article. -/
def Article.fieldNames : List String :=
  ["id", "user_id", "title", "description", "content", "status", "view_count", "like_count",
    "comment_count", "author", "categories", "tags", "is_liked", "created_at", "updated_at"]

/-- An article as a JSON value. -/
def Article.toValue (article : Article) : Value :=
  .object [
    ("id", .integer article.id.toNat),
    ("user_id", .integer article.userId.toNat),
    ("title", .text article.title),
    ("description", .text article.description),
    ("content", .text article.content),
    ("status", .integer article.status.toInt),
    ("view_count", .integer article.viewCount.toInt),
    ("like_count", .integer article.likeCount.toInt),
    ("comment_count", .integer article.commentCount.toInt),
    ("author", article.author.toValue),
    ("categories", .list (article.categories.map Category.toValue)),
    ("tags", .list (article.tags.map Tag.toValue)),
    ("is_liked", .bool article.isLiked),
    ("created_at", article.createdAt.toValue),
    ("updated_at", article.updatedAt.toValue)]

/-- Reads an article. -/
def Article.ofDocument? (document : Document) : Option Article := do
  let record ← Record.ofDocument? Article.fieldNames document
  return {
    id := ← record.required "id" word64?
    userId := ← record.required "user_id" word64?
    title := ← record.required "title" Document.text?
    description := ← record.optional "description" Document.text? ""
    content := ← record.required "content" Document.text?
    status := ← record.required "status" signed32?
    viewCount := ← record.required "view_count" signed64?
    likeCount := ← record.required "like_count" signed64?
    commentCount := ← record.required "comment_count" signed64?
    author := ← record.required "author" Author.ofDocument?
    categories := ← record.optional "categories" (listOf? Category.ofDocument?) []
    tags := ← record.optional "tags" (listOf? Tag.ofDocument?) []
    isLiked := ← record.required "is_liked" Document.bool?
    createdAt := ← record.required "created_at" dateTime?
    updatedAt := ← record.required "updated_at" dateTime? }

/-! ### Catalogs -/

/-- The fields of a catalog. -/
def Catalog.fieldNames : List String :=
  ["categories", "tags", "articles", "likes"]

/-- A catalog as a JSON value. -/
def Catalog.toValue (catalog : Catalog) : Value :=
  .object [
    ("categories", .list (catalog.categories.map Category.toValue)),
    ("tags", .list (catalog.tags.map Tag.toValue)),
    ("articles", .list (catalog.articles.map Article.toValue)),
    ("likes", .list (catalog.likes.map fun like =>
      .list [.integer like.1.toNat, .integer like.2.toNat]))]

/-- Reads a catalog. -/
def Catalog.ofDocument? (document : Document) : Option Catalog := do
  let record ← Record.ofDocument? Catalog.fieldNames document
  return {
    categories := ← record.optional "categories" (listOf? Category.ofDocument?) []
    tags := ← record.optional "tags" (listOf? Tag.ofDocument?) []
    articles := ← record.optional "articles" (listOf? Article.ofDocument?) []
    likes := ← record.optional "likes" (listOf? (pairOf? word64? word64?)) [] }

end Community
