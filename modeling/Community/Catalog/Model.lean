/-
This file holds the records of articles: categories, tags, the author's card, and an article as one viewer
sees it. Identifiers are unsigned and counts are signed numbers of 64 bits.
-/

import Community.Time.DateTime

namespace Community

/-- A category of articles. -/
structure Category where
  id : UInt64
  name : String
  slug : String
  description : String
  /-- Zero for a category at the top. -/
  parentId : UInt64
  articleCount : Int64
  sortOrder : Int32
  createdAt : DateTime
  deriving DecidableEq, Repr

/-- A tag of articles. -/
structure Tag where
  id : UInt64
  name : String
  slug : String
  articleCount : Int64
  createdAt : DateTime
  deriving DecidableEq, Repr

/-- The card of an author inside an article. -/
structure Author where
  id : UInt64
  username : String
  nickname : String
  avatar : String
  deriving DecidableEq, Repr

/-- An article as one viewer sees it: whether it is liked depends on who is asking, so copies for two
viewers are never the same record. -/
structure Article where
  id : UInt64
  userId : UInt64
  title : String
  description : String
  content : String
  /-- Zero for a draft, one when published, two when deleted. -/
  status : Int32
  viewCount : Int64
  likeCount : Int64
  commentCount : Int64
  author : Author
  categories : List Category
  tags : List Tag
  isLiked : Bool
  createdAt : DateTime
  updatedAt : DateTime
  deriving DecidableEq, Repr

/-- All articles as a file lists them. A like is an article and a user. -/
structure Catalog where
  categories : List Category
  tags : List Tag
  articles : List Article
  likes : List (UInt64 × UInt64)
  deriving DecidableEq, Repr

end Community
