/-
This file names the slots of the caches. An article has a slot for every viewer, because what one viewer
sees of it is not what another sees.
-/

namespace Community.Cache.Key

/-- The slot of all categories. -/
def categories : String := "article:categories:all"

/-- The slot of all tags. -/
def tags : String := "article:tags:all"

/-- The slot of the number of users online. -/
def onlineCount : String := "chat:online:count"

/-- The slot of an article as a viewer sees it. -/
def articleDetail (article viewer : UInt64) : String :=
  "article:detail:" ++ toString article ++ ":user" ++ toString viewer

/-- The slot of a user's payload. -/
def user (id : UInt64) : String :=
  "user:" ++ toString id

end Community.Cache.Key
