/-
This file carries the wish to stop from those who have it to those who should follow it. Tokens form a
forest. Cancelling a token cancels every token below it and none above or beside it; a token that is made
below a cancelled one is cancelled from the start. Nothing takes a cancellation back.
-/

namespace Community

/-- The name of a token: its place in the order in which tokens were made. -/
abbrev TokenId := Nat

/-- A token: the one it was made from, if any, and whether it is cancelled. -/
structure Token where
  parent : Option TokenId
  cancelled : Bool
  deriving DecidableEq, Repr

/-- All tokens so far, in the order in which they were made; a parent always comes before its
children. -/
structure TokenForest where
  tokens : Array Token := .empty

namespace TokenForest

/-- Is the token cancelled? -/
def isCancelled (forest : TokenForest) (token : TokenId) : Bool :=
  (forest.tokens[token]?.map Token.cancelled).getD false

/-- Makes a token of its own. -/
def root (forest : TokenForest) : TokenForest × TokenId :=
  (⟨forest.tokens.push ⟨none, false⟩⟩, forest.tokens.size)

/-- Makes a token below another one. -/
def child (forest : TokenForest) (parent : TokenId) : TokenForest × TokenId :=
  (⟨forest.tokens.push ⟨some parent, forest.isCancelled parent⟩⟩, forest.tokens.size)

/-- Adds a token to those that have been looked at, cancelled if it is the target or its parent is
cancelled among those. -/
def spread (target : TokenId) (done : Array Token) (token : Token) : Array Token :=
  let parentCancelled := ((token.parent.bind fun parent => done[parent]?).map Token.cancelled).getD false
  done.push
    { token with cancelled := token.cancelled || done.size = target || parentCancelled }

/-- Cancels a token and every token below it. -/
def cancel (forest : TokenForest) (target : TokenId) : TokenForest :=
  ⟨forest.tokens.foldl (spread target) .empty⟩

end TokenForest

end Community
