/-
This file proves that a cancellation reaches the tokens below its target and no others. Cancelling goes once through
the tokens in the order in which they were made and looks up each parent among those it has been through; as parents
come before their children, one pass is enough. New tokens do not come between the old ones, so who is above whom is
settled when a token is made.
-/

import Mathlib.Data.Nat.Notation
import Community.Context.Token

namespace Community.TokenForest

/-- The token from which a token was made. -/
def parent? (forest : TokenForest) (token : TokenId) : Option TokenId :=
  forest.tokens[token]?.bind Token.parent

/-- A token is above another one if it is that one or above its parent. -/
inductive Above (forest : TokenForest) (upper : TokenId) : TokenId → Prop
  | self : Above forest upper upper
  | parent {lower parent : TokenId} (made : forest.parent? lower = some parent)
      (above : Above forest upper parent) : Above forest upper lower

/-- What holds of every forest that has grown from nothing. -/
structure IsGrown (forest : TokenForest) : Prop where
  ordered : ∀ token parent, forest.parent? token = some parent → parent < token
  inherited : ∀ token parent, forest.parent? token = some parent → forest.isCancelled parent = true →
    forest.isCancelled token = true

variable {forest other : TokenForest} {token target upper : TokenId}

theorem lt_size_of_parent? {parent : TokenId} (made : forest.parent? token = some parent) :
    token < forest.tokens.size := by
  obtain ⟨_, found, -⟩ := Option.bind_eq_some_iff.1 made
  exact (Array.getElem?_eq_some_iff.1 found).1

theorem Above.congr (same : ∀ token, other.parent? token = forest.parent? token) :
    other.Above upper token ↔ forest.Above upper token := by
  constructor
  · intro above
    induction above with
    | self => exact .self
    | parent made _ inductionHypothesis => exact .parent ((same _).symm.trans made) inductionHypothesis
  · intro above
    induction above with
    | self => exact .self
    | parent made _ inductionHypothesis => exact .parent ((same _).trans made) inductionHypothesis

theorem above_of_orphan (orphan : forest.parent? token = none) : forest.Above upper token ↔ upper = token := by
  refine ⟨fun above => ?_, fun same => same ▸ .self⟩
  cases above with
  | self => rfl
  | parent made => cases orphan.symm.trans made

theorem above_of_parent {parent : TokenId} (made : forest.parent? token = some parent) :
    forest.Above upper token ↔ upper = token ∨ forest.Above upper parent := by
  constructor
  · intro above
    cases above with
    | self => exact Or.inl rfl
    | parent madeHere above => exact Or.inr (Option.some.inj (made.symm.trans madeHere) ▸ above)
  · rintro (rfl | above)
    · exact .self
    · exact .parent made above

/-- One forest is another one with a token more. -/
structure Grows (forest : TokenForest) (token : Token) (other : TokenForest) : Prop where
  tokens : other.tokens = forest.tokens.push token

namespace Grows

variable {new : Token}

theorem parent?_old (grows : forest.Grows new other) (old : token < forest.tokens.size) :
    other.parent? token = forest.parent? token := by
  rw [parent?, parent?, grows.tokens, Array.getElem?_push_lt old, Array.getElem?_eq_getElem old]

theorem parent?_new (grows : forest.Grows new other) : other.parent? forest.tokens.size = new.parent := by
  rw [parent?, grows.tokens, Array.getElem?_push_size]
  rfl

theorem isCancelled_old (grows : forest.Grows new other) (old : token < forest.tokens.size) :
    other.isCancelled token = forest.isCancelled token := by
  rw [isCancelled, isCancelled, grows.tokens, Array.getElem?_push_lt old, Array.getElem?_eq_getElem old]

theorem isCancelled_new (grows : forest.Grows new other) :
    other.isCancelled forest.tokens.size = new.cancelled := by
  rw [isCancelled, grows.tokens, Array.getElem?_push_size]
  rfl

theorem size_eq (grows : forest.Grows new other) : other.tokens.size = forest.tokens.size + 1 := by
  rw [grows.tokens, Array.size_push]

/-- Every token of the grown forest is an old one or the new one. -/
theorem old_or_new {parent : TokenId} (grows : forest.Grows new other) (made : other.parent? token = some parent) :
    token < forest.tokens.size ∨ token = forest.tokens.size := by
  have inside := lt_size_of_parent? made
  rw [grows.size_eq] at inside
  exact (Nat.lt_succ_iff_lt_or_eq.1 inside)

/-- What is above an old token has not changed. -/
theorem above_old (grows : forest.Grows new other) (grown : forest.IsGrown) (old : token < forest.tokens.size) :
    other.Above upper token ↔ forest.Above upper token := by
  constructor
  · intro above
    induction above with
    | self => exact .self
    | parent made _ inductionHypothesis =>
      rw [grows.parent?_old old] at made
      exact .parent made (inductionHypothesis (Nat.lt_trans (grown.ordered _ _ made) old))
  · intro above
    induction above with
    | self => exact .self
    | parent made _ inductionHypothesis =>
      exact .parent ((grows.parent?_old old).trans made)
        (inductionHypothesis (Nat.lt_trans (grown.ordered _ _ made) old))

/-- A forest stays well grown if the parent of the new token is an old one and is not cancelled without it. -/
theorem isGrown (grows : forest.Grows new other) (grown : forest.IsGrown)
    (made : ∀ parent ∈ new.parent, parent < forest.tokens.size ∧
      (forest.isCancelled parent = true → new.cancelled = true)) : other.IsGrown where
  ordered token parent found := by
    rcases grows.old_or_new found with old | rfl
    · exact grown.ordered token parent (grows.parent?_old old ▸ found)
    · exact (made parent (grows.parent?_new ▸ found)).1
  inherited token parent found cancelled := by
    rcases grows.old_or_new found with old | rfl
    · rw [grows.parent?_old old] at found
      rw [grows.isCancelled_old (Nat.lt_trans (grown.ordered _ _ found) old)] at cancelled
      rw [grows.isCancelled_old old]
      exact grown.inherited token parent found cancelled
    · obtain ⟨old, passedOn⟩ := made parent (grows.parent?_new ▸ found)
      rw [grows.isCancelled_old old] at cancelled
      rw [grows.isCancelled_new]
      exact passedOn cancelled

end Grows

theorem grows_root (forest : TokenForest) : forest.Grows ⟨none, false⟩ forest.root.1 := ⟨rfl⟩

theorem grows_child (forest : TokenForest) (parent : TokenId) :
    forest.Grows ⟨some parent, forest.isCancelled parent⟩ (forest.child parent).1 := ⟨rfl⟩

/-! ### Cancelling -/

/-- A token as the pass leaves it, with the tokens that are done before it. -/
theorem spread_eq (target : TokenId) (done : Array Token) (token : Token) :
    ∃ cancelled, spread target done token = done.push { token with cancelled } ∧
      (cancelled = true ↔ token.cancelled = true ∨ done.size = target ∨
        ∃ parent, token.parent = some parent ∧ (done[parent]?.map Token.cancelled).getD false = true) := by
  refine ⟨_, rfl, ?_⟩
  cases made : token.parent with
  | none => simp
  | some parent => cases done[parent]? <;> simp [or_assoc]

theorem size_foldl_spread (target : TokenId) (done : Array Token) (tokens : List Token) :
    (tokens.foldl (spread target) done).size = done.size + tokens.length := by
  induction tokens generalizing done with
  | nil => rfl
  | cons token tokens inductionHypothesis =>
    obtain ⟨_, same, -⟩ := spread_eq target done token
    rw [List.foldl_cons, inductionHypothesis, same, Array.size_push, List.length_cons]
    omega

/-- What the pass has done stays. -/
theorem getElem?_foldl_spread (target : TokenId) {done : Array Token} (tokens : List Token)
    (inside : token < done.size) : (tokens.foldl (spread target) done)[token]? = done[token]? := by
  induction tokens generalizing done with
  | nil => rfl
  | cons next tokens inductionHypothesis =>
    obtain ⟨_, same, -⟩ := spread_eq target done next
    have insideNext : token < (spread target done next).size := by
      rw [same, Array.size_push]
      exact Nat.lt_succ_of_lt inside
    rw [List.foldl_cons, inductionHypothesis insideNext, same, Array.getElem?_push_lt inside,
      Array.getElem?_eq_getElem inside]

theorem tokens_cancel (forest : TokenForest) (target : TokenId) :
    (forest.cancel target).tokens = forest.tokens.toList.foldl (spread target) .empty :=
  (Array.foldl_toList _).symm

@[simp] theorem size_cancel : (forest.cancel target).tokens.size = forest.tokens.size := by
  rw [tokens_cancel, size_foldl_spread, Array.length_toList]
  exact Nat.zero_add _

/-- A token after the pass, with the tokens as they are after it. -/
theorem getElem?_cancel (target : TokenId) (grown : forest.IsGrown) {old : Token}
    (found : forest.tokens[token]? = some old) :
    ∃ cancelled, (forest.cancel target).tokens[token]? = some { old with cancelled } ∧
      (cancelled = true ↔ old.cancelled = true ∨ token = target ∨
        ∃ parent, old.parent = some parent ∧ (forest.cancel target).isCancelled parent = true) := by
  obtain ⟨inside, here⟩ := List.getElem?_eq_some_iff.1 (Array.getElem?_toList.trans found)
  -- The pass up to the token, the token, and the pass after it.
  have split : forest.tokens.toList =
      forest.tokens.toList.take token ++ old :: forest.tokens.toList.drop (token + 1) := by
    rw [← here, List.getElem_cons_drop, List.take_append_drop]
  let before := (forest.tokens.toList.take token).foldl (spread target) .empty
  have size : before.size = token := by
    rw [size_foldl_spread, List.length_take_of_le (Nat.le_of_lt inside)]
    exact Nat.zero_add token
  obtain ⟨cancelled, same, iff⟩ := spread_eq target before old
  have after : (forest.cancel target).tokens =
      (forest.tokens.toList.drop (token + 1)).foldl (spread target) (before.push { old with cancelled }) := by
    rw [← same, ← List.foldl_cons, ← List.foldl_append, ← split, tokens_cancel]
  have sizeAfter : (before.push { old with cancelled }).size = token + 1 := by
    rw [Array.size_push, size]
  refine ⟨cancelled, ?_, ?_⟩
  · rw [after, getElem?_foldl_spread _ _ (sizeAfter ▸ Nat.lt_succ_self token), ← size, Array.getElem?_push_size]
  · rw [iff, size]
    refine or_congr_right (or_congr_right (exists_congr fun parent => and_congr_right fun made => ?_))
    have earlier : parent < token := grown.ordered token parent (by rw [parent?, found]; exact made)
    have insideBefore : parent < before.size := size.symm ▸ earlier
    have kept : (forest.cancel target).tokens[parent]? = before[parent]? := by
      rw [after, getElem?_foldl_spread _ _ (sizeAfter ▸ Nat.lt_succ_of_lt earlier),
        Array.getElem?_push_lt insideBefore, Array.getElem?_eq_getElem insideBefore]
    rw [isCancelled, kept]

/-- Cancelling leaves every token below the one it was made from. -/
theorem parent?_cancel (grown : forest.IsGrown) : (forest.cancel target).parent? token = forest.parent? token := by
  cases found : forest.tokens[token]? with
  | none =>
    have outside : (forest.cancel target).tokens[token]? = none :=
      Array.getElem?_eq_none (by rw [size_cancel]; exact Array.getElem?_eq_none_iff.1 found)
    rw [parent?, parent?, found, outside]
  | some old =>
    obtain ⟨_, after, -⟩ := getElem?_cancel target grown found
    rw [parent?, parent?, found, after]
    rfl

theorem above_cancel (grown : forest.IsGrown) : (forest.cancel target).Above upper token ↔ forest.Above upper token :=
  Above.congr fun _ => parent?_cancel grown

theorem isCancelled_cancel_iff_parent (grown : forest.IsGrown) (inside : token < forest.tokens.size) :
    (forest.cancel target).isCancelled token = true ↔ forest.isCancelled token = true ∨ token = target ∨
      ∃ parent, forest.parent? token = some parent ∧ (forest.cancel target).isCancelled parent = true := by
  have found := Array.getElem?_eq_getElem inside
  obtain ⟨cancelled, after, iff⟩ := getElem?_cancel target grown found
  rw [isCancelled, after, isCancelled, found, parent?, found]
  exact iff

/-- Cancelling cancels what is below the target and nothing else. -/
theorem isCancelled_cancel (grown : forest.IsGrown) (inside : token < forest.tokens.size) :
    (forest.cancel target).isCancelled token = true ↔
      forest.isCancelled token = true ∨ forest.Above target token := by
  induction token using Nat.strongRecOn with
  | ind token inductionHypothesis =>
    rw [isCancelled_cancel_iff_parent grown inside]
    constructor
    · rintro (before | rfl | ⟨parent, made, cancelled⟩)
      · exact Or.inl before
      · exact Or.inr .self
      · have earlier := grown.ordered token parent made
        rcases (inductionHypothesis parent earlier (Nat.lt_trans earlier inside)).1 cancelled with before | above
        · exact Or.inl (grown.inherited token parent made before)
        · exact Or.inr (.parent made above)
    · rintro (before | above)
      · exact Or.inl before
      · cases above with
        | self => exact Or.inr (Or.inl rfl)
        | @parent _ parent made above =>
          have earlier := grown.ordered token parent made
          exact Or.inr (Or.inr ⟨parent, made,
            (inductionHypothesis parent earlier (Nat.lt_trans earlier inside)).2 (Or.inr above)⟩)

theorem IsGrown.cancel (grown : forest.IsGrown) (target : TokenId) : (forest.cancel target).IsGrown where
  ordered token parent made := grown.ordered token parent (parent?_cancel grown ▸ made)
  inherited token parent made cancelled := by
    rw [parent?_cancel grown] at made
    exact (isCancelled_cancel_iff_parent grown (lt_size_of_parent? made)).2 (Or.inr (Or.inr ⟨parent, made, cancelled⟩))

/-! ### Cancelling several tokens -/

@[simp] theorem size_foldl_cancel (targets : List TokenId) :
    (targets.foldl cancel forest).tokens.size = forest.tokens.size := by
  induction targets generalizing forest with
  | nil => rfl
  | cons target targets inductionHypothesis => rw [List.foldl_cons, inductionHypothesis, size_cancel]

theorem IsGrown.foldl_cancel (grown : forest.IsGrown) (targets : List TokenId) :
    (targets.foldl TokenForest.cancel forest).IsGrown := by
  induction targets generalizing forest with
  | nil => exact grown
  | cons target targets inductionHypothesis => exact inductionHypothesis (grown.cancel target)

theorem parent?_foldl_cancel (grown : forest.IsGrown) (targets : List TokenId) :
    (targets.foldl cancel forest).parent? token = forest.parent? token := by
  induction targets generalizing forest with
  | nil => rfl
  | cons target targets inductionHypothesis =>
    rw [List.foldl_cons, inductionHypothesis (grown.cancel target), parent?_cancel grown]

theorem isCancelled_foldl_cancel (grown : forest.IsGrown) (inside : token < forest.tokens.size)
    (targets : List TokenId) :
    (targets.foldl cancel forest).isCancelled token = true ↔
      forest.isCancelled token = true ∨ ∃ target ∈ targets, forest.Above target token := by
  induction targets generalizing forest with
  | nil => simp
  | cons target targets inductionHypothesis =>
    rw [List.foldl_cons, inductionHypothesis (grown.cancel target) (by rwa [size_cancel]),
      isCancelled_cancel grown inside]
    simp [above_cancel grown, or_assoc]

end Community.TokenForest
