/-
This file reads off from the ways in which contexts are made which of them are cancelled together. A context has a
token of its own, or the token of another context, or a new token below that of another context. Two contexts have one
token only if one is a copy of the other or both are copies of a third, for every new token is younger than all the
tokens before it. So the token of a context is above that of another one in just the cases in which the contexts are
related so, and nothing else about the tokens matters.
-/

import Community.Context
import Community.Proofs.Context.Token

namespace Community

/-- The ways in which a context can be made; another context is named by its place in the order in which they were
made. A context with a time to run reads the clock, which has finer steps than milliseconds. -/
inductive Making where
  | fresh
  | withDeadline (deadline : Instant)
  | withTimeout (now : Instant) (timeout : Duration)
  | withToken (other : Nat)
  | clone (other : Nat)
  | below (other : Nat)
  | child (parent : Nat) (now : Instant) (timeout : Duration)
  deriving DecidableEq, Repr

/-- A context, with the way in which it was made. -/
structure Member where
  making : Making
  context : RequestContext
  deriving DecidableEq, Repr

/-- Where the token of a context comes from. -/
inductive Link where
  | own
  | shared (other : Nat)
  | below (other : Nat)
  deriving DecidableEq, Repr

namespace Making

/-- Makes a context; none if the other context does not exist or instants do not reach that far. -/
def make? (forest : TokenForest) (members : List Member) : Making → Option (TokenForest × RequestContext)
  | fresh => some (RequestContext.fresh forest)
  | withDeadline deadline => some (RequestContext.withDeadline forest deadline)
  | withTimeout now timeout => RequestContext.withTimeout? forest now timeout
  | withToken other => members[other]?.map fun original => (forest, .withToken original.context.token)
  | clone other => members[other]?.map fun original => (forest, original.context)
  | below other => members[other]?.map fun parent =>
    let (forest, token) := forest.child parent.context.token
    (forest, .withToken token)
  | child other now timeout => members[other]?.bind fun parent => parent.context.child? forest now timeout

/-- Where the token of a context made in this way comes from. -/
def link : Making → Link
  | fresh | withDeadline _ | withTimeout _ _ => .own
  | withToken other | clone other => .shared other
  | below other | child other _ _ => .below other

/-- The deadline of a context made in this way, given those of the others: a child ends when its time has run or when
its parent ends, whichever comes first. -/
def deadline? (deadlineOf : Nat → Option Instant) : Making → Option Instant
  | fresh | withToken _ | below _ => none
  | withDeadline deadline => some deadline
  | withTimeout now timeout => some ⟨now.nanos + timeout.nanos⟩
  | clone other => deadlineOf other
  | child parent now timeout =>
    match deadlineOf parent with
    | some deadline => some ⟨min (now.nanos + timeout.nanos) deadline.nanos⟩
    | none => some ⟨now.nanos + timeout.nanos⟩

end Making

/-- Where the token of one of the contexts comes from. -/
def linkOf? (members : List Member) (number : Nat) : Option Link :=
  members[number]?.map fun member => member.making.link

/-- The deadline of one of the contexts. -/
def deadlineOf? (members : List Member) (number : Nat) : Option Instant :=
  members[number]?.bind fun member => member.context.deadline

/-- One context governs another one if it is the same, has the token of one that does, or governs the one from which
the other has its token or its parent token. -/
inductive Governs (members : List Member) : Nat → Nat → Prop
  | self {number : Nat} : Governs members number number
  | ofCopy {upper lower other : Nat} (link : linkOf? members lower = some (.shared other))
      (governs : Governs members upper other) : Governs members upper lower
  | ofChild {upper lower parent : Nat} (link : linkOf? members lower = some (.below parent))
      (governs : Governs members upper parent) : Governs members upper lower
  | byCopy {upper lower other : Nat} (link : linkOf? members upper = some (.shared other))
      (governs : Governs members other lower) : Governs members upper lower

variable {forest after : TokenForest} {members : List Member} {making : Making} {context : RequestContext}

/-! ### Making a context -/

/-- What making a context does to the tokens, and which one it gets. -/
inductive Makes (forest : TokenForest) (members : List Member) (making : Making) :
    TokenForest → RequestContext → Prop
  | own {context : RequestContext} (link : making.link = .own) (token : context.token = forest.tokens.size) :
      Makes forest members making forest.root.1 context
  | shared {context : RequestContext} {other : Nat} {original : Member} (link : making.link = .shared other)
      (found : members[other]? = some original) (token : context.token = original.context.token) :
      Makes forest members making forest context
  | below {context : RequestContext} {other : Nat} {parent : Member} (link : making.link = .below other)
      (found : members[other]? = some parent) (token : context.token = forest.tokens.size) :
      Makes forest members making (forest.child parent.context.token).1 context

theorem makes_of_make? (made : making.make? forest members = some (after, context)) :
    Makes forest members making after context := by
  cases making with
  | fresh =>
    cases made
    exact .own rfl rfl
  | withDeadline deadline =>
    cases made
    exact .own rfl rfl
  | withTimeout now timeout =>
    obtain ⟨_, -, made⟩ := Option.map_eq_some_iff.1 made
    cases made
    exact .own rfl rfl
  | withToken other =>
    obtain ⟨original, found, made⟩ := Option.map_eq_some_iff.1 made
    cases made
    exact .shared rfl found rfl
  | clone other =>
    obtain ⟨original, found, made⟩ := Option.map_eq_some_iff.1 made
    cases made
    exact .shared rfl found rfl
  | below other =>
    obtain ⟨parent, found, made⟩ := Option.map_eq_some_iff.1 made
    cases made
    exact .below rfl found rfl
  | child other now timeout =>
    obtain ⟨parent, found, made⟩ := Option.bind_eq_some_iff.1 made
    obtain ⟨_, -, made⟩ := Option.map_eq_some_iff.1 made
    cases made
    exact .below rfl found rfl

theorem Instant.after?_eq_some {instant later : Instant} {span : Duration}
    (reaches : instant.after? span = some later) : later = ⟨instant.nanos + span.nanos⟩ := by
  simp only [after?] at reaches
  split at reaches
  · exact (Option.some.inj reaches).symm
  · cases reaches

theorem Instant.earlier_eq (first second : Instant) : first.earlier second = ⟨min second.nanos first.nanos⟩ := by
  unfold earlier
  split
  · next before => rw [Nat.min_eq_right (Nat.le_of_lt before)]
  · next notBefore => rw [Nat.min_eq_left (Nat.le_of_not_lt notBefore)]

theorem deadline_of_make? (made : making.make? forest members = some (after, context)) :
    context.deadline = making.deadline? (deadlineOf? members) := by
  cases making with
  | fresh =>
    cases made
    rfl
  | withDeadline deadline =>
    cases made
    rfl
  | withTimeout now timeout =>
    obtain ⟨later, reaches, made⟩ := Option.map_eq_some_iff.1 made
    cases made
    exact congrArg some (Instant.after?_eq_some reaches)
  | withToken other =>
    obtain ⟨original, found, made⟩ := Option.map_eq_some_iff.1 made
    cases made
    rfl
  | clone other =>
    obtain ⟨original, found, made⟩ := Option.map_eq_some_iff.1 made
    cases made
    rw [Making.deadline?, deadlineOf?, found, Option.bind_some]
  | below other =>
    obtain ⟨parent, found, made⟩ := Option.map_eq_some_iff.1 made
    cases made
    rfl
  | child other now timeout =>
    obtain ⟨parent, found, made⟩ := Option.bind_eq_some_iff.1 made
    obtain ⟨later, reaches, made⟩ := Option.map_eq_some_iff.1 made
    cases made
    rw [Making.deadline?, deadlineOf?, found, Option.bind_some]
    cases parent.context.deadline with
    | none => exact congrArg some (Instant.after?_eq_some reaches)
    | some deadline =>
      rw [Instant.after?_eq_some reaches]
      exact congrArg some (Instant.earlier_eq deadline _)

/-! ### Tokens of contexts -/

/-- What holds of a context and those before it, whichever way it was made. -/
structure Member.Fits (forest : TokenForest) (earlier : List Member) (member : Member) : Prop where
  inside : member.context.token < forest.tokens.size
  own : member.making.link = .own → forest.parent? member.context.token = none
  shared : ∀ other, member.making.link = .shared other →
    ∃ original, earlier[other]? = some original ∧ member.context.token = original.context.token
  below : ∀ other, member.making.link = .below other →
    ∃ parent, earlier[other]? = some parent ∧ forest.parent? member.context.token = some parent.context.token
  youngest : (∀ other, member.making.link ≠ .shared other) →
    ∀ older ∈ earlier, older.context.token < member.context.token
  deadline : member.context.deadline = member.making.deadline? (deadlineOf? earlier)

/-- Every context fits those before it. -/
def Kin (forest : TokenForest) (members : List Member) : Prop :=
  ∀ (number : Nat) (member : Member), members[number]? = some member → member.Fits forest (members.take number)

/-- What is said of the contexts does not depend on what is cancelled, nor on younger tokens. -/
theorem Kin.congr (kin : Kin forest members) (grows : forest.tokens.size ≤ after.tokens.size)
    (same : ∀ token < forest.tokens.size, after.parent? token = forest.parent? token) : Kin after members := by
  intro number member found
  have fits := kin number member found
  have parents := same _ fits.inside
  exact { fits with
    inside := Nat.lt_of_lt_of_le fits.inside grows
    own := fun link => parents.trans (fits.own link)
    below := fun other link => parents ▸ fits.below other link }

theorem found_take_iff {member : Member} {bound number : Nat} :
    (members.take bound)[number]? = some member ↔ number < bound ∧ members[number]? = some member := by
  rw [List.getElem?_take, Option.ite_none_right_eq_some]

theorem found_concat {new member : Member} {number : Nat} (found : (members ++ [new])[number]? = some member) :
    members[number]? = some member ∨ number = members.length ∧ member = new := by
  rcases Nat.lt_trichotomy number members.length with old | rfl | beyond
  · exact Or.inl (List.getElem?_append_left old ▸ found)
  · exact Or.inr ⟨rfl, Option.some.inj (found.symm.trans List.getElem?_concat_length)⟩
  · have inside := (List.getElem?_eq_some_iff.1 found).1
    rw [List.length_append] at inside
    exact absurd beyond (Nat.not_lt_of_le (Nat.le_of_lt_succ inside))

theorem Kin.concat (kin : Kin forest members) {new : Member} (fits : new.Fits forest members) :
    Kin forest (members ++ [new]) := by
  intro number member found
  rcases found_concat found with old | ⟨rfl, rfl⟩
  · rw [List.take_append_of_le_length (Nat.le_of_lt (List.getElem?_eq_some_iff.1 old).1)]
    exact kin number member old
  · rw [List.take_left]
    exact fits

theorem Kin.mem_inside (kin : Kin forest members) {member : Member} (isMember : member ∈ members) :
    member.context.token < forest.tokens.size := by
  obtain ⟨number, found⟩ := List.mem_iff_getElem?.1 isMember
  exact (kin number member found).inside

/-- A context with a new token fits those before it if the new token is where its making says. -/
theorem Kin.grow (kin : Kin forest members) {new : Token} (grows : forest.Grows new after) {member : Member}
    (token : member.context.token = forest.tokens.size) (notShared : ∀ other, member.making.link ≠ .shared other)
    (own : member.making.link = .own → new.parent = none)
    (below : ∀ other, member.making.link = .below other →
      ∃ parent, members[other]? = some parent ∧ new.parent = some parent.context.token)
    (deadline : member.context.deadline = member.making.deadline? (deadlineOf? members)) :
    Kin after (members ++ [member]) := by
  have parent : after.parent? member.context.token = new.parent := token ▸ grows.parent?_new
  refine (kin.congr (grows.size_eq ▸ Nat.le_succ _) fun _ old => grows.parent?_old old).concat ?_
  exact {
    inside := by rw [token, grows.size_eq]; exact Nat.lt_succ_self _
    own := fun link => parent.trans (own link)
    shared := fun other link => absurd link (notShared other)
    below := fun other link => parent ▸ below other link
    youngest := fun _ older isOlder => token ▸ kin.mem_inside isOlder
    deadline }

/-- Making a context keeps all contexts kin. -/
theorem Kin.make (kin : Kin forest members) (made : making.make? forest members = some (after, context)) :
    Kin after (members ++ [⟨making, context⟩]) := by
  have deadline := deadline_of_make? made
  cases makes_of_make? made with
  | own link token =>
    refine kin.grow forest.grows_root token (fun _ shared => ?_) (fun _ => rfl) (fun _ below => ?_) deadline
    · cases link.symm.trans shared
    · cases link.symm.trans below
  | @shared _ other original link found token =>
    refine kin.concat ?_
    exact {
      inside := token ▸ kin.mem_inside (List.mem_of_getElem? found)
      own := fun isOwn => nomatch link.symm.trans isOwn
      shared := fun other isShared => by
        cases link.symm.trans isShared
        exact ⟨original, found, token⟩
      below := fun other isBelow => nomatch link.symm.trans isBelow
      youngest := fun notShared => absurd link (notShared other)
      deadline }
  | @below _ other parent link found token =>
    refine kin.grow (forest.grows_child _) token (fun _ shared => ?_) (fun own => ?_) (fun _ below => ?_) deadline
    · cases link.symm.trans shared
    · cases link.symm.trans own
    · cases link.symm.trans below
      exact ⟨parent, found, rfl⟩

/-! ### Contexts that govern others -/

section Kin

variable {number other : Nat} {member : Member} (kin : Kin forest members) (found : members[number]? = some member)
include kin found

/-- A copy comes after its original and has its token. -/
theorem Kin.original (link : member.making.link = .shared other) :
    other < number ∧ ∃ original, members[other]? = some original ∧ member.context.token = original.context.token := by
  obtain ⟨original, isOriginal, same⟩ := (kin number member found).shared other link
  obtain ⟨before, isOriginal⟩ := found_take_iff.1 isOriginal
  exact ⟨before, original, isOriginal, same⟩

/-- A child comes after its parent and has a token below its token. -/
theorem Kin.parent (link : member.making.link = .below other) :
    other < number ∧ ∃ parent, members[other]? = some parent ∧
      forest.parent? member.context.token = some parent.context.token := by
  obtain ⟨parent, isParent, made⟩ := (kin number member found).below other link
  obtain ⟨before, isParent⟩ := found_take_iff.1 isParent
  exact ⟨before, parent, isParent, made⟩

/-- A context that is no copy has a younger token than all contexts before it. -/
theorem Kin.older {before : Nat} {older : Member} (notShared : ∀ other, member.making.link ≠ .shared other)
    (earlier : before < number) (isOlder : members[before]? = some older) :
    older.context.token < member.context.token :=
  (kin number member found).youngest notShared older
    (List.mem_of_getElem? (found_take_iff.2 ⟨earlier, isOlder⟩))

/-- The deadline of a context, told from the way it was made and the other deadlines. -/
theorem Kin.deadline : member.context.deadline = member.making.deadline? (deadlineOf? members) := by
  have fits := kin number member found
  have known : ∀ other, other < number → deadlineOf? (members.take number) other = deadlineOf? members other := by
    intro other before
    rw [deadlineOf?, deadlineOf?, List.getElem?_take_of_lt before]
  rw [fits.deadline]
  cases made : member.making with
  | clone other => exact known other (kin.original found (by rw [made]; rfl)).1
  | child parent now timeout =>
    rw [Making.deadline?, Making.deadline?, known parent (kin.parent found (by rw [made]; rfl)).1]
  | fresh | withDeadline _ | withTimeout _ _ | withToken _ | below _ => rfl

end Kin

theorem linkOf?_eq_some_iff {number : Nat} {link : Link} : linkOf? members number = some link ↔
    ∃ member, members[number]? = some member ∧ member.making.link = link :=
  Option.map_eq_some_iff

theorem Governs.above (kin : Kin forest members) {upper lower : Nat} (governs : Governs members upper lower)
    {one other : Member} (isUpper : members[upper]? = some one) (isLower : members[lower]? = some other) :
    forest.Above one.context.token other.context.token := by
  induction governs generalizing one other with
  | self =>
    cases isUpper.symm.trans isLower
    exact .self
  | ofCopy link _ inductionHypothesis =>
    obtain ⟨copy, isCopy, link⟩ := linkOf?_eq_some_iff.1 link
    cases isCopy.symm.trans isLower
    obtain ⟨-, original, isOriginal, same⟩ := kin.original isLower link
    exact same ▸ inductionHypothesis isUpper isOriginal
  | ofChild link _ inductionHypothesis =>
    obtain ⟨child, isChild, link⟩ := linkOf?_eq_some_iff.1 link
    cases isChild.symm.trans isLower
    obtain ⟨-, parent, isParent, made⟩ := kin.parent isLower link
    exact .parent made (inductionHypothesis isUpper isParent)
  | byCopy link _ inductionHypothesis =>
    obtain ⟨copy, isCopy, link⟩ := linkOf?_eq_some_iff.1 link
    cases isCopy.symm.trans isUpper
    obtain ⟨-, original, isOriginal, same⟩ := kin.original isUpper link
    exact same ▸ inductionHypothesis isOriginal isLower

/-- A context whose token is above that of another one governs it. The induction is on the places of both; a copy on
either side gives way to its original. -/
theorem governs_of_above (kin : Kin forest members) {upper lower : Nat} {one other : Member}
    (isUpper : members[upper]? = some one) (isLower : members[lower]? = some other)
    (above : forest.Above one.context.token other.context.token) : Governs members upper lower := by
  by_cases lowerShared : ∃ source, other.making.link = .shared source
  · obtain ⟨source, link⟩ := lowerShared
    obtain ⟨before, original, isOriginal, same⟩ := kin.original isLower link
    exact .ofCopy (linkOf?_eq_some_iff.2 ⟨other, isLower, link⟩)
      (governs_of_above kin isUpper isOriginal (same ▸ above))
  by_cases upperShared : ∃ source, one.making.link = .shared source
  · obtain ⟨source, link⟩ := upperShared
    obtain ⟨before, original, isOriginal, same⟩ := kin.original isUpper link
    exact .byCopy (linkOf?_eq_some_iff.2 ⟨one, isUpper, link⟩)
      (governs_of_above kin isOriginal isLower (same ▸ above))
  -- Neither is a copy, so they are the same if they have the same token.
  have lowerNew : ∀ source, other.making.link ≠ .shared source := fun source link => lowerShared ⟨source, link⟩
  have upperNew : ∀ source, one.making.link ≠ .shared source := fun source link => upperShared ⟨source, link⟩
  generalize tokens : other.context.token = token at above
  cases above with
  | self =>
    rcases Nat.lt_trichotomy upper lower with before | rfl | behind
    · exact absurd (kin.older isLower lowerNew before isUpper) (tokens ▸ Nat.lt_irrefl _)
    · exact .self
    · exact absurd (kin.older isUpper upperNew behind isLower) (tokens ▸ Nat.lt_irrefl _)
  | @parent _ parent made above =>
    cases link : other.making.link with
    | own => cases ((kin lower other isLower).own link).symm.trans (tokens.symm ▸ made)
    | shared source => exact absurd link (lowerNew source)
    | below source =>
      obtain ⟨before, child, isParent, madeFrom⟩ := kin.parent isLower link
      cases madeFrom.symm.trans (tokens.symm ▸ made)
      exact .ofChild (linkOf?_eq_some_iff.2 ⟨other, isLower, link⟩) (governs_of_above kin isUpper isParent above)
termination_by upper + lower

theorem above_iff_governs (kin : Kin forest members) {upper lower : Nat} {one other : Member}
    (isUpper : members[upper]? = some one) (isLower : members[lower]? = some other) :
    forest.Above one.context.token other.context.token ↔ Governs members upper lower :=
  ⟨governs_of_above kin isUpper isLower, fun governs => governs.above kin isUpper isLower⟩

end Community
