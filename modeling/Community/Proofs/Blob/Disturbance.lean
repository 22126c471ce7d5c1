/-
This file proves what the writing of a blob does to other paths, in a store that keeps blobs as files and has been
used in whatever way since it was opened. The file itself is not all that a write leaves behind: there are the
directories that have been made for it, even by a write that fails, and there is the place of its temporary file,
which is empty afterwards whatever file stood there. These are the ways in which another path can come to lead
elsewhere, and what the store answers about a path changes exactly if the path does.
-/

import Community.Proofs.Blob.Canonical
import Community.Proofs.Blob.Directory
import Community.Proofs.Blob.Lookup

namespace Community.Blob.Directory

open FileTree

variable {store after : Directory} {parent made path other : Names} {name : String} {data : ByteArray}
  {outcome : Outcome Unit}

/-! ### What a write leaves behind -/

/-- The store after a blob has been written, or should have been: the directories `made` are there, the file is in
its place if nothing has failed, and there is no file in the place of the temporary one. -/
structure Puts (store : Directory) (parent : Names) (name : String) (data : ByteArray) (made : Names)
    (after : Directory) (outcome : Outcome Unit) : Prop where
  root : after.root = store.root
  sound : after.tree.Sound
  free : ∀ above, above <+: made → ∀ data, store.tree.holds? above ≠ some (.file data)
  vacant : outcome = .ok () → store.tree.holds? (parent ++ [name]) ≠ some .directory
  written : outcome = .ok () → after.tree.holds? (parent ++ [name]) = some (.file data)
  unwritten : outcome ≠ .ok () → after.tree.holds? (parent ++ [name]) = store.tree.holds? (parent ++ [name])
  temporary : after.tree.holds? (parent ++ [store.temporaryName name]) =
    (store.tree.holds? (parent ++ [store.temporaryName name])).filter Node.isDirectory
  others : ∀ place, place ≠ parent ++ [name] → place ≠ parent ++ [store.temporaryName name] →
    after.tree.holds? place =
      if place ≠ [] ∧ place <+: made then some .directory else store.tree.holds? place

theorem filter_isDirectory_of_not_file {entry : Option Node} (other : ∀ data, entry ≠ some (.file data)) :
    entry.filter Node.isDirectory = entry := by
  cases entry with
  | none => rfl
  | some node =>
    cases node with
    | directory => rfl
    | file data => exact absurd rfl (other data)

theorem discard_of_not_file {tree : FileTree} (sound : tree.Sound)
    (other : ∀ data, tree.holds? path ≠ some (.file data)) : discard tree path = tree := by
  unfold discard removeFile
  cases found : tree.find path with
  | error fault => rfl
  | ok node =>
    cases node with
    | directory => rfl
    | file data => exact absurd ((find_eq_file_iff sound).1 found) (other data)

theorem sets_discard {tree : FileTree} (sound : tree.Sound) (held : tree.holds? path = some (.file data)) :
    Sets tree path none (discard tree path) := by
  obtain ⟨after, removes, sets⟩ := removeFile_of_holds sound.toRooted (sound.fits _ _ held) held
  rw [discard, removes]
  exact sets

/-- A write that fails leaves the directories that it has made, and nothing at its temporary file. -/
theorem Puts.of_failure {tree : FileTree} {result : Except Fault Unit} {error : ServiceError}
    (makes : MakesFront store.tree parent made tree result) (root : after.root = store.root)
    (sound : after.tree.Sound)
    (temporary : after.tree.holds? (parent ++ [store.temporaryName name]) =
      (store.tree.holds? (parent ++ [store.temporaryName name])).filter Node.isDirectory)
    (others : ∀ place, place ≠ parent ++ [store.temporaryName name] →
      after.tree.holds? place = tree.holds? place) :
    Puts store parent name data made after (.error error) where
  root := root
  sound := sound
  free := makes.free
  vacant := nofun
  written := nofun
  unwritten _ := (others _ (by simp [store.temporaryName_ne, Ne.symm])).trans (makes.holds_concat name)
  temporary := temporary
  others place _ apart := (others place apart).trans (makes.holds place)

section Ends

variable {tree written moved : FileTree} {fault : Fault}

theorem put_of_unmade (isMade : store.tree.makeDirectories parent.length parent = (tree, .error fault)) :
    store.put (parent ++ [name]) data =
      ({ store with tree }, .error (store.failure "create dir" parent fault)) := by
  simp only [put, List.dropLast_concat, isMade]

theorem put_of_unwritten (isMade : store.tree.makeDirectories parent.length parent = (tree, .ok ()))
    (fails : tree.writeFile (parent ++ [store.temporaryName name]) data = .error fault) :
    store.put (parent ++ [name]) data =
      ({ store with
          tree := discard tree (parent ++ [store.temporaryName name])
          nextTemporary := store.nextTemporary + 1 },
        .error (store.failure "write" (parent ++ [store.temporaryName name]) fault)) := by
  rw [temporaryName] at fails ⊢
  simp only [put, List.dropLast_concat, List.getLastD_concat, isMade, fails]
  rfl

theorem put_of_unmoved (isMade : store.tree.makeDirectories parent.length parent = (tree, .ok ()))
    (writes : tree.writeFile (parent ++ [store.temporaryName name]) data = .ok written)
    (fails : written.renameFile (parent ++ [store.temporaryName name]) (parent ++ [name]) = .error fault) :
    store.put (parent ++ [name]) data =
      ({ store with
          tree := discard written (parent ++ [store.temporaryName name])
          nextTemporary := store.nextTemporary + 1 },
        .error (store.failure "rename" (parent ++ [name]) fault)) := by
  rw [temporaryName] at writes fails ⊢
  simp only [put, List.dropLast_concat, List.getLastD_concat, isMade, writes, fails]
  rfl

theorem put_of_moved (isMade : store.tree.makeDirectories parent.length parent = (tree, .ok ()))
    (writes : tree.writeFile (parent ++ [store.temporaryName name]) data = .ok written)
    (moves : written.renameFile (parent ++ [store.temporaryName name]) (parent ++ [name]) = .ok moved) :
    store.put (parent ++ [name]) data =
      ({ store with tree := moved, nextTemporary := store.nextTemporary + 1 }, .ok ()) := by
  rw [temporaryName] at writes moves
  simp only [put, List.dropLast_concat, List.getLastD_concat, isMade, writes, moves]

end Ends

/-- The temporary file goes when it has been written, whether it can be moved or not. -/
theorem put_spec_of_written {tree written : FileTree} (sound : store.tree.Sound)
    (isMade : store.tree.makeDirectories parent.length parent = (tree, .ok ()))
    (makes : MakesFront store.tree parent parent tree (.ok ()))
    (writes : tree.writeFile (parent ++ [store.temporaryName name]) data = .ok written)
    (fits : Fits (parent ++ [store.temporaryName name]))
    (untaken : tree.holds? (parent ++ [store.temporaryName name]) ≠ some .directory)
    (sets : Sets tree (parent ++ [store.temporaryName name]) (some (.file data)) written) :
    ∃ made after outcome, store.put (parent ++ [name]) data = (after, outcome) ∧
      Puts store parent name data made after outcome := by
  have differs := store.temporaryName_ne name
  have apart : parent ++ [name] ≠ parent ++ [store.temporaryName name] := by simpa using differs.symm
  have soundWritten := sets.sound (makes.toMakes.sound sound makes.fits) fun _ => fits
  have reads := readFile_of_holds soundWritten.toRooted fits sets.holds_self
  have gone : (store.tree.holds? (parent ++ [store.temporaryName name])).filter Node.isDirectory = none := by
    rw [← makes.holds_concat]
    cases held : tree.holds? (parent ++ [store.temporaryName name]) with
    | none => rfl
    | some node =>
      cases node with
      | directory => exact absurd held untaken
      | file data => rfl
  rcases writeFile_spec soundWritten (sets.hasDirectory makes.toMakes.hasDirectory) name data with
    ⟨moved, replaces, fitsTarget, vacant, places⟩ | ⟨⟨fault, fails⟩, -⟩
  · have soundMoved := places.sound soundWritten fun _ => fitsTarget
    have heldStill := (places.holds_of_ne apart.symm).trans sets.holds_self
    obtain ⟨after, removes, clears⟩ := removeFile_of_holds soundMoved.toRooted fits heldStill
    have moves : written.renameFile (parent ++ [store.temporaryName name]) (parent ++ [name]) = .ok after := by
      simp only [renameFile, reads, replaces, removes]
    refine ⟨parent, _, _, put_of_moved isMade writes moves, rfl, clears.sound_of_none soundMoved, makes.free,
      fun _ => ?_, fun _ => (clears.holds_of_ne apart).trans places.holds_self, fun fails => absurd rfl fails,
      clears.holds_self.trans gone.symm, fun place notTarget notTemporary => ?_⟩
    · rwa [sets.holds_of_ne apart, makes.holds_concat] at vacant
    · exact (clears.holds_of_ne notTemporary).trans <| (places.holds_of_ne notTarget).trans <|
        (sets.holds_of_ne notTemporary).trans (makes.holds place)
  · have fails : written.renameFile (parent ++ [store.temporaryName name]) (parent ++ [name]) = .error fault := by
      simp only [renameFile, reads, fails]
    have clears := sets_discard soundWritten sets.holds_self
    exact ⟨parent, _, _, put_of_unmoved isMade writes fails, .of_failure makes rfl
      (clears.sound_of_none soundWritten) (clears.holds_self.trans gone.symm)
      fun place apart => (clears.holds_of_ne apart).trans (sets.holds_of_ne apart)⟩

/-- Whatever a write ends in, it leaves no more behind than that. -/
theorem put_spec (sound : store.tree.Sound) (parent : Names) (name : String) (data : ByteArray) :
    ∃ made after outcome, store.put (parent ++ [name]) data = (after, outcome) ∧
      Puts store parent name data made after outcome := by
  obtain ⟨made, tree, result, isMade, makes⟩ := makeDirectories_spec sound (Nat.le_refl parent.length)
  have soundMade := makes.toMakes.sound sound makes.fits
  have unwritten (other : ∀ old, tree.holds? (parent ++ [store.temporaryName name]) ≠ some (.file old)) :
      tree.holds? (parent ++ [store.temporaryName name]) =
        (store.tree.holds? (parent ++ [store.temporaryName name])).filter Node.isDirectory := by
    rw [← makes.holds_concat]
    exact (filter_isDirectory_of_not_file other).symm
  rcases makes.ends with ⟨rfl, rfl⟩ | ⟨⟨fault, rfl⟩, absent⟩
  · have there := makes.toMakes.hasDirectory
    rcases writeFile_spec soundMade there (store.temporaryName name) data with
      ⟨written, writes, fits, untaken, sets⟩ | ⟨⟨fault, fails⟩, other⟩
    · exact put_spec_of_written sound isMade makes writes fits untaken sets
    · have same := discard_of_not_file soundMade other
      exact ⟨made, _, _, put_of_unwritten isMade fails, .of_failure makes rfl (same.symm ▸ soundMade)
        (same.symm ▸ unwritten other) fun place _ => congrArg (·.holds? place) same⟩
  · have other (old : ByteArray) :
        tree.holds? (parent ++ [store.temporaryName name]) ≠ some (.file old) := fun held =>
      absent (soundMade.parent _ _ _ held)
    exact ⟨made, _, _, put_of_unmade isMade, .of_failure makes rfl soundMade (unwritten other) fun _ _ => rfl⟩

/-! ### Stores that have been used -/

/-- The store after some requests. -/
def run (store : Directory) (requests : List Request) : Directory :=
  requests.foldl (fun store request => (store.answer request).1) store

theorem sound_remove (sound : store.tree.Sound) (path : Names) : (store.remove path).1.tree.Sound := by
  unfold remove
  cases removes : store.tree.removeFile path with
  | error fault => cases fault <;> exact sound
  | ok tree =>
    have soundAfter := sound.removeFile removes
    dsimp only
    split
    · exact soundAfter
    · exact soundAfter.removeEmptyDirectory _

theorem names_eq_pieces (path : String) : names path = (pieces path).map String.ofList := by
  rw [names, splitSlashes_eq_splitOn]
  rfl

theorem names_ne_nil {path result : String} (accepted : canonical path = .ok result) : names result ≠ [] := by
  rw [names_eq_pieces, pieces_of_accepted accepted]
  exact fun empty => namings_ne_nil accepted (List.map_eq_nil_iff.1 empty)

/-- Paths with different canonical forms are different in the tree. -/
theorem names_ne {path another one two : String} (accepted : canonical path = .ok one)
    (alsoAccepted : canonical another = .ok two) (differs : one ≠ two) : names one ≠ names two := by
  rw [names_eq_pieces, names_eq_pieces, pieces_of_accepted accepted, pieces_of_accepted alsoAccepted]
  intro same
  exact differs ((canonical_eq_iff alsoAccepted accepted).2
    (List.map_injective_iff.2 (fun _ _ => String.ofList_injective) same))

theorem sound_answer (sound : store.tree.Sound) (request : Request) : (store.answer request).1.tree.Sound := by
  cases request with
  | put path data =>
    unfold answer
    dsimp only
    split
    · next result accepted =>
      obtain ⟨parent, name, cut⟩ := (List.eq_nil_or_concat' (names result)).resolve_left (names_ne_nil accepted)
      obtain ⟨made, after, outcome, puts, spec⟩ := put_spec sound parent name data
      rw [cut, puts]
      exact spec.sound
    · exact sound
  | contains path => exact sound
  | fetch path => exact sound
  | remove path =>
    unfold answer
    dsimp only
    split
    · exact sound_remove sound _
    · exact sound
  | list directory => exact sound

theorem sound_run (sound : store.tree.Sound) (requests : List Request) : (store.run requests).tree.Sound := by
  induction requests generalizing store with
  | nil => exact sound
  | cons request rest inductionHypothesis => exact inductionHypothesis (sound_answer sound request)

/-- A store that has been opened is empty. -/
theorem sound_of_create {place : FileTree} {scratch : String} {path : Names}
    (opened : create place scratch path = .ok store) : store.tree.Sound := by
  unfold create at opened
  split at opened
  · cases opened
    exact .empty
  · cases opened

/-! ### What becomes of another path -/

/-- The path of the temporary file to which a blob is written next. -/
def temporary (store : Directory) (path : Names) : Names :=
  path.dropLast ++ [store.temporaryName (path.getLastD "")]

/-- How the writing of a blob changes where another path leads: a file that is taken for the temporary one goes, and
what was blocked by it is so no more; a new file blocks what is below it; a new directory is there, and a name that
is too long is found to be so below it. -/
inductive Disturbs (store : Directory) (path : Names) (data : ByteArray) (other : Names) : Prop
  | replaced {old : ByteArray} : store.tree.holds? (store.temporary path) = some (.file old) →
    store.temporary path <+: other → Disturbs store path data other
  | blocked : store.tree.holds? path = none → (store.put path data).2 = .ok () → path <+: other →
    Disturbs store path data other
  | made {front : Names} : store.tree.holds? front = none →
    (store.put path data).1.tree.holds? front = some .directory →
    (other = front ∨ ∃ long rest, other = front ++ long :: rest ∧ longestName < long.utf8ByteSize) →
    Disturbs store path data other

section Elsewhere

variable {place : Names} {content : ByteArray} {result : Except Fault Node}

/-- A place is as it was, or it holds the file that has been written, or it held a file that has been taken for the
temporary one, or a directory has been made there. -/
theorem Puts.holds_cases (puts : Puts store parent name data made after outcome) (place : Names) :
    after.tree.holds? place = store.tree.holds? place ∨
      (place = parent ++ [name] ∧ outcome = .ok () ∧ after.tree.holds? place = some (.file data) ∧
        store.tree.holds? place ≠ some .directory) ∨
      (place = parent ++ [store.temporaryName name] ∧ (∃ old, store.tree.holds? place = some (.file old)) ∧
        after.tree.holds? place = none) ∨
      (store.tree.holds? place = none ∧ after.tree.holds? place = some .directory) := by
  by_cases isTarget : place = parent ++ [name]
  · subst isTarget
    by_cases done : outcome = .ok ()
    · exact Or.inr (Or.inl ⟨rfl, done, puts.written done, puts.vacant done⟩)
    · exact Or.inl (puts.unwritten done)
  by_cases isTemporary : place = parent ++ [store.temporaryName name]
  · subst isTemporary
    have now := puts.temporary
    cases before : store.tree.holds? (parent ++ [store.temporaryName name]) with
    | none => exact Or.inl (now.trans (congrArg _ before))
    | some node =>
      cases node with
      | directory => exact Or.inl (now.trans (congrArg _ before))
      | file old => exact Or.inr (Or.inr (Or.inl ⟨rfl, ⟨old, rfl⟩, now.trans (congrArg _ before)⟩))
  · have now := puts.others place isTarget isTemporary
    split at now
    · next above =>
      cases before : store.tree.holds? place with
      | none => exact Or.inr (Or.inr (Or.inr ⟨rfl, now⟩))
      | some node =>
        cases node with
        | directory => exact Or.inl now
        | file old => exact absurd before (puts.free place above.2 old)
    · exact Or.inl now

theorem Puts.hasDirectory (puts : Puts store parent name data made after outcome)
    (there : store.tree.HasDirectory place) : after.tree.HasDirectory place := by
  refine there.imp_right fun held => ?_
  rcases puts.holds_cases place with same | ⟨-, -, -, vacant⟩ | ⟨-, ⟨old, file⟩, -⟩ | ⟨missing, -⟩
  · exact same.trans held
  · exact absurd held vacant
  · cases held.symm.trans file
  · cases held.symm.trans missing

/-- A directory was there before, or nothing was there and it has been made. -/
theorem Puts.directory_cases (puts : Puts store parent name data made after outcome)
    (there : after.tree.HasDirectory place) : store.tree.HasDirectory place ∨
      store.tree.holds? place = none ∧ after.tree.holds? place = some .directory := by
  rcases there with isRoot | held
  · exact Or.inl (Or.inl isRoot)
  rcases puts.holds_cases place with same | ⟨-, -, file, -⟩ | ⟨-, -, gone⟩ | made
  · exact Or.inl (Or.inr (same.symm.trans held))
  · cases held.symm.trans file
  · cases held.symm.trans gone
  · exact Or.inr made

/-- A file was there before, or it is the one that has been written. -/
theorem Puts.file_cases (puts : Puts store parent name data made after outcome)
    (held : after.tree.holds? place = some (.file content)) :
    store.tree.holds? place = some (.file content) ∨ place = parent ++ [name] ∧ outcome = .ok () := by
  rcases puts.holds_cases place with same | ⟨isTarget, done, -⟩ | ⟨-, -, gone⟩ | ⟨-, directory⟩
  · exact Or.inl (same.symm.trans held)
  · exact Or.inr ⟨isTarget, done⟩
  · cases held.symm.trans gone
  · cases held.symm.trans directory

/-- A file is there still, unless it was taken for the temporary one. -/
theorem Puts.file_stays (puts : Puts store parent name data made after outcome)
    (held : store.tree.holds? place = some (.file content))
    (differs : place ≠ parent ++ [store.temporaryName name]) :
    ∃ new, after.tree.holds? place = some (.file new) ∧ (place ≠ parent ++ [name] → new = content) := by
  rcases puts.holds_cases place with same | ⟨isTarget, -, file, -⟩ | ⟨isTemporary, -⟩ | ⟨missing, -⟩
  · exact ⟨content, same.trans held, fun _ => rfl⟩
  · exact ⟨data, file, fun apart => absurd isTarget apart⟩
  · exact absurd isTemporary differs
  · cases held.symm.trans missing

variable (sound : store.tree.Sound) (puts : Puts store parent name data made after outcome)
include sound puts

/-- No file blocked the way to what a new file blocks now. -/
theorem not_blocked_of_missing (missing : store.tree.holds? (parent ++ [name]) = none)
    (written : outcome = .ok ()) (isFront : parent ++ [name] <+: other) :
    ¬ Leads store.tree other (.error .notADirectory) := by
  intro before
  cases before with
  | @blocked front rest last old held =>
    rcases List.prefix_or_prefix_of_prefix isFront (List.prefix_append front _) with above | below
    · obtain ⟨back, rfl⟩ := above
      cases back with
      | nil =>
        rw [List.append_nil] at held
        cases missing.symm.trans held
      | cons next others =>
        have there := sound.toRooted.hasDirectory_of_front held nofun
        cases missing.symm.trans (there.resolve_left (by simp))
    · rcases List.prefix_concat_iff.1 below with rfl | above
      · cases missing.symm.trans held
      · have there := (puts.sound.parent _ _ _ (puts.written written)).of_front puts.sound.toRooted above
        rcases puts.directory_cases there with thereBefore | ⟨missingBefore, -⟩
        · exact thereBefore.free sound.toRooted (List.prefix_refl _) old held
        · cases missingBefore.symm.trans held

/-- No name was too long on the way to a directory that has been made. -/
theorem not_tooLong_of_missing {front : Names} (missing : store.tree.holds? front = none)
    (there : after.tree.holds? front = some .directory) (isFront : front <+: other) :
    ¬ Leads store.tree other (.error .nameTooLong) := by
  intro before
  cases before with
  | @tooLong outer rest last thereBefore long =>
    have short (member : last ∈ front) : False :=
      Nat.not_lt.2 ((puts.sound.fits _ _ there).names last member) long
    have isNext : outer ++ [last] <+: outer ++ last :: rest := ⟨rest, by simp⟩
    rcases List.prefix_or_prefix_of_prefix isFront isNext with within | beyond
    · rcases List.prefix_concat_iff.1 within with rfl | above
      · exact short (by simp)
      · rcases thereBefore.of_front sound.toRooted above with rfl | held
        · cases puts.sound.root.symm.trans there
        · cases missing.symm.trans held
    · exact short (beyond.subset (by simp))

variable (isPut : store.put (parent ++ [name]) data = (after, outcome))
include isPut

/-- What led nowhere does so still, unless it is disturbed. -/
theorem leads_missing_after (apart : other ≠ parent ++ [name])
    (undisturbed : ¬ store.Disturbs (parent ++ [name]) data other)
    (before : Leads store.tree other (.error .notFound)) (now : Leads after.tree other result) :
    result = .error .notFound := by
  have isMade {front : Names} (missing : store.tree.holds? front = none)
      (there : after.tree.holds? front = some .directory) :
      ¬ (other = front ∨ ∃ long rest, other = front ++ long :: rest ∧ longestName < long.utf8ByteSize) :=
    fun below => undisturbed (.made missing (by rw [isPut]; exact there) below)
  cases now with
  | directory there =>
    rcases puts.directory_cases there with thereBefore | ⟨missing, made⟩
    · exact (Leads.directory thereBefore).unique sound before
    · exact absurd (Or.inl rfl) (isMade missing made)
  | file held =>
    rcases puts.file_cases held with heldBefore | ⟨isTarget, -⟩
    · exact (Leads.file heldBefore).unique sound before
    · exact absurd isTarget apart
  | blocked held =>
    rcases puts.file_cases held with heldBefore | ⟨rfl, written⟩
    · exact (Leads.blocked heldBefore).unique sound before
    · cases heldBefore : store.tree.holds? (parent ++ [name]) with
      | none =>
        exact absurd (.blocked heldBefore (by rw [isPut]; exact written) (List.prefix_append ..)) undisturbed
      | some node =>
        cases node with
        | directory => exact absurd heldBefore (puts.vacant written)
        | file old => exact (Leads.blocked heldBefore).unique sound before
  | missing => rfl
  | tooLong there long =>
    rcases puts.directory_cases there with thereBefore | ⟨missing, made⟩
    · exact (Leads.tooLong thereBefore long).unique sound before
    · exact absurd (Or.inr ⟨_, _, rfl, long⟩) (isMade missing made)

/-- What is not disturbed leads where it led. -/
theorem leads_after (apart : other ≠ parent ++ [name])
    (undisturbed : ¬ store.Disturbs (parent ++ [name]) data other)
    (before : Leads store.tree other result) : Leads after.tree other result := by
  have notTemporary {front : Names} {old : ByteArray} (held : store.tree.holds? front = some (.file old))
      (isFront : front <+: other) : front ≠ parent ++ [store.temporaryName name] := by
    intro same
    have isTemporary : store.temporary (parent ++ [name]) = front := by
      rw [temporary, List.dropLast_concat, List.getLastD_concat, same]
    exact undisturbed (.replaced (isTemporary ▸ held) (isTemporary ▸ isFront))
  have now : Leads after.tree other (after.tree.walk [] other) := leads_walk (Or.inl rfl)
  cases before with
  | directory there => exact .directory (puts.hasDirectory there)
  | file held =>
    obtain ⟨new, stays, same⟩ := puts.file_stays held (notTemporary held (List.prefix_refl _))
    exact .file (same apart ▸ stays)
  | blocked held =>
    obtain ⟨new, stays, -⟩ := puts.file_stays held (notTemporary held (List.prefix_append ..))
    exact .blocked stays
  | missing there short missing =>
    have same := leads_missing_after sound puts isPut apart undisturbed (.missing there short missing) now
    rwa [same] at now
  | tooLong there long => exact .tooLong (puts.hasDirectory there) long

/-- What is disturbed leads elsewhere. -/
theorem find_ne_of_disturbs (small : pathSize other ≤ longestPath) (apart : other ≠ parent ++ [name])
    (disturbs : store.Disturbs (parent ++ [name]) data other) :
    after.tree.find other ≠ store.tree.find other := by
  intro same
  have before := leads_find store.tree small
  have now := leads_find after.tree small
  rw [same] at now
  generalize store.tree.find other = result at before now
  cases disturbs with
  | replaced held isFront =>
    rw [temporary, List.dropLast_concat, List.getLastD_concat] at held isFront
    obtain ⟨rest, rfl⟩ := isFront
    have gone : after.tree.holds? (parent ++ [store.temporaryName name]) = none := by
      rw [puts.temporary, held]
      rfl
    have short := (sound.fits _ _ held).names (store.temporaryName name) (by simp)
    have lost : Leads after.tree (parent ++ [store.temporaryName name] ++ rest) (.error .notFound) := by
      rw [List.append_assoc]
      exact .missing (puts.hasDirectory (sound.parent _ _ _ held)) short gone
    cases now.unique puts.sound lost
    cases rest with
    | nil =>
      rw [List.append_nil] at before
      cases before.unique sound (.file held)
    | cons next others => cases before.unique sound (.blocked held)
  | blocked missing written isFront =>
    rw [isPut] at written
    have notBlocked := not_blocked_of_missing sound puts missing written isFront
    obtain ⟨rest, rfl⟩ := isFront
    cases rest with
    | nil => exact apart (List.append_nil _)
    | cons next others =>
      cases now.unique puts.sound (.blocked (puts.written written))
      exact notBlocked before
  | @made front missing there below =>
    rw [isPut] at there
    have notThere : ¬ store.tree.HasDirectory front := by
      rintro (rfl | held)
      · cases puts.sound.root.symm.trans there
      · cases missing.symm.trans held
    rcases below with rfl | ⟨long, rest, rfl, tooLong⟩
    · cases now.unique puts.sound (.directory (Or.inr there))
      cases before with
      | directory thereBefore => exact notThere thereBefore
    · cases now.unique puts.sound (.tooLong (Or.inr there) tooLong)
      exact not_tooLong_of_missing sound puts missing there (List.prefix_append ..) before

/-- A blob that is there is disturbed only if it is taken for the temporary file. -/
theorem disturbs_blob_iff (apart : other ≠ parent ++ [name])
    (held : store.tree.holds? other = some (.file content)) :
    store.Disturbs (parent ++ [name]) data other ↔ other = store.temporary (parent ++ [name]) := by
  -- what stands above the blob is a directory
  have above {front : Names} (isFront : front <+: other) (nonempty : front ≠ []) (differs : front ≠ other) :
      store.tree.holds? front = some .directory := by
    obtain ⟨back, rfl⟩ := isFront
    refine (sound.toRooted.hasDirectory_of_front held ?_).resolve_left nonempty
    rintro rfl
    exact differs (List.append_nil front).symm
  constructor
  · rintro (⟨file, isFront⟩ | ⟨missing, -, isFront⟩ | ⟨missing, there, below⟩)
    · by_contra differs
      cases file.symm.trans (above isFront (by simp [temporary]) (Ne.symm differs))
    · cases missing.symm.trans (above isFront (by simp) apart.symm)
    · rw [isPut] at there
      rcases below with rfl | ⟨long, rest, rfl, -⟩
      · cases missing.symm.trans held
      · refine absurd (above (List.prefix_append ..) ?_ (by simp)) (by rw [missing]; nofun)
        rintro rfl
        cases puts.sound.root.symm.trans there
  · rintro rfl
    exact .replaced held (List.prefix_refl _)

end Elsewhere

/-! ### Answers -/

theorem message_injective : Function.Injective Fault.message := by
  intro one two same
  cases one <;> cases two <;> first | rfl | exact absurd same (by decide)

theorem failure_congr (root : after.root = store.root) (operation : String) (fault : Fault) :
    after.failure operation path fault = store.failure operation path fault := by
  rw [failure, failure, shown, shown, root]

theorem failure_injective (store : Directory) (operation : String) (path : Names) :
    Function.Injective (store.failure operation path) := by
  intro one two same
  exact message_injective ((String.append_right_inj _).1 (ServiceError.storage.inj same))

/-- What is answered to a fetch tells what has been read. -/
def fetched (store : Directory) (path : String) : Except Fault ByteArray → Outcome ByteArray
  | .ok data => .ok data
  | .error .notFound => .error (noSuchBlob path)
  | .error fault => .error (store.failure "read" (names path) fault)

theorem fetched_injective (store : Directory) (path : String) : Function.Injective (store.fetched path) := by
  have fault_eq (fault : Fault) (differs : fault ≠ .notFound) :
      store.fetched path (.error fault) = .error (store.failure "read" (names path) fault) := by
    cases fault with
    | notFound => exact absurd rfl differs
    | alreadyExists | notADirectory | isADirectory | nameTooLong => rfl
  have ok_ne (data : ByteArray) (fault : Fault) :
      store.fetched path (.ok data) ≠ store.fetched path (.error fault) := by
    cases fault <;> nofun
  intro one two same
  rcases one with one | one <;> rcases two with two | two
  · by_cases isMissing : one = .notFound <;> by_cases isMissingToo : two = .notFound
    · rw [isMissing, isMissingToo]
    · rw [isMissing, fault_eq two isMissingToo] at same
      cases same
    · rw [isMissingToo, fault_eq one isMissing] at same
      cases same
    · rw [fault_eq one isMissing, fault_eq two isMissingToo] at same
      rw [store.failure_injective _ _ (Except.error.inj same)]
  · exact absurd same.symm (ok_ne two one)
  · exact absurd same (ok_ne one two)
  · rw [Except.ok.inj same]

/-- What is answered to the question whether there is a blob, by what the path leads to. -/
def contained (store : Directory) (path : String) : Except Fault Node → Outcome Bool
  | .ok (.file _) => .ok true
  | .ok .directory => .ok false
  | .error .notFound => .ok false
  | .error fault => .error (store.failure "stat" (names path) fault)

section Answers

variable {asked result : String} (accepted : canonical asked = .ok result)
include accepted

theorem put_answer_eq (data : ByteArray) : store.answer (.put asked data) = store.put (names result) data := by
  unfold answer
  dsimp only
  rw [accepted]

theorem fetch_eq :
    (store.answer (.fetch asked)).2 = store.fetched result (store.tree.readFile (names result)) := by
  unfold answer
  dsimp only
  rw [accepted]
  show Except.bind (.ok result) _ = _
  unfold Except.bind
  dsimp only
  rcases store.tree.readFile (names result) with fault | data
  · cases fault <;> rfl
  · rfl

theorem contains_eq :
    (store.answer (.contains asked)).2 = store.contained result (store.tree.find (names result)) := by
  unfold answer
  dsimp only
  rw [accepted]
  show Except.bind (.ok result) _ = _
  unfold Except.bind
  dsimp only
  rcases store.tree.find (names result) with fault | ⟨data⟩ | _
  · cases fault <;> rfl
  · rfl
  · rfl

/-- Two stores in the same place answer alike about a path exactly if it leads to the same. -/
theorem answers_eq_iff (root : after.root = store.root) :
    ((after.answer (.contains asked)).2 = (store.answer (.contains asked)).2 ∧
        (after.answer (.fetch asked)).2 = (store.answer (.fetch asked)).2) ↔
      after.tree.find (names result) = store.tree.find (names result) := by
  have sameFetched : after.fetched result = store.fetched result := by
    funext read
    rcases read with fault | data
    · cases fault <;> simp only [fetched, failure_congr root]
    · rfl
  have sameContained : after.contained result = store.contained result := by
    funext found
    rcases found with fault | ⟨data⟩ | _
    · cases fault <;> simp only [contained, failure_congr root]
    · rfl
    · rfl
  constructor
  · rintro ⟨-, same⟩
    have same := (fetch_eq accepted).symm.trans (same.trans (fetch_eq accepted))
    rw [sameFetched] at same
    exact readFile_eq_iff.1 (store.fetched_injective result same)
  · intro same
    refine ⟨(contains_eq accepted).trans (Eq.trans ?_ (contains_eq accepted).symm),
      (fetch_eq accepted).trans (Eq.trans ?_ (fetch_eq accepted).symm)⟩
    · rw [sameContained, same]
    · rw [sameFetched, readFile_eq_iff.2 same]

end Answers

/-- For every store that has been opened and then used in whatever way, and every two paths that are accepted and
have different canonical forms: to write a blob at the one, successfully or not, leaves what the store answers about
the other as it was, unless the other is short enough to be looked up and is disturbed. A blob that can be read is
left as it was exactly if its path is not that of the temporary file. -/
theorem undisturbed_iff {place : FileTree} {scratch : String} {root : Names} {start : Directory}
    (opened : create place scratch root = .ok start) (requests : List Request)
    {one another target path : String} (accepted : canonical one = .ok target)
    (alsoAccepted : canonical another = .ok path) (differs : path ≠ target) (data : ByteArray) :
    let store := start.run requests
    let after := (store.answer (.put one data)).1
    let Undisturbed := (after.answer (.contains another)).2 = (store.answer (.contains another)).2 ∧
      (after.answer (.fetch another)).2 = (store.answer (.fetch another)).2
    (Undisturbed ↔ ¬ (pathSize (names path) ≤ longestPath ∧ store.Disturbs (names target) data (names path))) ∧
    ∀ content, (store.answer (.fetch another)).2 = .ok content →
      (Undisturbed ↔ names path ≠ store.temporary (names target)) := by
  intro store after Undisturbed
  have sound : store.tree.Sound := sound_run (sound_of_create opened) requests
  have apart := names_ne alsoAccepted accepted differs
  obtain ⟨parent, name, cut⟩ := (List.eq_nil_or_concat' (names target)).resolve_left (names_ne_nil accepted)
  obtain ⟨made, written, outcome, isPut, puts⟩ := put_spec sound parent name data
  have isAfter : after = written := by
    have answered : after = (store.put (names target) data).1 := congrArg Prod.fst (put_answer_eq accepted data)
    rw [cut, isPut] at answered
    exact answered
  have alike : Undisturbed ↔ written.tree.find (names path) = store.tree.find (names path) := by
    rw [← isAfter]
    exact answers_eq_iff alsoAccepted (isAfter ▸ puts.root)
  rw [cut] at apart ⊢
  have disturbed : Undisturbed ↔
      ¬ (pathSize (names path) ≤ longestPath ∧ store.Disturbs (parent ++ [name]) data (names path)) := by
    rw [alike]
    constructor
    · rintro same ⟨small, disturbs⟩
      exact find_ne_of_disturbs sound puts isPut small apart disturbs same
    · intro undisturbed
      by_cases small : pathSize (names path) ≤ longestPath
      · have before := leads_find store.tree small
        exact (leads_after sound puts isPut apart (fun disturbs => undisturbed ⟨small, disturbs⟩) before).find_eq
          puts.sound small
      · rw [find_of_large (Nat.not_le.1 small), find_of_large (Nat.not_le.1 small)]
  refine ⟨disturbed, fun content fetched => ?_⟩
  have reads : store.tree.readFile (names path) = .ok content :=
    store.fetched_injective path ((fetch_eq alsoAccepted).symm.trans fetched)
  have held := (find_eq_file_iff sound).1 (find_of_readFile reads)
  have small := (sound.fits _ _ held).size
  exact disturbed.trans
    (not_congr ((and_iff_right small).trans (disturbs_blob_iff sound puts isPut apart held)))

/-- A blob beside the one that is written is still there. -/
theorem undisturbed_of_neighbour :
    let start : Directory := { root := "blobs" }
    let store := start.run [.put "dir/b" "x".toUTF8]
    let after := (store.answer (.put "dir/a" "y".toUTF8)).1
    create {} "blobs" [] = .ok start ∧ canonical "dir/a" = .ok "dir/a" ∧ canonical "dir/b" = .ok "dir/b" ∧
      (store.answer (.fetch "dir/b")).2 = .ok "x".toUTF8 ∧ names "dir/b" ≠ store.temporary (names "dir/a") ∧
      (after.answer (.fetch "dir/b")).2 = .ok "x".toUTF8 := by
  intro start store after
  have opened : create {} "blobs" [] = .ok start := rfl
  have accepted : canonical "dir/a" = .ok "dir/a" := by decide
  have alsoAccepted : canonical "dir/b" = .ok "dir/b" := by decide
  have reads : store.fetched "dir/b" (store.tree.readFile (names "dir/b")) = .ok "x".toUTF8 := by decide +kernel
  have fetched : (store.answer (.fetch "dir/b")).2 = .ok "x".toUTF8 := (fetch_eq alsoAccepted).trans reads
  have elsewhere : names "dir/b" ≠ store.temporary (names "dir/a") := by decide +kernel
  obtain ⟨-, kept⟩ := undisturbed_iff opened [.put "dir/b" "x".toUTF8] accepted alsoAccepted (by decide)
    "y".toUTF8
  exact ⟨opened, accepted, alsoAccepted, fetched, elsewhere, (((kept _ fetched).2 elsewhere).2).trans fetched⟩

/-- A blob that has the name of a temporary file is gone when another blob has been written. -/
theorem disturbed_by_temporary :
    let start : Directory := { root := "blobs" }
    let store := start.run [.put "a.tmp.1" "x".toUTF8]
    let after := (store.answer (.put "a" "y".toUTF8)).1
    create {} "blobs" [] = .ok start ∧ canonical "a" = .ok "a" ∧ canonical "a.tmp.1" = .ok "a.tmp.1" ∧
      (store.answer (.contains "a.tmp.1")).2 = .ok true ∧
      (store.answer (.fetch "a.tmp.1")).2 = .ok "x".toUTF8 ∧
      (store.answer (.put "a" "y".toUTF8)).2 = .ok () ∧
      (after.answer (.contains "a.tmp.1")).2 = .ok false ∧
      (after.answer (.fetch "a.tmp.1")).2 = .error (noSuchBlob "a.tmp.1") := by
  intro start store after
  have accepted : canonical "a" = .ok "a" := by decide
  have alsoAccepted : canonical "a.tmp.1" = .ok "a.tmp.1" := by decide
  have there : store.contained "a.tmp.1" (store.tree.find (names "a.tmp.1")) = .ok true := by decide +kernel
  have reads : store.fetched "a.tmp.1" (store.tree.readFile (names "a.tmp.1")) = .ok "x".toUTF8 := by
    decide +kernel
  have written : (store.put (names "a") "y".toUTF8).2 = .ok () := by decide +kernel
  have gone : after.contained "a.tmp.1" (after.tree.find (names "a.tmp.1")) = .ok false := by decide +kernel
  have lost : after.fetched "a.tmp.1" (after.tree.readFile (names "a.tmp.1")) =
      .error (noSuchBlob "a.tmp.1") := by decide +kernel
  exact ⟨rfl, accepted, alsoAccepted, (contains_eq alsoAccepted).trans there, (fetch_eq alsoAccepted).trans reads,
    (congrArg Prod.snd (put_answer_eq accepted _)).trans written, (contains_eq alsoAccepted).trans gone,
    (fetch_eq alsoAccepted).trans lost⟩

end Community.Blob.Directory
