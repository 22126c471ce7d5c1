/-
This file says what the operations on a tree of files and directories do with any path, those that end in a fault
included, as long as what the tree holds is at paths that the operating system takes. A path leads to one of five
things: a directory, a file, a place below a file, a place where a name is missing, or a name that is too long. What
it leads to is said by what the tree holds on the way, so that two trees can be compared by what they hold.
-/

import Community.Proofs.Blob.FileTree

namespace Community.Blob.FileTree

variable {tree after : FileTree} {path base front rest parent made : Names} {name : String} {node : Node}
  {data : ByteArray} {result : Except Fault Node}

/-- All that is in the tree lies in directories, at paths that the operating system takes. -/
structure Sound (tree : FileTree) : Prop extends Rooted tree where
  fits : ∀ path node, tree.holds? path = some node → Fits path

theorem Fits.nil : Fits [] :=
  ⟨by decide, nofun⟩

theorem Sound.empty : (FileTree.mk ∅).Sound where
  root := rfl
  parent := nofun
  fits := nofun

theorem Sound.fits_of_hasDirectory (sound : tree.Sound) (there : tree.HasDirectory path) : Fits path := by
  rcases there with rfl | held
  · exact .nil
  · exact sound.fits _ _ held

/-! ### Where paths lead -/

/-- What a path leads to. -/
inductive Leads (tree : FileTree) : Names → Except Fault Node → Prop
  | directory {path : Names} : tree.HasDirectory path → Leads tree path (.ok .directory)
  | file {path : Names} {data : ByteArray} : tree.holds? path = some (.file data) →
    Leads tree path (.ok (.file data))
  | blocked {front rest : Names} {name : String} {data : ByteArray} : tree.holds? front = some (.file data) →
    Leads tree (front ++ name :: rest) (.error .notADirectory)
  | missing {front rest : Names} {name : String} : tree.HasDirectory front →
    name.utf8ByteSize ≤ longestName → tree.holds? (front ++ [name]) = none →
    Leads tree (front ++ name :: rest) (.error .notFound)
  | tooLong {front rest : Names} {name : String} : tree.HasDirectory front →
    longestName < name.utf8ByteSize → Leads tree (front ++ name :: rest) (.error .nameTooLong)

/-- A walk from a directory leads where it should. -/
theorem leads_walk (there : tree.HasDirectory base) : Leads tree (base ++ rest) (tree.walk base rest) := by
  induction rest generalizing base with
  | nil =>
    rw [List.append_nil]
    exact .directory there
  | cons name rest inductionHypothesis =>
    unfold walk
    split
    · next long => exact .tooLong there long
    · next short =>
      cases held : tree.nodes.get? (base ++ [name]) with
      | none => exact .missing there (Nat.not_lt.1 short) held
      | some node =>
        rw [List.append_cons]
        cases node with
        | directory => exact inductionHypothesis (Or.inr held)
        | file data =>
          cases rest with
          | nil =>
            rw [List.append_nil]
            exact .file held
          | cons next others => exact .blocked held

/-- A walk passes a directory that is on its way. -/
theorem walk_append (sound : tree.Sound) (there : tree.HasDirectory (base ++ front)) :
    tree.walk base (front ++ rest) = tree.walk (base ++ front) rest := by
  induction front generalizing base with
  | nil => rw [List.append_nil, List.nil_append]
  | cons name front inductionHypothesis =>
    rw [List.append_cons] at there ⊢
    have next := there.of_front sound.toRooted (List.prefix_append (base ++ [name]) front)
    have held : tree.nodes.get? (base ++ [name]) = some .directory := next.resolve_left (by simp)
    have short : name.utf8ByteSize ≤ longestName := (sound.fits _ _ held).names name (by simp)
    rw [List.cons_append, walk, if_neg (Nat.not_lt.2 short), held]
    exact inductionHypothesis there

/-- Where a path leads, the walk along it arrives. -/
theorem Leads.walk_eq (sound : tree.Sound) (leads : Leads tree path result) : tree.walk [] path = result := by
  have pass {front : Names} (there : tree.HasDirectory front) (rest : Names) :
      tree.walk [] (front ++ rest) = tree.walk front rest := by
    have fromRoot : tree.HasDirectory ([] ++ front) := there
    exact walk_append sound fromRoot
  cases leads with
  | directory there =>
    have arrives := pass there []
    rwa [List.append_nil] at arrives
  | file held =>
    have fromRoot : tree.holds? ([] ++ path) = some _ := held
    refine walk_of_holds sound.toRooted (sound.fits _ _ held).names fromRoot ?_
    rintro rfl
    cases sound.root.symm.trans held
  | @blocked front rest name data held =>
    cases front using List.reverseRecOn with
    | nil => cases sound.root.symm.trans held
    | append_singleton outer last =>
      have short : last.utf8ByteSize ≤ longestName := (sound.fits _ _ held).names last (by simp)
      have stops : tree.nodes.get? (outer ++ [last]) = some (.file data) := held
      rw [List.append_assoc, pass (sound.parent _ _ _ held), List.singleton_append, walk,
        if_neg (Nat.not_lt.2 short), stops]
      rfl
  | missing there short absent =>
    have stops : tree.nodes.get? _ = none := absent
    rw [pass there, walk, if_neg (Nat.not_lt.2 short), stops]
  | tooLong there long => rw [pass there, walk, if_pos long]

theorem Leads.unique {other : Except Fault Node} (leads : Leads tree path result) (sound : tree.Sound)
    (leadsElsewhere : Leads tree path other) : result = other :=
  (leads.walk_eq sound).symm.trans (leadsElsewhere.walk_eq sound)

/-- A path that is not too long as a whole is looked up where it leads. -/
theorem leads_find (tree : FileTree) (small : pathSize path ≤ longestPath) :
    Leads tree path (tree.find path) := by
  rw [find, if_neg (Nat.not_lt.2 small)]
  exact leads_walk (Or.inl rfl)

theorem Leads.find_eq (sound : tree.Sound) (small : pathSize path ≤ longestPath)
    (leads : Leads tree path result) : tree.find path = result :=
  (leads_find tree small).unique sound leads

theorem find_of_large (large : longestPath < pathSize path) : tree.find path = .error .nameTooLong :=
  if_pos large

theorem find_eq_directory_iff (sound : tree.Sound) :
    tree.find path = .ok .directory ↔ tree.HasDirectory path := by
  constructor
  · intro found
    by_cases small : pathSize path ≤ longestPath
    · have leads := leads_find tree small
      rw [found] at leads
      cases leads with
      | directory there => exact there
    · rw [find_of_large (Nat.not_le.1 small)] at found
      cases found
  · intro there
    exact find_of_hasDirectory sound.toRooted (sound.fits_of_hasDirectory there) there

theorem find_eq_file_iff (sound : tree.Sound) :
    tree.find path = .ok (.file data) ↔ tree.holds? path = some (.file data) := by
  constructor
  · intro found
    by_cases small : pathSize path ≤ longestPath
    · have leads := leads_find tree small
      rw [found] at leads
      cases leads with
      | file held => exact held
    · rw [find_of_large (Nat.not_le.1 small)] at found
      cases found
  · intro held
    exact find_of_holds sound.toRooted (sound.fits _ _ held) held

theorem holds?_of_find (sound : tree.Sound) (found : tree.find path = .ok node) (nonempty : path ≠ []) :
    tree.holds? path = some node := by
  cases node with
  | directory => exact ((find_eq_directory_iff sound).1 found).resolve_left nonempty
  | file data => exact (find_eq_file_iff sound).1 found

theorem isDirectory_eq_true_iff (sound : tree.Sound) : tree.isDirectory path = true ↔ tree.HasDirectory path := by
  rw [← find_eq_directory_iff sound, isDirectory]
  split
  · next found => exact iff_of_true rfl found
  · next other => exact iff_of_false Bool.false_ne_true other

/-- What is not found and lies in a directory could be put there, if its path is not too long. -/
theorem fits_of_notFound (sound : tree.Sound) (there : tree.HasDirectory parent)
    (found : tree.find (parent ++ [name]) = .error .notFound) : Fits (parent ++ [name]) := by
  have small : pathSize (parent ++ [name]) ≤ longestPath := by
    by_contra large
    rw [find_of_large (Nat.not_le.1 large)] at found
    cases found
  have short : name.utf8ByteSize ≤ longestName := by
    by_contra long
    cases found.symm.trans ((Leads.tooLong there (Nat.not_le.1 long)).find_eq sound small)
  refine ⟨small, fun part member => ?_⟩
  rcases List.mem_append.1 member with above | last
  · exact (sound.fits_of_hasDirectory there).names part above
  · exact List.mem_singleton.1 last ▸ short

theorem holds?_of_notFound (sound : tree.Sound) (found : tree.find path = .error .notFound) :
    tree.holds? path = none := by
  cases held : tree.holds? path with
  | none => rfl
  | some node => cases found.symm.trans (find_of_holds sound.toRooted (sound.fits _ _ held) held)

theorem find_ne_isADirectory (tree : FileTree) (path : Names) : tree.find path ≠ .error .isADirectory := by
  intro found
  by_cases small : pathSize path ≤ longestPath
  · have leads := leads_find tree small
    rw [found] at leads
    cases leads
  · rw [find_of_large (Nat.not_le.1 small)] at found
    cases found

theorem find_of_readFile (reads : tree.readFile path = .ok data) : tree.find path = .ok (.file data) := by
  unfold readFile at reads
  split at reads
  · next found =>
    cases reads
    exact found
  · cases reads
  · cases reads

/-- What can be read tells what is found. -/
theorem readFile_eq_iff : after.readFile path = tree.readFile path ↔ after.find path = tree.find path := by
  have here := tree.find_ne_isADirectory path
  have there := after.find_ne_isADirectory path
  unfold readFile
  generalize after.find path = one at there ⊢
  generalize tree.find path = two at here ⊢
  constructor
  · intro same
    rcases one with fault | ⟨data⟩ | _ <;> rcases two with other | ⟨old⟩ | _ <;> cases same
    · rfl
    · exact absurd rfl there
    · rfl
    · exact absurd rfl here
    · rfl
  · intro same
    rw [same]

/-! ### Making directories -/

theorem Makes.sound (makes : Makes tree made after) (sound : tree.Sound) (fits : Fits made) : after.Sound where
  toRooted := makes.rooted
  fits path node held := by
    rw [makes.holds] at held
    split at held
    · next above => exact fits.of_front above.2
    · exact sound.fits path node held

/-- Some of the directories of a path are there, from the outermost on; if not all of them, it has failed. -/
structure MakesFront (tree : FileTree) (path made : Names) (after : FileTree) (result : Except Fault Unit) : Prop
    extends Makes tree made after where
  front : made <+: path
  fits : Fits made
  free : ∀ above, above <+: made → ∀ data, tree.holds? above ≠ some (.file data)
  ends : result = .ok () ∧ made = path ∨ (∃ fault, result = .error fault) ∧ ¬ after.HasDirectory path

/-- What is directly in the directory that should be made is as it was. -/
theorem MakesFront.holds_concat {result : Except Fault Unit} (makes : MakesFront tree parent made after result)
    (name : String) : after.holds? (parent ++ [name]) = tree.holds? (parent ++ [name]) := by
  rw [makes.holds, if_neg]
  rintro ⟨-, inside⟩
  exact absurd (inside.trans makes.front).length_le (by simp)

theorem HasDirectory.free (there : tree.HasDirectory path) (rooted : tree.Rooted) {above : Names}
    (isFront : above <+: path) (data : ByteArray) : tree.holds? above ≠ some (.file data) := by
  intro held
  rcases there.of_front rooted isFront with rfl | directory
  · cases rooted.root.symm.trans held
  · cases directory.symm.trans held

theorem MakesFront.nothing (sound : tree.Sound) {fault : Fault} (absent : ¬ tree.HasDirectory path) :
    MakesFront tree path [] tree (.error fault) where
  toMakes := .of_hasDirectory sound.toRooted (Or.inl rfl)
  front := List.nil_prefix
  fits := .nil
  free _ isFront := HasDirectory.free (Or.inl rfl) sound.toRooted isFront
  ends := Or.inr ⟨⟨fault, rfl⟩, absent⟩

theorem MakesFront.of_hasDirectory (sound : tree.Sound) (there : tree.HasDirectory path) :
    MakesFront tree path path tree (.ok ()) where
  toMakes := .of_hasDirectory sound.toRooted there
  front := List.prefix_refl _
  fits := sound.fits_of_hasDirectory there
  free _ isFront := there.free sound.toRooted isFront
  ends := Or.inl ⟨rfl, rfl⟩

/-- When all above a directory has been made, it is made as well. -/
theorem MakesFront.concat (makes : MakesFront tree parent parent after (.ok ())) (fits : Fits (parent ++ [name]))
    (missing : tree.holds? (parent ++ [name]) = none) :
    MakesFront tree (parent ++ [name]) (parent ++ [name])
      ⟨after.nodes.insert (parent ++ [name]) .directory⟩ (.ok ()) where
  toMakes := makes.toMakes.concat
  front := List.prefix_refl _
  fits := fits
  free above isFront data held := by
    rcases List.prefix_concat_iff.1 isFront with rfl | isAbove
    · cases missing.symm.trans held
    · exact makes.free above isAbove data held
  ends := Or.inl ⟨rfl, rfl⟩

/-- What has failed further up fails further down. -/
theorem MakesFront.fail {result : Except Fault Unit} (makes : MakesFront tree parent made after result)
    (fault : Fault) (absent : ¬ after.HasDirectory (parent ++ [name])) :
    MakesFront tree (parent ++ [name]) made after (.error fault) where
  toMakes := makes.toMakes
  front := makes.front.trans (List.prefix_append ..)
  fits := makes.fits
  free := makes.free
  ends := Or.inr ⟨⟨fault, rfl⟩, absent⟩

theorem makeDirectory_of_found (found : tree.find path = .ok node) :
    tree.makeDirectory path = .error .alreadyExists := by
  rw [makeDirectory, found]

theorem makeDirectory_of_fault {fault : Fault} (found : tree.find path = .error fault)
    (reason : fault ≠ .notFound) : tree.makeDirectory path = .error fault := by
  rw [makeDirectory, found]
  cases fault with
  | notFound => exact absurd rfl reason
  | alreadyExists | notADirectory | isADirectory | nameTooLong => rfl

/-- A fault that is not due to what is missing above leaves everything as it was. -/
theorem makeDirectories_of_fault (sound : tree.Sound) {fault : Fault} (count : Nat)
    (fails : tree.makeDirectory path = .error fault) (reason : fault ≠ .notFound)
    (absent : ¬ tree.HasDirectory path) : tree.makeDirectories count path = (tree, .error fault) := by
  have isDirectory : tree.isDirectory path = false :=
    Bool.eq_false_iff.2 fun there => absent ((isDirectory_eq_true_iff sound).1 there)
  unfold makeDirectories
  rw [fails]
  cases fault with
  | notFound => exact absurd rfl reason
  | alreadyExists | notADirectory | isADirectory | nameTooLong =>
    dsimp only
    rw [isDirectory]
    rfl

theorem makeDirectories_of_hasDirectory (sound : tree.Sound) (count : Nat) (there : tree.HasDirectory path) :
    tree.makeDirectories count path = (tree, .ok ()) := by
  unfold makeDirectories
  rw [makeDirectory_of_hasDirectory sound.toRooted (sound.fits_of_hasDirectory there) there]
  dsimp only
  rw [if_pos ((isDirectory_eq_true_iff sound).2 there)]

/-- What is missing above a directory is made first, and then the directory if nothing has failed. -/
theorem makeDirectories_of_orphan (sound : tree.Sound) {count : Nat} {result : Except Fault Unit}
    (orphan : tree.makeDirectory (parent ++ [name]) = .error .notFound)
    (missing : tree.holds? (parent ++ [name]) = none)
    (isMade : tree.makeDirectories count parent = (after, result))
    (makes : MakesFront tree parent made after result) :
    ∃ made after result, tree.makeDirectories (count + 1) (parent ++ [name]) = (after, result) ∧
      MakesFront tree (parent ++ [name]) made after result := by
  have soundAfter := makes.toMakes.sound sound makes.fits
  rcases makes.ends with ⟨rfl, rfl⟩ | ⟨⟨fault, rfl⟩, absent⟩
  · have missingStill := makes.toMakes.missing missing
    have absent : ¬ after.HasDirectory (made ++ [name]) := by simp [HasDirectory, missingStill]
    cases found : after.find (made ++ [name]) with
    | ok node => cases missingStill.symm.trans (holds?_of_find soundAfter found (by simp))
    | error fault =>
      by_cases isMissing : fault = .notFound
      · subst isMissing
        have there := makes.toMakes.hasDirectory
        have fits := fits_of_notFound soundAfter there found
        refine ⟨_, _, _, ?_, makes.concat fits missing⟩
        unfold makeDirectories
        simp only [orphan, isMade, List.dropLast_concat,
          makeDirectory_of_missing soundAfter.toRooted fits there missingStill]
      · refine ⟨_, _, _, ?_, makes.fail fault absent⟩
        unfold makeDirectories
        simp only [orphan, isMade, List.dropLast_concat, makeDirectory_of_fault found isMissing]
  · refine ⟨_, _, _, ?_, makes.fail fault fun there => ?_⟩
    · unfold makeDirectories
      simp only [orphan, isMade, List.dropLast_concat]
    · exact absent (there.of_front soundAfter.toRooted (List.prefix_append ..))

/-- Whatever stands in the way, the directories before it are made. -/
theorem makeDirectories_spec (sound : tree.Sound) {count : Nat} (enough : path.length ≤ count) :
    ∃ made after result, tree.makeDirectories count path = (after, result) ∧
      MakesFront tree path made after result := by
  induction path using List.reverseRecOn generalizing count with
  | nil =>
    have there : tree.HasDirectory [] := Or.inl rfl
    exact ⟨_, _, _, makeDirectories_of_hasDirectory sound count there, .of_hasDirectory sound there⟩
  | append_singleton front name inductionHypothesis =>
    by_cases there : tree.HasDirectory (front ++ [name])
    · exact ⟨_, _, _, makeDirectories_of_hasDirectory sound count there, .of_hasDirectory sound there⟩
    cases found : tree.find (front ++ [name]) with
    | ok node =>
      exact ⟨_, _, _, makeDirectories_of_fault sound count (makeDirectory_of_found found) nofun there,
        .nothing sound there⟩
    | error fault =>
      by_cases isMissing : fault = .notFound
      · subst isMissing
        have missing := holds?_of_notFound sound found
        by_cases thereAbove : tree.HasDirectory front
        · have fits := fits_of_notFound sound thereAbove found
          refine ⟨_, _, _, ?_, (MakesFront.of_hasDirectory sound thereAbove).concat fits missing⟩
          unfold makeDirectories
          rw [makeDirectory_of_missing sound.toRooted fits thereAbove missing]
        · have above := Bool.eq_false_iff.2 (mt (isDirectory_eq_true_iff sound).1 thereAbove)
          have orphan : tree.makeDirectory (front ++ [name]) = .error .notFound := by
            rw [makeDirectory, found]
            dsimp only
            rw [List.dropLast_concat, above]
            rfl
          obtain ⟨most, rfl⟩ : ∃ most, count = most + 1 := ⟨count - 1, by simp at enough; omega⟩
          have enoughAbove : front.length ≤ most := by simpa using enough
          obtain ⟨made, after, result, isMade, makes⟩ := inductionHypothesis enoughAbove
          exact makeDirectories_of_orphan sound orphan missing isMade makes
      · exact ⟨_, _, _, makeDirectories_of_fault sound count (makeDirectory_of_fault found isMissing) isMissing
          there, .nothing sound there⟩

/-! ### Files -/

theorem Sets.sound {entry : Option Node} (sets : Sets tree path entry after) (sound : tree.Sound)
    (fits : entry ≠ none → Fits path) : after.Sound where
  toRooted := sets.rooted
  fits place node held := by
    rw [sets.holds] at held
    split at held
    · next same => exact same ▸ fits (by rw [held]; nofun)
    · exact sound.fits place node held

theorem Sets.sound_of_none (sets : Sets tree path none after) (sound : tree.Sound) : after.Sound :=
  sets.sound sound fun some => absurd rfl some

/-- A file is written into a directory, or there is a fault and it was no file that stood there. -/
theorem writeFile_spec (sound : tree.Sound) (there : tree.HasDirectory parent) (name : String)
    (data : ByteArray) :
    (∃ after, tree.writeFile (parent ++ [name]) data = .ok after ∧ Fits (parent ++ [name]) ∧
      tree.holds? (parent ++ [name]) ≠ some .directory ∧
      Sets tree (parent ++ [name]) (some (.file data)) after) ∨
    (∃ fault, tree.writeFile (parent ++ [name]) data = .error fault) ∧
      ∀ old, tree.holds? (parent ++ [name]) ≠ some (.file old) := by
  by_cases fits : Fits (parent ++ [name])
  · by_cases taken : tree.holds? (parent ++ [name]) = some .directory
    · refine Or.inr ⟨⟨.isADirectory, ?_⟩, fun old held => ?_⟩
      · rw [writeFile, find_of_holds sound.toRooted fits taken]
      · cases taken.symm.trans held
    · obtain ⟨after, writes, sets⟩ := writeFile_eq sound.toRooted fits there taken data
      exact Or.inl ⟨after, writes, fits, taken, sets⟩
  · refine Or.inr ⟨?_, fun old held => fits (sound.fits _ _ held)⟩
    unfold writeFile
    cases found : tree.find (parent ++ [name]) with
    | ok node => exact absurd (sound.fits _ _ (holds?_of_find sound found (by simp))) fits
    | error fault =>
      cases fault with
      | notFound => exact absurd (fits_of_notFound sound there found) fits
      | alreadyExists | notADirectory | isADirectory | nameTooLong => exact ⟨_, rfl⟩

/-! ### Removing -/

theorem Sound.removeFile (sound : tree.Sound) (removes : tree.removeFile path = .ok after) : after.Sound := by
  cases found : tree.find path with
  | error fault =>
    rw [FileTree.removeFile, found] at removes
    cases removes
  | ok node =>
    cases node with
    | directory =>
      rw [FileTree.removeFile, found] at removes
      cases removes
    | file data =>
      have held := (find_eq_file_iff sound).1 found
      obtain ⟨gone, removesTo, sets⟩ := removeFile_of_holds sound.toRooted (sound.fits _ _ held) held
      cases removes.symm.trans removesTo
      exact sets.sound_of_none sound

theorem Sound.removeEmptyDirectory (sound : tree.Sound) (path : Names) : (tree.removeEmptyDirectory path).Sound := by
  unfold FileTree.removeEmptyDirectory
  split
  · next empty =>
    refine ⟨sound.toRooted.erase (isEmpty_children.1 empty.2), fun place node held => ?_⟩
    rw [holds?_erase] at held
    split at held
    · cases held
    · exact sound.fits place node held
  · exact sound

end Community.Blob.FileTree
