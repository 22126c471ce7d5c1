/-
This file says what the operations on a tree of files and directories do, as long as all that is in the tree
lies in directories that are there. Such a tree is known by what it holds at each path: a walk leads to what
is held at its end, and to nothing when nothing is held there and no file stands in the way. So every
operation is a change of one entry, or of the missing directories above a path, and the tree stays as it
should be.
-/

import Mathlib.Data.List.Infix
import Community.Blob.FileTree

namespace Community.Blob.FileTree

variable {tree after : FileTree} {path place base rest parent : Names} {name : String} {node : Node}
  {data : ByteArray}

/-- What the tree holds at a path. -/
def holds? (tree : FileTree) (path : Names) : Option Node :=
  tree.nodes.get? path

/-- Is the path that of a directory? The root is one. -/
def HasDirectory (tree : FileTree) (path : Names) : Prop :=
  path = [] ∨ tree.holds? path = some .directory

/-- All that is in the tree lies in directories, and the root is not among it. -/
structure Rooted (tree : FileTree) : Prop where
  root : tree.holds? [] = none
  parent : ∀ path name node, tree.holds? (path ++ [name]) = some node → tree.HasDirectory path

/-- A path that the operating system takes. -/
structure Fits (path : Names) : Prop where
  size : pathSize path ≤ longestPath
  names : ∀ name ∈ path, name.utf8ByteSize ≤ longestName

/-- No file stands in the way of a path. -/
def IsClear (tree : FileTree) (path : Names) : Prop :=
  ∀ front, front <+: path → front ≠ path → ∀ data, tree.holds? front ≠ some (.file data)

/-! ### Paths that fit -/

/-- The bytes of the names of a path, without the slashes between them. -/
def namesSize : Names → Nat
  | [] => 0
  | name :: rest => name.utf8ByteSize + namesSize rest

theorem namesSize_append (front back : Names) :
    namesSize (front ++ back) = namesSize front + namesSize back := by
  induction front with
  | nil => exact (Nat.zero_add _).symm
  | cons name rest inductionHypothesis =>
    rw [List.cons_append, namesSize, namesSize, inductionHypothesis, Nat.add_assoc]

theorem pathSize_eq (path : Names) : pathSize path = (path.length - 1) + namesSize path := by
  have total (names : Names) (start : Nat) :
      names.foldl (fun size name => size + name.utf8ByteSize) start = start + namesSize names := by
    induction names generalizing start with
    | nil => rfl
    | cons name rest inductionHypothesis =>
      rw [List.foldl_cons, inductionHypothesis, namesSize, Nat.add_assoc]
  exact total path _

theorem Fits.of_front {front : Names} (fits : Fits path) (isFront : front <+: path) : Fits front := by
  obtain ⟨back, rfl⟩ := isFront
  refine ⟨Nat.le_trans ?_ fits.size, fun name member => fits.names name (List.mem_append_left _ member)⟩
  rw [pathSize_eq, pathSize_eq, namesSize_append, List.length_append]
  omega

/-! ### Walks -/

/-- What stands above something in the tree is a directory. -/
theorem Rooted.hasDirectory_of_front (rooted : tree.Rooted) {back : Names}
    (held : tree.holds? (base ++ back) = some node) (below : back ≠ []) : tree.HasDirectory base := by
  induction back using List.reverseRecOn generalizing node with
  | nil => exact absurd rfl below
  | append_singleton front name inductionHypothesis =>
    rw [← List.append_assoc] at held
    rcases rooted.parent _ _ _ held with isRoot | directory
    · exact Or.inl (List.append_eq_nil_iff.1 isRoot).1
    · cases front with
      | nil => exact Or.inr (List.append_nil base ▸ directory)
      | cons first others => exact inductionHypothesis directory nofun

/-- A walk leads to what the tree holds at its end. -/
theorem walk_of_holds (rooted : tree.Rooted) (fits : ∀ name ∈ rest, name.utf8ByteSize ≤ longestName)
    (held : tree.holds? (base ++ rest) = some node) (nonempty : rest ≠ []) :
    tree.walk base rest = .ok node := by
  induction rest generalizing base with
  | nil => exact absurd rfl nonempty
  | cons name rest inductionHypothesis =>
    rw [List.forall_mem_cons] at fits
    rw [walk, if_neg (Nat.not_lt.2 fits.1)]
    rw [List.append_cons] at held
    cases rest with
    | nil =>
      have here : tree.nodes.get? (base ++ [name]) = some node := List.append_nil (base ++ [name]) ▸ held
      rw [here]
      cases node <;> rfl
    | cons next others =>
      have above : tree.nodes.get? (base ++ [name]) = some .directory :=
        (rooted.hasDirectory_of_front held nofun).resolve_left (by simp)
      rw [above]
      exact inductionHypothesis fits.2 held nofun

/-- A walk finds nothing when nothing is held at its end and no file stands in the way. -/
theorem walk_of_missing (fits : ∀ name ∈ rest, name.utf8ByteSize ≤ longestName)
    (missing : tree.holds? (base ++ rest) = none)
    (clear : ∀ front, front <+: rest → front ≠ rest → ∀ data, tree.holds? (base ++ front) ≠ some (.file data))
    (nonempty : rest ≠ []) : tree.walk base rest = .error .notFound := by
  induction rest generalizing base with
  | nil => exact absurd rfl nonempty
  | cons name rest inductionHypothesis =>
    rw [List.forall_mem_cons] at fits
    rw [walk, if_neg (Nat.not_lt.2 fits.1)]
    rw [List.append_cons] at missing
    cases held : tree.nodes.get? (base ++ [name]) with
    | none => rfl
    | some node =>
      have further : rest ≠ [] := by
        rintro rfl
        rw [List.append_nil] at missing
        cases missing.symm.trans held
      cases node with
      | file data =>
        exact absurd held (clear [name] (List.prefix_append [name] rest) (by simpa using further.symm) data)
      | directory =>
        refine inductionHypothesis fits.2 missing (fun front isFront differs data => ?_) further
        rw [← List.append_cons]
        exact clear (name :: front) (List.prefix_cons_iff.2 (Or.inr ⟨front, rfl, isFront⟩))
          (by simpa using differs) data

theorem find_nil (tree : FileTree) : tree.find [] = .ok .directory := rfl

/-- What the tree holds at a path is found. -/
theorem find_of_holds (rooted : tree.Rooted) (fits : Fits path) (held : tree.holds? path = some node) :
    tree.find path = .ok node := by
  rw [find, if_neg (Nat.not_lt.2 fits.size)]
  refine walk_of_holds rooted fits.names held ?_
  rintro rfl
  cases rooted.root.symm.trans held

theorem find_of_hasDirectory (rooted : tree.Rooted) (fits : Fits path) (there : tree.HasDirectory path) :
    tree.find path = .ok .directory := by
  rcases there with rfl | held
  · exact tree.find_nil
  · exact find_of_holds rooted fits held

/-- Nothing is found when nothing is held and the path is clear. -/
theorem find_of_missing (fits : Fits path) (missing : tree.holds? path = none) (clear : tree.IsClear path)
    (nonempty : path ≠ []) : tree.find path = .error .notFound := by
  rw [find, if_neg (Nat.not_lt.2 fits.size)]
  exact walk_of_missing fits.names missing clear nonempty

/-- The path of anything in a directory is clear. -/
theorem Rooted.isClear (rooted : tree.Rooted) (there : tree.HasDirectory parent) (name : String) :
    tree.IsClear (parent ++ [name]) := by
  intro front isFront differs data held
  rcases List.prefix_concat_iff.1 isFront with same | ⟨back, rfl⟩
  · exact differs same
  · rcases there with isRoot | above
    · rw [List.append_eq_nil_iff] at isRoot
      rw [isRoot.1] at held
      cases rooted.root.symm.trans held
    · cases back with
      | nil =>
        rw [List.append_nil] at above
        cases held.symm.trans above
      | cons first others =>
        rcases rooted.hasDirectory_of_front above nofun with rfl | directory
        · cases rooted.root.symm.trans held
        · cases held.symm.trans directory

theorem isDirectory_iff (rooted : tree.Rooted) (fits : Fits path) (clear : tree.IsClear path) :
    tree.isDirectory path ↔ tree.HasDirectory path := by
  constructor
  · intro found
    by_cases nonempty : path = []
    · exact Or.inl nonempty
    · unfold isDirectory at found
      cases held : tree.holds? path with
      | none =>
        rw [find_of_missing fits held clear nonempty] at found
        cases found
      | some node =>
        rw [find_of_holds rooted fits held] at found
        cases node with
        | file => cases found
        | directory => exact Or.inr held
  · intro there
    rw [isDirectory, find_of_hasDirectory rooted fits there]

/-! ### Single changes -/

theorem holds?_insert (tree : FileTree) (path place : Names) (node : Node) :
    (FileTree.mk (tree.nodes.insert path node)).holds? place =
      if path = place then some node else tree.holds? place :=
  Table.get?_insert ..

theorem holds?_erase (tree : FileTree) (path place : Names) :
    (FileTree.mk (tree.nodes.erase path)).holds? place =
      if path = place then none else tree.holds? place :=
  Table.get?_erase ..

/-- What is put into a directory leaves the tree in order; a file must have nothing below it. -/
theorem Rooted.insert (rooted : tree.Rooted) (there : tree.HasDirectory parent)
    (below : node = .directory ∨ ∀ inner, tree.holds? (parent ++ [name] ++ [inner]) = none) :
    (FileTree.mk (tree.nodes.insert (parent ++ [name]) node)).Rooted where
  root := by
    rw [holds?_insert, if_neg (by simp)]
    exact rooted.root
  parent path inner found held := by
    have stays (above : tree.HasDirectory path) (apart : parent ++ [name] = path → node = .directory) :
        (FileTree.mk (tree.nodes.insert (parent ++ [name]) node)).HasDirectory path := by
      refine above.imp_right fun directory => ?_
      rw [holds?_insert]
      split
      · next same => rw [apart same]
      · exact directory
    rw [holds?_insert] at held
    split at held
    · next same =>
      obtain ⟨rfl, -⟩ := List.append_singleton_inj.1 same
      exact stays there (by simp)
    · refine stays (rooted.parent path inner found held) fun same => below.resolve_right fun empty => ?_
      rw [← same, empty inner] at held
      cases held

/-- What has nothing below it can be taken away. -/
theorem Rooted.erase (rooted : tree.Rooted) (below : ∀ inner, tree.holds? (path ++ [inner]) = none) :
    (FileTree.mk (tree.nodes.erase path)).Rooted where
  root := by
    rw [holds?_erase]
    split
    · rfl
    · exact rooted.root
  parent outer inner found held := by
    rw [holds?_erase] at held
    split at held
    · cases held
    · refine (rooted.parent outer inner found held).imp_right fun directory => ?_
      rw [holds?_erase, if_neg]
      · exact directory
      · rintro rfl
        cases (below inner).symm.trans held

/-- Below a file there is nothing. -/
theorem Rooted.below_file (rooted : tree.Rooted) (held : tree.holds? path = some (.file data))
    (inner : String) : tree.holds? (path ++ [inner]) = none := by
  cases found : tree.holds? (path ++ [inner]) with
  | none => rfl
  | some node =>
    rcases rooted.parent _ _ _ found with rfl | directory
    · cases rooted.root.symm.trans held
    · cases held.symm.trans directory

/-- Below what is not there, there is nothing. -/
theorem Rooted.below_missing (rooted : tree.Rooted) (missing : tree.holds? path = none)
    (nonempty : path ≠ []) (inner : String) : tree.holds? (path ++ [inner]) = none := by
  cases found : tree.holds? (path ++ [inner]) with
  | none => rfl
  | some node =>
    rcases rooted.parent _ _ _ found with isRoot | directory
    · exact absurd isRoot nonempty
    · cases missing.symm.trans directory

/-- The tree holds something else at one path, or nothing, and everything else is as it was. -/
structure Sets (tree : FileTree) (path : Names) (entry : Option Node) (after : FileTree) : Prop where
  rooted : after.Rooted
  holds : ∀ place, after.holds? place = if place = path then entry else tree.holds? place

theorem Sets.holds_self {entry : Option Node} (sets : Sets tree path entry after) :
    after.holds? path = entry :=
  (sets.holds path).trans (if_pos rfl)

theorem Sets.holds_of_ne {entry : Option Node} (sets : Sets tree path entry after)
    (differs : place ≠ path) : after.holds? place = tree.holds? place :=
  (sets.holds place).trans (if_neg differs)

/-- A directory is there still when something has been put into it. -/
theorem Sets.hasDirectory {entry : Option Node} (sets : Sets tree (parent ++ [name]) entry after)
    (there : tree.HasDirectory parent) : after.HasDirectory parent :=
  there.imp_right fun directory => (sets.holds_of_ne (by simp)).trans directory

/-! ### Making directories -/

theorem makeDirectory_of_hasDirectory (rooted : tree.Rooted) (fits : Fits path)
    (there : tree.HasDirectory path) : tree.makeDirectory path = .error .alreadyExists := by
  rw [makeDirectory, find_of_hasDirectory rooted fits there]

theorem makeDirectory_of_missing (rooted : tree.Rooted) (fits : Fits (parent ++ [name]))
    (there : tree.HasDirectory parent) (missing : tree.holds? (parent ++ [name]) = none) :
    tree.makeDirectory (parent ++ [name]) =
      .ok ⟨tree.nodes.insert (parent ++ [name]) .directory⟩ := by
  have found := find_of_missing fits missing (rooted.isClear there name) (by simp)
  have above : tree.isDirectory parent := by
    rw [isDirectory, find_of_hasDirectory rooted (fits.of_front (List.prefix_append ..)) there]
  rw [makeDirectory, found]
  simp only [List.dropLast_concat, above, if_true]

theorem makeDirectory_of_orphan (rooted : tree.Rooted) (fits : Fits (parent ++ [name]))
    (clear : tree.IsClear (parent ++ [name])) (clearAbove : tree.IsClear parent)
    (orphan : ¬ tree.HasDirectory parent) (missing : tree.holds? (parent ++ [name]) = none) :
    tree.makeDirectory (parent ++ [name]) = .error .notFound := by
  have found := find_of_missing fits missing clear (by simp)
  have above : ¬ tree.isDirectory parent := fun isDirectory => orphan
    ((isDirectory_iff rooted (fits.of_front (List.prefix_append ..)) clearAbove).1 isDirectory)
  rw [makeDirectory, found]
  simp only [List.dropLast_concat, above, Bool.false_eq_true, if_false]

/-- Every directory above a directory is there. -/
theorem HasDirectory.of_front (there : tree.HasDirectory path) (rooted : tree.Rooted)
    (isFront : place <+: path) : tree.HasDirectory place := by
  obtain ⟨back, rfl⟩ := isFront
  rcases there with isRoot | held
  · exact Or.inl (List.append_eq_nil_iff.1 isRoot).1
  · cases back with
    | nil => exact Or.inr (List.append_nil place ▸ held)
    | cons first others => exact rooted.hasDirectory_of_front held nofun

/-- The directories of a path are there, and everything else is as it was. -/
structure Makes (tree : FileTree) (path : Names) (after : FileTree) : Prop where
  rooted : after.Rooted
  holds : ∀ place, after.holds? place =
    if place ≠ [] ∧ place <+: path then some .directory else tree.holds? place

theorem Makes.of_hasDirectory (rooted : tree.Rooted) (there : tree.HasDirectory path) :
    Makes tree path tree := by
  refine ⟨rooted, fun place => ?_⟩
  split
  · next above => exact (there.of_front rooted above.2).resolve_left above.1
  · rfl

theorem Makes.hasDirectory (makes : Makes tree path after) : after.HasDirectory path := by
  by_cases isRoot : path = []
  · exact Or.inl isRoot
  · exact Or.inr ((makes.holds path).trans (if_pos ⟨isRoot, List.prefix_refl _⟩))

theorem Makes.missing (makes : Makes tree parent after) (missing : tree.holds? (parent ++ [name]) = none) :
    after.holds? (parent ++ [name]) = none := by
  rw [makes.holds, if_neg, missing]
  rintro ⟨-, inside⟩
  exact absurd inside.length_le (by simp)

/-- One more directory is made in the innermost one. -/
theorem Makes.concat (makes : Makes tree parent after) :
    Makes tree (parent ++ [name]) ⟨after.nodes.insert (parent ++ [name]) .directory⟩ := by
  refine ⟨makes.rooted.insert makes.hasDirectory (Or.inl rfl), fun place => ?_⟩
  simp only [holds?_insert, List.prefix_concat_iff, makes.holds]
  by_cases same : parent ++ [name] = place
  · subst same
    simp
  · simp only [if_neg same, Ne.symm same, false_or]

/-- All directories of a path are made, if no file stands in the way. -/
theorem makeDirectories_eq (rooted : tree.Rooted) (fits : Fits path)
    (free : ∀ front, front <+: path → ∀ data, tree.holds? front ≠ some (.file data)) {count : Nat}
    (enough : path.length ≤ count) :
    ∃ after, tree.makeDirectories count path = (after, .ok ()) ∧ Makes tree path after := by
  have stands {path : Names} {count : Nat} (fits : Fits path) (there : tree.HasDirectory path) :
      ∃ after, tree.makeDirectories count path = (after, .ok ()) ∧ Makes tree path after := by
    have isDirectory : tree.isDirectory path := by
      rw [FileTree.isDirectory, find_of_hasDirectory rooted fits there]
    refine ⟨tree, ?_, .of_hasDirectory rooted there⟩
    unfold makeDirectories
    simp only [makeDirectory_of_hasDirectory rooted fits there, isDirectory, if_true]
  induction path using List.reverseRecOn generalizing count with
  | nil => exact stands fits (Or.inl rfl)
  | append_singleton front name inductionHypothesis =>
    have fitsAbove : Fits front := fits.of_front (List.prefix_append ..)
    have freeAbove : ∀ outer, outer <+: front → ∀ data, tree.holds? outer ≠ some (.file data) :=
      fun outer isFront => free outer (isFront.trans (List.prefix_append ..))
    cases held : tree.holds? (front ++ [name]) with
    | some node =>
      cases node with
      | file data => exact absurd held (free _ (List.prefix_refl _) data)
      | directory => exact stands fits (Or.inr held)
    | none =>
      by_cases there : tree.HasDirectory front
      · refine ⟨_, ?_, (Makes.of_hasDirectory rooted there).concat⟩
        unfold makeDirectories
        simp only [makeDirectory_of_missing rooted fits there held]
      · obtain ⟨most, rfl⟩ : ∃ most, count = most + 1 := ⟨count - 1, by simp at enough; omega⟩
        have enoughAbove : front.length ≤ most := by simpa using enough
        obtain ⟨made, isMade, makes⟩ := inductionHypothesis fitsAbove freeAbove enoughAbove
        have orphan := makeDirectory_of_orphan rooted fits (fun outer isFront _ => free outer isFront)
          (fun outer isFront _ => freeAbove outer isFront) there held
        refine ⟨_, ?_, makes.concat⟩
        unfold makeDirectories
        simp only [orphan, isMade, List.dropLast_concat,
          makeDirectory_of_missing makes.rooted fits makes.hasDirectory (makes.missing held)]

/-! ### Files -/

/-- A file is written into a directory, in place of one that was there. -/
theorem writeFile_eq (rooted : tree.Rooted) (fits : Fits (parent ++ [name]))
    (there : tree.HasDirectory parent) (free : tree.holds? (parent ++ [name]) ≠ some .directory)
    (data : ByteArray) :
    ∃ after, tree.writeFile (parent ++ [name]) data = .ok after ∧
      Sets tree (parent ++ [name]) (some (.file data)) after := by
  have above : tree.isDirectory parent := by
    rw [isDirectory, find_of_hasDirectory rooted (fits.of_front (List.prefix_append ..)) there]
  have set (below : ∀ inner, tree.holds? (parent ++ [name] ++ [inner]) = none) :
      Sets tree (parent ++ [name]) (some (.file data))
        ⟨tree.nodes.insert (parent ++ [name]) (.file data)⟩ := by
    refine ⟨rooted.insert there (Or.inr below), fun place => ?_⟩
    rw [holds?_insert]
    simp only [eq_comm]
  unfold writeFile
  cases held : tree.holds? (parent ++ [name]) with
  | none =>
    rw [find_of_missing fits held (rooted.isClear there name) (by simp)]
    simp only [List.dropLast_concat, above, if_true]
    exact ⟨_, rfl, set (rooted.below_missing held (by simp))⟩
  | some node =>
    rw [find_of_holds rooted fits held]
    cases node with
    | file => exact ⟨_, rfl, set (rooted.below_file held)⟩
    | directory => exact absurd held free

theorem readFile_of_holds (rooted : tree.Rooted) (fits : Fits path)
    (held : tree.holds? path = some (.file data)) : tree.readFile path = .ok data := by
  rw [readFile, find_of_holds rooted fits held]

theorem removeFile_of_holds (rooted : tree.Rooted) (fits : Fits path)
    (held : tree.holds? path = some (.file data)) :
    ∃ after, tree.removeFile path = .ok after ∧ Sets tree path none after := by
  refine ⟨_, by rw [removeFile, find_of_holds rooted fits held], rooted.erase (rooted.below_file held),
    fun place => ?_⟩
  rw [holds?_erase]
  simp only [eq_comm]

/-- A file is moved within its directory, in place of the one that was there. -/
theorem renameFile_eq {target : String} (rooted : tree.Rooted) (fits : Fits (parent ++ [name]))
    (fitsTarget : Fits (parent ++ [target])) (there : tree.HasDirectory parent) (differs : name ≠ target)
    (held : tree.holds? (parent ++ [name]) = some (.file data))
    (free : tree.holds? (parent ++ [target]) ≠ some .directory) :
    ∃ moved after, tree.renameFile (parent ++ [name]) (parent ++ [target]) = .ok after ∧
      Sets tree (parent ++ [target]) (some (.file data)) moved ∧
      Sets moved (parent ++ [name]) none after := by
  obtain ⟨moved, writes, sets⟩ := writeFile_eq rooted fitsTarget there free data
  have heldStill : moved.holds? (parent ++ [name]) = some (.file data) :=
    (sets.holds_of_ne (by simp [differs])).trans held
  obtain ⟨after, removes, clears⟩ := removeFile_of_holds sets.rooted fits heldStill
  refine ⟨moved, after, ?_, sets, clears⟩
  simp only [renameFile, readFile_of_holds rooted fits held, writes, removes]

/-! ### Entries of directories -/

theorem mem_children : (name, node) ∈ tree.children path ↔ tree.holds? (path ++ [name]) = some node := by
  unfold children holds?
  rw [List.mem_filterMap, Table.get?_eq_some_iff]
  constructor
  · rintro ⟨⟨place, entry⟩, bound, named⟩
    dsimp only at named
    split at named
    · next last isLast =>
      split at named
      · next inside =>
        cases named
        obtain ⟨front, rfl⟩ := List.getLast?_eq_some_iff.1 isLast
        rw [List.dropLast_concat] at inside
        exact inside ▸ bound
      · cases named
    · cases named
  · intro bound
    refine ⟨_, bound, ?_⟩
    simp

/-- No two entries of a directory have one name. -/
theorem pairwise_children (tree : FileTree) (path : Names) :
    (tree.children path).Pairwise fun one two => one.1 ≠ two.1 := by
  have distinct : tree.nodes.bindings.Pairwise fun one two => one.1 ≠ two.1 :=
    List.pairwise_map.1 tree.nodes.distinct
  unfold children
  refine List.Pairwise.filterMap _ (fun one two differs here inHere other inOther same => ?_) distinct
  dsimp only at inHere inOther
  split at inHere
  · next name isLast =>
    split at inHere
    · next inside =>
      split at inOther
      · next name' isLast' =>
        split at inOther
        · next inside' =>
          cases inHere
          cases inOther
          obtain ⟨front, isFront⟩ := List.getLast?_eq_some_iff.1 isLast
          obtain ⟨front', isFront'⟩ := List.getLast?_eq_some_iff.1 isLast'
          rw [isFront, List.dropLast_concat] at inside
          rw [isFront', List.dropLast_concat] at inside'
          rw [isFront, isFront', inside, inside'] at differs
          exact differs (congrArg (fun name => path ++ [name]) same)
        · cases inOther
      · cases inOther
    · cases inHere
  · cases inHere

theorem isEmpty_children : (tree.children path).isEmpty ↔ ∀ name, tree.holds? (path ++ [name]) = none := by
  rw [List.isEmpty_iff, List.eq_nil_iff_forall_not_mem]
  constructor
  · intro none name
    cases held : tree.holds? (path ++ [name]) with
    | none => rfl
    | some node => exact absurd (mem_children.2 held) (none _)
  · rintro none ⟨name, node⟩ member
    cases (none name).symm.trans (mem_children.1 member)

/-- An empty directory goes, any other stays. -/
theorem removeEmptyDirectory_eq (rooted : tree.Rooted) (fits : Fits path) (there : tree.HasDirectory path) :
    tree.removeEmptyDirectory path =
      if (tree.children path).isEmpty then ⟨tree.nodes.erase path⟩ else tree := by
  have isDirectory : tree.isDirectory path := by
    rw [FileTree.isDirectory, find_of_hasDirectory rooted fits there]
  unfold removeEmptyDirectory
  simp only [isDirectory, true_and]

theorem readDirectory_of_hasDirectory (rooted : tree.Rooted) (fits : Fits path)
    (there : tree.HasDirectory path) : tree.readDirectory path = .ok (tree.children path) := by
  rw [readDirectory, find_of_hasDirectory rooted fits there]

end Community.Blob.FileTree
