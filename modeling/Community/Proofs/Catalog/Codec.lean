/-
This file proves that the records of articles are read back from what is written for them. A record is written
with all its fields, each under its own name, so a reader finds every field once and takes no default. Numbers
and texts are read back whatever they are. Date-times are read back when they are points in time, as all those
are that have been read: an article of a catalog file is never one that could not be read again.
-/

import Mathlib.Data.List.Nodup
import Community.Catalog.Repository
import Community.Proofs.Json.Reading
import Community.Proofs.Time.DateTime

namespace Community

open Community.Json

/-! ### Tables of pairs -/

/-- What a table holds after pairs have been bound is one of them or was there before. -/
theorem Table.mem_of_get?_insertAll {κ ν : Type} [DecidableEq κ] {table : Table κ ν} {pairs : List (κ × ν)}
    {key : κ} {value : ν} (found : (table.insertAll pairs).get? key = some value) :
    (key, value) ∈ pairs ∨ table.get? key = some value := by
  induction pairs generalizing table with
  | nil => exact Or.inr found
  | cons pair pairs inductionHypothesis =>
    rcases inductionHypothesis found with later | found
    · exact Or.inl (List.mem_cons_of_mem _ later)
    · rw [get?_insert] at found
      split at found
      · next same =>
        cases found
        exact Or.inl (same ▸ List.mem_cons_self)
      · exact Or.inr found

/-! ### Records -/

namespace Json

variable {names : List String} {members : List (String × Value)} {name : String} {value : Value}

/-- The record with the members of an object as its fields. -/
def recordOf (members : List (String × Value)) : Record :=
  ⟨members.map fun member => (member.1, member.2.document)⟩

theorem ofMembers?_memberDocuments (known : ∀ member ∈ members, member.1 ∈ names)
    (distinct : (members.map Prod.fst).Nodup) :
    Record.ofMembers? names (Value.memberDocuments members) = some (recordOf members).fields := by
  induction members with
  | nil => rfl
  | cons member members inductionHypothesis =>
    rw [List.forall_mem_cons] at known
    rw [List.map_cons, List.nodup_cons] at distinct
    have fresh : member.1 ∉ (recordOf members).fields.map Prod.fst := by
      rw [recordOf, List.map_map]
      exact distinct.1
    simp only [Value.memberDocuments, Record.ofMembers?, stringOfRaw?_rawOf,
      inductionHypothesis known.2 distinct.2, Option.bind_eq_bind, Option.bind_some, if_pos known.1,
      if_neg fresh]
    rfl

/-- An object whose members are the fields of a record is read as it. -/
theorem ofDocument?_object (names_eq : members.map Prod.fst = names) (distinct : names.Nodup) :
    Record.ofDocument? names (Value.object members).document = some (recordOf members) := by
  subst names_eq
  have known : ∀ member ∈ members, member.1 ∈ members.map Prod.fst := fun member found =>
    List.mem_map_of_mem found
  show (Record.ofMembers? _ (Value.memberDocuments members)).map Record.mk = _
  rw [ofMembers?_memberDocuments known distinct]
  rfl

theorem get?_recordOf (distinct : (members.map Prod.fst).Nodup) :
    ∀ member ∈ members, (recordOf members).get? member.1 = some member.2.document := by
  induction members with
  | nil => nofun
  | cons first members inductionHypothesis =>
    rw [List.map_cons, List.nodup_cons] at distinct
    rw [List.forall_mem_cons]
    refine ⟨by simp [Record.get?, recordOf], fun member later => ?_⟩
    have differs : first.1 ≠ member.1 := fun same => distinct.1 (same ▸ List.mem_map_of_mem later)
    rw [← inductionHypothesis distinct.2 member later]
    simp [Record.get?, recordOf, differs]

/-- What is written as an object is read as a record with a field for each member. -/
theorem exists_record (names_eq : members.map Prod.fst = names) (distinct : names.Nodup) :
    ∃ record, Record.ofDocument? names (Value.object members).document = some record ∧
      ∀ member ∈ members, record.get? member.1 = some member.2.document :=
  ⟨_, ofDocument?_object names_eq distinct, get?_recordOf (names_eq ▸ distinct)⟩

section Fields

variable {α β : Type} {record : Record} {document : Document} {decode? : Document → Option α} {content : α}

theorem Record.required_eq_some (given : record.get? name = some document)
    (decodes : decode? document = some content) : record.required name decode? = some content := by
  rw [Record.required, given, Option.bind_some, decodes]

theorem Record.optional_eq_some {default : α} (given : record.get? name = some document)
    (decodes : decode? document = some content) : record.optional name decode? default = some content := by
  rw [Record.optional, given]
  exact decodes

/-- A field that can be read leaves the other fields to be read. -/
theorem bind_eq_some_of_eq_some {field : Option α} {others : α → Option β} {result : Option β}
    (given : field = some content) (further : others content = result) : field >>= others = result := by
  rw [given]
  exact further

end Fields

/-! ### Values of fields -/

theorem integer?_document (number : Int) : (Value.integer number).document.integer? = some number :=
  integer?_numeralOf number

@[simp] theorem text?_document (text : String) : (Value.text text).document.text? = some text :=
  stringOfRaw?_rawOf text

theorem word64?_of_integer {document : Document} {number : Int} (integer : document.integer? = some number)
    (inRange : 0 ≤ number ∧ number < UInt64.size) : word64? document = some (UInt64.ofNat number.toNat) := by
  simp only [word64?, integer, Option.bind_eq_bind, Option.bind_some, if_pos inRange, Option.pure_def]

@[simp] theorem word64?_document (number : UInt64) :
    word64? (Value.integer number.toNat).document = some number := by
  rw [word64?_of_integer (integer?_document _) ⟨Int.natCast_nonneg _, Int.ofNat_lt.2 number.toNat_lt_size⟩,
    Int.toNat_natCast, UInt64.ofNat_toNat]

@[simp] theorem signed64?_document (number : Int64) :
    signed64? (Value.integer number.toInt).document = some number := by
  have inRange : Int64.minValue.toInt ≤ number.toInt ∧ number.toInt ≤ Int64.maxValue.toInt :=
    ⟨number.minValue_le_toInt, number.toInt_le⟩
  simp only [signed64?, integer?_document, Option.bind_eq_bind, Option.bind_some, if_pos inRange,
    Int64.ofInt_toInt, Option.pure_def]

@[simp] theorem signed32?_document (number : Int32) :
    signed32? (Value.integer number.toInt).document = some number := by
  have inRange : Int32.minValue.toInt ≤ number.toInt ∧ number.toInt ≤ Int32.maxValue.toInt :=
    ⟨number.minValue_le_toInt, number.toInt_le⟩
  simp only [signed32?, integer?_document, Option.bind_eq_bind, Option.bind_some, if_pos inRange,
    Int32.ofInt_toInt, Option.pure_def]

theorem dateTime?_document {time : DateTime} (real : time.IsReal) :
    dateTime? time.toValue.document = some time := by
  rw [dateTime?, DateTime.toValue, text?_document, Option.bind_some, DateTime.ofString?_write real]

/-- A list is read when each of its items is. -/
theorem listOf?_document {α : Type} {toValue : α → Value} {decode? : Document → Option α} {items : List α}
    (decodes : ∀ item ∈ items, decode? (toValue item).document = some item) :
    listOf? decode? (Value.list (items.map toValue)).document = some items := by
  show (Value.documents (items.map toValue)).mapM decode? = some items
  induction items with
  | nil => rfl
  | cons item items inductionHypothesis =>
    rw [List.forall_mem_cons] at decodes
    rw [List.map_cons, Value.documents, List.mapM_cons, decodes.1, inductionHypothesis decodes.2]
    rfl

theorem areExact_map {α : Type} {toValue : α → Value} (items : List α)
    (plain : ∀ item, (toValue item).IsExact) : Value.AreExact (items.map toValue) := by
  induction items with
  | nil => trivial
  | cons item items inductionHypothesis => exact ⟨plain item, inductionHypothesis⟩

/-! ### Where values of fields come from -/

section Origin

variable {α : Type} {record : Record} {name : String} {decode? : Document → Option α} {content : α}
  {document : Document} {items : List α}

/-- A field that must be given is what its reader makes of a document. -/
theorem Record.exists_of_required (read : record.required name decode? = some content) :
    ∃ document, decode? document = some content := by
  obtain ⟨document, -, decoded⟩ := Option.bind_eq_some_iff.1 read
  exact ⟨document, decoded⟩

/-- A field with a default is what its reader makes of a document, or the default. -/
theorem Record.exists_of_optional {default : α} (read : record.optional name decode? default = some content) :
    content = default ∨ ∃ document, decode? document = some content := by
  unfold optional at read
  split at read
  · exact Or.inr ⟨_, read⟩
  · exact Or.inl (Option.some.inj read).symm

theorem exists_of_mem_listOf? (read : listOf? decode? document = some items) :
    ∀ item ∈ items, ∃ document, decode? document = some item := by
  obtain ⟨documents, -, decoded⟩ := Option.bind_eq_some_iff.1 read
  clear read
  induction documents generalizing items with
  | nil =>
    cases decoded
    nofun
  | cons document documents inductionHypothesis =>
    rw [List.mapM_cons] at decoded
    obtain ⟨item, first, decoded⟩ := Option.bind_eq_some_iff.1 decoded
    obtain ⟨others, further, decoded⟩ := Option.bind_eq_some_iff.1 decoded
    cases decoded
    exact List.forall_mem_cons.2 ⟨⟨document, first⟩, inductionHypothesis further⟩

/-- What is in a list with the empty list as its default has been read. -/
theorem Record.exists_of_mem_optional (read : record.optional name (listOf? decode?) [] = some items) :
    ∀ item ∈ items, ∃ document, decode? document = some item := by
  rcases exists_of_optional read with rfl | ⟨document, listed⟩
  · nofun
  · exact exists_of_mem_listOf? listed

theorem isReal_of_dateTime? {time : DateTime} (read : dateTime? document = some time) : time.IsReal := by
  obtain ⟨text, -, parsed⟩ := Option.bind_eq_some_iff.1 read
  exact DateTime.isReal_of_ofString? parsed

theorem isReal_of_required {time : DateTime} (read : record.required name dateTime? = some time) :
    time.IsReal := by
  obtain ⟨document, decoded⟩ := Record.exists_of_required read
  exact isReal_of_dateTime? decoded

end Origin

end Json

/-! ### Categories, tags and authors -/

/-- Are the dates of a category points in time? -/
def Category.IsReal (category : Category) : Prop :=
  category.createdAt.IsReal

/-- Are the dates of a tag points in time? -/
def Tag.IsReal (tag : Tag) : Prop :=
  tag.createdAt.IsReal

theorem Category.isExact_toValue (category : Category) : category.toValue.IsExact := by
  repeat' constructor

theorem Category.ofDocument?_toValue {category : Category} (real : category.IsReal) :
    Category.ofDocument? category.toValue.document = some category := by
  obtain ⟨record, read, fields⟩ : ∃ record,
      Record.ofDocument? Category.fieldNames category.toValue.document = some record ∧ _ :=
    exists_record rfl (by decide)
  simp only [List.forall_mem_cons] at fields
  simp -implicitDefEqProofs [Category.ofDocument?, read, Record.required, Record.optional, fields,
    dateTime?_document real]

theorem Tag.isExact_toValue (tag : Tag) : tag.toValue.IsExact := by
  repeat' constructor

theorem Tag.ofDocument?_toValue {tag : Tag} (real : tag.IsReal) :
    Tag.ofDocument? tag.toValue.document = some tag := by
  obtain ⟨record, read, fields⟩ : ∃ record,
      Record.ofDocument? Tag.fieldNames tag.toValue.document = some record ∧ _ :=
    exists_record rfl (by decide)
  simp only [List.forall_mem_cons] at fields
  simp -implicitDefEqProofs [Tag.ofDocument?, read, Record.required, Record.optional, fields,
    dateTime?_document real]

theorem Author.isExact_toValue (author : Author) : author.toValue.IsExact := by
  repeat' constructor

theorem Author.ofDocument?_toValue (author : Author) :
    Author.ofDocument? author.toValue.document = some author := by
  obtain ⟨record, read, fields⟩ : ∃ record,
      Record.ofDocument? Author.fieldNames author.toValue.document = some record ∧ _ :=
    exists_record rfl (by decide)
  simp only [List.forall_mem_cons] at fields
  simp -implicitDefEqProofs [Author.ofDocument?, read, Record.required, Record.optional, fields]

/-! ### Articles -/

/-- Are all dates of an article points in time, those of its categories and tags included? -/
structure Article.IsReal (article : Article) : Prop where
  categories : ∀ category ∈ article.categories, category.IsReal
  tags : ∀ tag ∈ article.tags, tag.IsReal
  createdAt : article.createdAt.IsReal
  updatedAt : article.updatedAt.IsReal

theorem Article.isExact_toValue (article : Article) : article.toValue.IsExact := by
  have categories : (Value.list (article.categories.map Category.toValue)).IsExact :=
    areExact_map _ Category.isExact_toValue
  have tags : (Value.list (article.tags.map Tag.toValue)).IsExact := areExact_map _ Tag.isExact_toValue
  have author := article.author.isExact_toValue
  exact ⟨trivial, trivial, trivial, trivial, trivial, trivial, trivial, trivial, trivial, author, categories,
    tags, trivial, trivial, trivial, trivial⟩

theorem Article.ofDocument?_toValue {article : Article} (real : article.IsReal) :
    Article.ofDocument? article.toValue.document = some article := by
  obtain ⟨record, read, fields⟩ : ∃ record,
      Record.ofDocument? Article.fieldNames article.toValue.document = some record ∧ _ :=
    exists_record rfl (by decide)
  simp only [List.forall_mem_cons] at fields
  obtain ⟨id, userId, title, description, content, status, views, likes, comments, author, categories, tags,
    liked, created, updated, -⟩ := fields
  -- one field after the other: a simplifier walks through all the rest of the record for each of them
  refine bind_eq_some_of_eq_some read ?_
  refine bind_eq_some_of_eq_some (Record.required_eq_some id (word64?_document _)) ?_
  refine bind_eq_some_of_eq_some (Record.required_eq_some userId (word64?_document _)) ?_
  refine bind_eq_some_of_eq_some (Record.required_eq_some title (text?_document _)) ?_
  refine bind_eq_some_of_eq_some (Record.optional_eq_some description (text?_document _)) ?_
  refine bind_eq_some_of_eq_some (Record.required_eq_some content (text?_document _)) ?_
  refine bind_eq_some_of_eq_some (Record.required_eq_some status (signed32?_document _)) ?_
  refine bind_eq_some_of_eq_some (Record.required_eq_some views (signed64?_document _)) ?_
  refine bind_eq_some_of_eq_some (Record.required_eq_some likes (signed64?_document _)) ?_
  refine bind_eq_some_of_eq_some (Record.required_eq_some comments (signed64?_document _)) ?_
  refine bind_eq_some_of_eq_some (Record.required_eq_some author (Author.ofDocument?_toValue _)) ?_
  refine bind_eq_some_of_eq_some (Record.optional_eq_some categories (listOf?_document fun category member =>
    Category.ofDocument?_toValue (real.categories category member))) ?_
  refine bind_eq_some_of_eq_some (Record.optional_eq_some tags (listOf?_document fun tag member =>
    Tag.ofDocument?_toValue (real.tags tag member))) ?_
  refine bind_eq_some_of_eq_some (Record.required_eq_some liked rfl) ?_
  refine bind_eq_some_of_eq_some (Record.required_eq_some created (dateTime?_document real.createdAt)) ?_
  refine bind_eq_some_of_eq_some (Record.required_eq_some updated (dateTime?_document real.updatedAt)) ?_
  rfl

/-! ### What is read -/

section Read

variable {document : Document}

theorem Category.isReal_of_ofDocument? {category : Category}
    (read : Category.ofDocument? document = some category) : category.IsReal := by
  -- the record and the seven fields before the date
  iterate 8 obtain ⟨_, -, read⟩ := Option.bind_eq_some_iff.1 read
  obtain ⟨created, createdAt, read⟩ := Option.bind_eq_some_iff.1 read
  cases read
  exact isReal_of_required createdAt

theorem Tag.isReal_of_ofDocument? {tag : Tag} (read : Tag.ofDocument? document = some tag) :
    tag.IsReal := by
  -- the record and the four fields before the date
  iterate 5 obtain ⟨_, -, read⟩ := Option.bind_eq_some_iff.1 read
  obtain ⟨created, createdAt, read⟩ := Option.bind_eq_some_iff.1 read
  cases read
  exact isReal_of_required createdAt

/-- All dates of an article that is read are points in time. -/
theorem Article.isReal_of_ofDocument? {article : Article}
    (read : Article.ofDocument? document = some article) : article.IsReal := by
  -- the record and the ten fields before the categories
  iterate 11 obtain ⟨_, -, read⟩ := Option.bind_eq_some_iff.1 read
  obtain ⟨categories, inCategories, read⟩ := Option.bind_eq_some_iff.1 read
  obtain ⟨tags, inTags, read⟩ := Option.bind_eq_some_iff.1 read
  obtain ⟨liked, -, read⟩ := Option.bind_eq_some_iff.1 read
  obtain ⟨created, createdAt, read⟩ := Option.bind_eq_some_iff.1 read
  obtain ⟨updated, updatedAt, read⟩ := Option.bind_eq_some_iff.1 read
  cases read
  refine ⟨fun category member => ?_, fun tag member => ?_, isReal_of_required createdAt,
    isReal_of_required updatedAt⟩
  · obtain ⟨document, decoded⟩ := Record.exists_of_mem_optional inCategories category member
    exact Category.isReal_of_ofDocument? decoded
  · obtain ⟨document, decoded⟩ := Record.exists_of_mem_optional inTags tag member
    exact Tag.isReal_of_ofDocument? decoded

theorem Catalog.isReal_of_ofDocument? {catalog : Catalog} (read : Catalog.ofDocument? document = some catalog) :
    ∀ article ∈ catalog.articles, article.IsReal := by
  iterate 3 obtain ⟨_, -, read⟩ := Option.bind_eq_some_iff.1 read
  obtain ⟨articles, inArticles, read⟩ := Option.bind_eq_some_iff.1 read
  obtain ⟨likes, -, read⟩ := Option.bind_eq_some_iff.1 read
  cases read
  intro article member
  obtain ⟨document, decoded⟩ := Record.exists_of_mem_optional inArticles article member
  exact Article.isReal_of_ofDocument? decoded

end Read

/-! ### Repositories -/

/-- All dates of an article that a repository serves are points in time, if it was loaded from a file. -/
theorem Repository.isReal_of_load {file : Option ByteArray} {repository : Repository} {id viewer : UInt64}
    {article : Article} (loaded : load file = .ok repository)
    (served : repository.article id viewer = .ok article) : article.IsReal := by
  unfold load at loaded
  split at loaded
  · cases loaded
  split at loaded
  · next catalog read =>
    cases loaded
    obtain ⟨document, -, read⟩ := Option.bind_eq_some_iff.1 read
    unfold Repository.article at served
    split at served
    · cases served
    · next kept found =>
      cases served
      have bound := (Table.mem_of_get?_insertAll found).resolve_right nofun
      obtain ⟨listed, member, same⟩ := List.mem_map.1 bound
      cases same
      have real := Catalog.isReal_of_ofDocument? read _ member
      exact ⟨real.categories, real.tags, real.createdAt, real.updatedAt⟩
  · cases loaded

end Community
