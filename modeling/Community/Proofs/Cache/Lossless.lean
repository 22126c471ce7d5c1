/-
This file proves that nothing is lost between the cache and its bytes. Whatever can be read from bytes as an
article, a category, a tag or an author is written in a form that is read back as the same value, and so are
lists of these. A slot that has been filled with such a value therefore yields just this value for as long as
its entry is there and lives, whatever has happened to the rest of the cache. Bytes that hold no value are
never met in the slots of the articles and their catalog, as long as all that is loaded for them could have
been read from bytes.
-/

import Community.Proofs.Cache.Provenance

namespace Community.Cache

open Community.Json

/-! ### Codecs without loss -/

namespace Codec

variable {α : Type} {toValue : α → Value} {ofDocument? : Document → Option α}

/-- Can the value be read from any bytes? -/
def Produces (codec : Codec α) (value : α) : Prop :=
  ∃ bytes, codec.decode? bytes = some value

/-- Is every value that can be read from bytes written, and read back as it was? -/
def IsLossless (codec : Codec α) : Prop :=
  ∀ value, codec.Produces value →
    ∃ bytes, codec.encode? value = some bytes ∧ codec.decode? bytes = some value

theorem decode?_json_render {value : α} (exact : (toValue value).IsExact)
    (read : ofDocument? (toValue value).document = some value) :
    (json toValue ofDocument?).decode? (toValue value).render.toUTF8 = some value := by
  show (Document.ofBytes? (toValue value).render.toUTF8).bind ofDocument? = some value
  rw [ofBytes?_render exact, Option.bind_some, read]

/-- A form that every document's value has, and in which it is read, loses nothing. -/
theorem isLossless_json (exact : ∀ value, (toValue value).IsExact)
    (reads : ∀ document value, ofDocument? document = some value →
      ofDocument? (toValue value).document = some value) :
    (json toValue ofDocument?).IsLossless := by
  rintro value ⟨bytes, read⟩
  obtain ⟨document, -, decoded⟩ := Option.bind_eq_some_iff.1 read
  exact ⟨_, rfl, decode?_json_render (exact value) (reads document value decoded)⟩

/-- Then nothing is lost of lists either. -/
theorem isLossless_jsonList (exact : ∀ value, (toValue value).IsExact)
    (reads : ∀ document value, ofDocument? document = some value →
      ofDocument? (toValue value).document = some value) :
    (jsonList toValue ofDocument?).IsLossless := by
  refine isLossless_json (fun values => areExact_map values exact) fun document values read => ?_
  refine listOf?_document fun value member => ?_
  obtain ⟨item, decoded⟩ := exists_of_mem_listOf? read value member
  exact reads item value decoded

theorem isLossless_category : (json Category.toValue Category.ofDocument?).IsLossless :=
  isLossless_json Category.isExact_toValue fun _ _ read =>
    Category.ofDocument?_toValue (Category.isReal_of_ofDocument? read)

theorem isLossless_tag : (json Tag.toValue Tag.ofDocument?).IsLossless :=
  isLossless_json Tag.isExact_toValue fun _ _ read =>
    Tag.ofDocument?_toValue (Tag.isReal_of_ofDocument? read)

theorem isLossless_author : (json Author.toValue Author.ofDocument?).IsLossless :=
  isLossless_json Author.isExact_toValue fun _ author _ => author.ofDocument?_toValue

theorem isLossless_article : Codec.article.IsLossless :=
  isLossless_json Article.isExact_toValue fun _ _ read =>
    Article.ofDocument?_toValue (Article.isReal_of_ofDocument? read)

theorem isLossless_categories : Codec.categories.IsLossless :=
  isLossless_jsonList Category.isExact_toValue fun _ _ read =>
    Category.ofDocument?_toValue (Category.isReal_of_ofDocument? read)

theorem isLossless_tags : Codec.tags.IsLossless :=
  isLossless_jsonList Tag.isExact_toValue fun _ _ read =>
    Tag.ofDocument?_toValue (Tag.isReal_of_ofDocument? read)

end Codec

/-! ### Slots that hold what was stored -/

namespace Service

variable {α : Type} {service : Service} {slot : Slot α} {value : α} {now : Nat}

/-- A live entry that can be read is found, and reading it is all that happens. -/
theorem lookSlot_eq_of_live {entry : Entry ByteArray}
    (holds : service.resident? slot.group slot.key = some entry) (live : entry.isExpired now = false)
    (decoded : slot.codec.decode? entry.value = some value) :
    service.lookSlot now slot = ((service.getBytes now slot.group slot.key).1, some value) := by
  have read := getBytes_of_live holds live
  unfold lookSlot
  generalize service.getBytes now slot.group slot.key = got at read
  obtain ⟨after, bytes⟩ := got
  cases read
  simp only [decoded]

/-- A live entry in the slot of a subject that can be read is found, and reading it is all that happens. -/
theorem look_eq_of_live {subject : Subject} {content : subject.Content} {entry : Entry ByteArray}
    (holds : service.resident? subject.place.1 subject.place.2 = some entry)
    (live : entry.isExpired now = false) (decoded : subject.codec.decode? entry.value = some content) :
    service.look now subject =
      ((service.getBytes now subject.place.1 subject.place.2).1, some content) := by
  rw [← group_slot service, ← key_slot service] at holds ⊢
  rw [← codec_slot service] at decoded
  exact lookSlot_eq_of_live holds live decoded

/-- A value of which nothing is lost can be stored, and is found as long as its entry is there and lives. -/
theorem fillSlot_of_isLossless (service : Service) (stored : Nat) (lossless : slot.codec.IsLossless)
    (produces : slot.codec.Produces value) :
    (service.fillSlot stored slot value).2 = true ∧
      ∃ entry, (service.fillSlot stored slot value).1.resident? slot.group slot.key = some entry ∧
        entry.expiresAt = expiry stored slot.ttl ∧
        ∀ (later : Service) (now : Nat), later.resident? slot.group slot.key = some entry →
          entry.isExpired now = false →
            later.lookSlot now slot = ((later.getBytes now slot.group slot.key).1, some value) := by
  obtain ⟨bytes, written, read⟩ := lossless value produces
  have filled : service.fillSlot stored slot value =
      (service.putBytes stored slot.group slot.key bytes slot.ttl, true) := by
    rw [fillSlot, written]
  obtain ⟨entry, holds, rfl, ends⟩ :=
    service.exists_resident?_putBytes stored slot.group slot.key bytes slot.ttl
  rw [filled]
  exact ⟨rfl, entry, holds, ends, fun later now held live => lookSlot_eq_of_live held live read⟩

end Service

/-! ### Reads of articles and their catalog -/

/-- Is the subject an article, or a list of categories or tags? -/
def Subject.IsCatalog : Subject → Prop
  | categories => True
  | tags => True
  | article .. => True
  | user .. => False
  | list .. => False

namespace Subject

theorem IsCatalog.isLossless {subject : Subject} (catalog : subject.IsCatalog) :
    subject.codec.IsLossless := by
  cases subject with
  | categories => exact Codec.isLossless_categories
  | tags => exact Codec.isLossless_tags
  | article => exact Codec.isLossless_article
  | user | list => exact catalog.elim

/-- No other subject has the slot of an article, or that of the categories or the tags. -/
theorem IsCatalog.eq_of_place {subject loaded : Subject} (catalog : subject.IsCatalog)
    (same : loaded.place = subject.place) : loaded = subject := by
  cases subject with
  | user | list => exact catalog.elim
  | article article viewer => exact place_eq_article same
  | categories => cases loaded <;> first | rfl | simp [place, Key.categories, Key.tags] at same
  | tags => cases loaded <;> first | rfl | simp [place, Key.categories, Key.tags] at same

end Subject

/-- Do the sources yield only what could have been read from bytes? -/
def Sources.AreReadable (sources : Sources) : Prop :=
  ∀ subject content, sources subject = .ok content → subject.codec.Produces content

theorem Sources.areReadable_only {subject : Subject} {outcome : Outcome subject.Content}
    (produces : ∀ content, outcome = .ok content → subject.codec.Produces content) :
    (Sources.only subject outcome).AreReadable := by
  intro other content loaded
  unfold only at loaded
  split at loaded
  · next same =>
    subst same
    exact produces content loaded
  · cases loaded

namespace System

/-- A live entry in the slot of an article, or of its catalog, is always found, and it is what a load of this
subject has yielded. -/
theorem look_of_isCatalog {config : CacheConfig} {clock : Nat} {events : List Event}
    (readable : ∀ number sources, Event.settle number sources ∈ events → sources.AreReadable)
    {subject : Subject} (catalog : subject.IsCatalog) {entry : Entry ByteArray}
    (holds : ((initial config clock).run events).service.resident? subject.place.1 subject.place.2 =
      some entry)
    (live : entry.isExpired ((initial config clock).run events).clock = false) :
    let system := (initial config clock).run events
    ∃ content, (∃ number sources, Event.settle number sources ∈ events ∧ sources subject = .ok content) ∧
      system.service.look system.clock subject =
        ((system.service.getBytes system.clock subject.place.1 subject.place.2).1, some content) := by
  intro system
  obtain ⟨first, number, sources, rest, split, load, content, -, loaded, samePlace, written, -⟩ :=
    (resident?_run holds).resolve_right fun resident => by cases subject <;> cases resident
  have settles : Event.settle number sources ∈ events :=
    split ▸ List.mem_append_right first List.mem_cons_self
  obtain rfl := catalog.eq_of_place samePlace
  obtain ⟨bytes, alsoWritten, read⟩ :=
    catalog.isLossless content (readable number sources settles _ _ loaded)
  cases alsoWritten.symm.trans written
  exact ⟨content, ⟨number, sources, settles, loaded⟩, Service.look_eq_of_live holds live read⟩

end System

/-- Articles, categories, tags and authors that can be read from bytes are written and read back as what they
were, alone and in lists. So a slot yields what has been stored in it for as long as the entry is there and
lives, and bytes that hold no value are not met: neither in such a slot, whatever else has happened to the
cache, nor in the slot of an article or its catalog in the course of any run. -/
theorem json_boundary_lossless :
    ((Codec.json Category.toValue Category.ofDocument?).IsLossless ∧
      (Codec.json Tag.toValue Tag.ofDocument?).IsLossless ∧
      (Codec.json Author.toValue Author.ofDocument?).IsLossless ∧
      Codec.article.IsLossless ∧ Codec.categories.IsLossless ∧ Codec.tags.IsLossless) ∧
    (∀ (α : Type) (slot : Slot α) (value : α) (service : Service) (stored : Nat),
      slot.codec.IsLossless → slot.codec.Produces value →
        (service.fillSlot stored slot value).2 = true ∧
        ∃ entry, (service.fillSlot stored slot value).1.resident? slot.group slot.key = some entry ∧
          entry.expiresAt = expiry stored slot.ttl ∧
          ∀ (later : Service) (now : Nat), later.resident? slot.group slot.key = some entry →
            entry.isExpired now = false →
              later.lookSlot now slot = ((later.getBytes now slot.group slot.key).1, some value)) ∧
    ∀ (config : CacheConfig) (clock : Nat) (events : List Event) (subject : Subject)
      (entry : Entry ByteArray), subject.IsCatalog →
      (∀ number sources, Event.settle number sources ∈ events → sources.AreReadable) →
      let system := (System.initial config clock).run events
      system.service.resident? subject.place.1 subject.place.2 = some entry →
      entry.isExpired system.clock = false →
        ∃ content, (∃ number sources, Event.settle number sources ∈ events ∧
          sources subject = .ok content) ∧
          system.service.look system.clock subject =
            ((system.service.getBytes system.clock subject.place.1 subject.place.2).1, some content) :=
  ⟨⟨Codec.isLossless_category, Codec.isLossless_tag, Codec.isLossless_author, Codec.isLossless_article,
      Codec.isLossless_categories, Codec.isLossless_tags⟩,
    fun _ _ _ service stored lossless produces => service.fillSlot_of_isLossless stored lossless produces,
    fun _ _ _ _ _ catalog readable holds live => System.look_of_isCatalog readable catalog holds live⟩

/-- A category that was made in a leap second of the year before the year zero, with a name that has to be
escaped, is found in the slot of the categories as it was stored there. -/
theorem json_boundary_lossless_leap :
    let category : Category := {
      id := 18446744073709551615, name := "\"\u0001", slug := "", description := "", parentId := 0
      articleCount := -9223372036854775808, sortOrder := -2147483648
      createdAt := ⟨⟨-1, 12, 31⟩, 86399, 1500000000⟩ }
    let service := Service.create {}
    let slot := service.slot .categories
    let filled := (service.fillSlot 0 slot [category]).1
    filled.lookSlot 1000 slot =
      ((filled.getBytes 1000 .global Key.categories).1, some [category]) := by
  intro category service slot filled
  have real : category.IsReal := ⟨by decide, by decide, by decide, by decide⟩
  have produces : slot.codec.Produces [category] := by
    refine ⟨_, Codec.decode?_json_render (areExact_map _ Category.isExact_toValue) ?_⟩
    refine listOf?_document fun item member => ?_
    cases List.mem_singleton.1 member
    exact Category.ofDocument?_toValue real
  obtain ⟨-, entry, holds, ends, found⟩ := json_boundary_lossless.2.1 (List Category) slot [category]
    service 0 Codec.isLossless_categories produces
  refine found filled 1000 holds ?_
  rw [Entry.isExpired, ends]
  decide

end Community.Cache
