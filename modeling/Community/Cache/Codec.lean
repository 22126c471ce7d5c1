/-
This file turns values into the bytes that a cache slot holds, and bytes into values. A codec may refuse a
value, which is then not cached, and it may refuse bytes, which then hold nothing. All codecs here write
compact JSON.

The payloads of users and lists are the caller's: any JSON value, a number, a text, a list of texts, a
category, or a payload that can be read and has no written form.
-/

import Community.Catalog.Codec
import Community.Json.Decoding
import Community.Json.Reader

namespace Community.Cache

open Community.Json

/-- How values of a type are written to bytes and read from them. -/
structure Codec (α : Type) where
  encode? : α → Option ByteArray
  decode? : ByteArray → Option α

namespace Codec

/-- The codec of a type with a written form and a reader of documents. -/
def json {α : Type} (toValue : α → Value) (ofDocument? : Document → Option α) : Codec α where
  encode? value := some (toValue value).render.toUTF8
  decode? bytes := (Document.ofBytes? bytes).bind ofDocument?

/-- The codec of a list. -/
def jsonList {α : Type} (toValue : α → Value) (ofDocument? : Document → Option α) : Codec (List α) :=
  json (fun values => .list (values.map toValue)) (listOf? ofDocument?)

/-- The codec of all categories. -/
def categories : Codec (List Category) := jsonList Category.toValue Category.ofDocument?

/-- The codec of all tags. -/
def tags : Codec (List Tag) := jsonList Tag.toValue Tag.ofDocument?

/-- The codec of an article. -/
def article : Codec Article := json Article.toValue Article.ofDocument?

/-- The codec of a signed count. -/
def count : Codec Int64 := json (fun count => .integer count.toInt) signed64?

end Codec

/-- What callers keep about users and lists. -/
inductive Payload where
  | json (value : Value)
  | number (value : UInt64)
  | text (value : String)
  | texts (values : List String)
  | category (value : Category)
  /-- Read from a number; it has no written form. -/
  | unwritable (value : UInt64)

/-- The kinds of payloads; a reader has to know which one to expect. -/
inductive PayloadKind where
  | json
  | number
  | text
  | texts
  | category
  | unwritable
  deriving DecidableEq, Repr

/-- Reads a payload of a kind. -/
def Payload.ofDocument? : PayloadKind → Document → Option Payload
  | .json, document => (Value.ofDocument? document).map .json
  | .number, document => (word64? document).map .number
  | .text, document => document.text?.map .text
  | .texts, document => (listOf? Document.text? document).map .texts
  | .category, document => (Category.ofDocument? document).map .category
  | .unwritable, document => (word64? document).map .unwritable

/-- The written form of a payload, if it has one. -/
def Payload.toValue? : Payload → Option Value
  | .json value => some value
  | .number value => some (.integer value.toNat)
  | .text value => some (.text value)
  | .texts values => some (.list (values.map .text))
  | .category value => some value.toValue
  | .unwritable _ => none

/-- The codec of the payloads of a kind. -/
def Codec.payload (kind : PayloadKind) : Codec Payload where
  encode? payload := payload.toValue?.map fun value => value.render.toUTF8
  decode? bytes := (Document.ofBytes? bytes).bind (Payload.ofDocument? kind)

end Community.Cache
