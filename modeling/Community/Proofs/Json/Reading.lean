/-
This file proves that JSON values are read back from their compact written form, as the documents that say the
same. Reading goes along with writing: each kind of value is recognised by its first character, and its text is
read up to a point at which a value may end, whatever follows there. The reader's fuel is twice the number of
symbols; a value spends at most one less, since it has at least one symbol more than what it consists of.
Floating-point numbers are left out: they are written with the fewest digits that tell them apart.
-/

import Community.Proofs.Json.Literal

namespace Community.Json

open Community.Text

/-! ### Values without floating-point numbers -/

mutual

/-- Has the value no floating-point number in it? -/
def Value.IsExact : Value → Prop
  | .null | .bool _ | .integer _ | .text _ => True
  | .real _ => False
  | .list items => Value.AreExact items
  | .object members => Value.MembersAreExact members

/-- Has none of the values a floating-point number in it? -/
def Value.AreExact : List Value → Prop
  | [] => True
  | item :: rest => item.IsExact ∧ Value.AreExact rest

/-- Has none of the members a floating-point number in it? -/
def Value.MembersAreExact : List (String × Value) → Prop
  | [] => True
  | (_, value) :: rest => value.IsExact ∧ Value.MembersAreExact rest

end

mutual

/-- The document of a value without floating-point numbers. -/
def Value.document : Value → Document
  | .null => .null
  | .bool value => .bool value
  | .integer value => .number (numeralOf value)
  | .real _ => .null
  | .text value => .text (rawOf value)
  | .list items => .list (Value.documents items)
  | .object members => .members (Value.memberDocuments members)

/-- The documents of values. -/
def Value.documents : List Value → List Document
  | [] => []
  | item :: rest => item.document :: Value.documents rest

/-- The documents of members. -/
def Value.memberDocuments : List (String × Value) → List (List Symbol × Document)
  | [] => []
  | (name, value) :: rest => (rawOf name, value.document) :: Value.memberDocuments rest

end

/-! ### The first character of a value -/

theorem skipSpace_cons {symbol : Symbol} (visible : isSpace symbol = false) (rest : List Symbol) :
    skipSpace (symbol :: rest) = symbol :: rest := by
  rw [skipSpace, List.dropWhile_cons_of_neg (by rw [visible]; exact Bool.false_ne_true)]

/-- An integer begins with a digit or a sign. -/
theorem exists_toString (value : Int) :
    ∃ c text, (toString value).toList = c :: text ∧ (c.isDigit ∨ c = '-') := by
  rw [toList_toString]
  by_cases negative : value < 0
  · rw [if_pos negative]
    exact ⟨'-', _, rfl, Or.inr rfl⟩
  · rw [if_neg negative, List.nil_append]
    obtain ⟨c, text, written⟩ := List.exists_cons_of_ne_nil (@Nat.toDigits_ne_nil value.natAbs 10)
    refine ⟨c, text, written, Or.inl ?_⟩
    exact Nat.isDigit_of_mem_toDigits (by decide) (by decide) (written ▸ List.mem_cons_self)

/-- A digit or a sign is no other mark of the grammar. -/
theorem ne_of_numeral {c : Char} (begins : c.isDigit ∨ c = '-') :
    ∀ mark ∈ [' ', '\n', '\r', '\t', '\x7b', '[', ']', '"', 't', 'f', 'n'], c ≠ mark := by
  have noNumeral : [' ', '\n', '\r', '\t', '\x7b', '[', ']', '"', 't', 'f', 'n'].all
      fun mark => !(mark.isDigit || mark = '-') := by decide
  rintro mark marks rfl
  exact absurd begins (by simpa using List.all_eq_true.1 noNumeral c marks)

theorem isSpace_of_numeral {c : Char} (begins : c.isDigit ∨ c = '-') : isSpace (.char c) = false := by
  have differs := ne_of_numeral begins
  simp only [List.forall_mem_cons] at differs
  simp [isSpace, differs]

/-- What begins with a digit or a sign is read as a number. -/
theorem readValue?_of_numeral {c : Char} (begins : c.isDigit ∨ c = '-') (fuel : Nat) (rest : List Symbol) :
    readValue? (fuel + 1) (.char c :: rest) =
      (readNumeral? (.char c :: rest)).map fun (numeral, after) => (.number numeral, after) := by
  have differs := ne_of_numeral begins
  simp only [List.forall_mem_cons] at differs
  rw [readValue?, skipSpace_cons (isSpace_of_numeral begins)]
  simp [differs]

/-- A value begins with a character that is no blank and does not close a list. -/
theorem Value.exists_write {value : Value} (plain : value.IsExact) :
    ∃ c text, value.write = c :: text ∧ isSpace (.char c) = false ∧ c ≠ ']' := by
  cases value with
  | null | text | list | object => exact ⟨_, _, rfl, rfl, by decide⟩
  | bool value => cases value <;> exact ⟨_, _, rfl, rfl, by decide⟩
  | integer value =>
    obtain ⟨c, text, written, begins⟩ := exists_toString value
    exact ⟨c, text, written, isSpace_of_numeral begins, ne_of_numeral begins ']' (by decide)⟩
  | real => cases plain

theorem Value.length_write_pos {value : Value} (plain : value.IsExact) : 0 < value.write.length := by
  obtain ⟨c, text, written, -⟩ := Value.exists_write plain
  rw [written, List.length_cons]
  exact Nat.succ_pos _

/-! ### Reading along -/

theorem readValue?_quote (fuel : Nat) (rest : List Symbol) :
    readValue? (fuel + 1) (.char '"' :: rest) =
      (readRaw? rest).map fun (raw, after) => (.text raw, after) := rfl

/-- A list that is not closed at once has items. -/
theorem readValue?_bracket {c : Char} (visible : isSpace (.char c) = false) (opens : c ≠ ']') (fuel : Nat)
    (rest : List Symbol) : readValue? (fuel + 1) (.char '[' :: .char c :: rest) =
      (readItems? fuel (.char c :: rest)).map fun (items, after) => (.list items, after) := by
  rw [readValue?, skipSpace_cons (by decide)]
  simp [skipSpace_cons visible, opens]

/-- An object that goes on with a name has members. -/
theorem readValue?_brace (fuel : Nat) (rest : List Symbol) :
    readValue? (fuel + 1) (.char '\x7b' :: .char '"' :: rest) =
      (readMembers? fuel (.char '"' :: rest)).map fun (entries, after) => (.members entries, after) := rfl

/-- A string is written as its symbols between quotes. -/
theorem map_writeString (text : String) (rest : List Symbol) :
    (writeString text).map .char ++ rest = .char '"' :: (rawOf text ++ .char '"' :: rest) := by
  simp [writeString, rawOf]

section Sequences

variable {fuel : Nat} {symbols rest after : List Symbol} {item : Document}

theorem readItems?_last (read : readValue? fuel symbols = some (item, .char ']' :: rest)) :
    readItems? (fuel + 1) symbols = some ([item], rest) := by
  rw [readItems?, read]
  rfl

theorem readItems?_more {items : List Document}
    (read : readValue? fuel symbols = some (item, .char ',' :: rest))
    (later : readItems? fuel rest = some (items, after)) :
    readItems? (fuel + 1) symbols = some (item :: items, after) := by
  rw [readItems?, read]
  show (readItems? fuel rest).bind _ = _
  rw [later]
  rfl

theorem readMembers?_last (name : String) (read : readValue? fuel symbols = some (item, .char '\x7d' :: rest)) :
    readMembers? (fuel + 1) (.char '"' :: (rawOf name ++ .char '"' :: .char ':' :: symbols)) =
      some ([(rawOf name, item)], rest) := by
  rw [readMembers?, skipSpace_cons (by decide)]
  show (readRaw? _).bind _ = _
  rw [readRaw?_rawOf]
  show (readValue? fuel symbols).bind _ = _
  rw [read]
  rfl

theorem readMembers?_more (name : String) {entries : List (List Symbol × Document)}
    (read : readValue? fuel symbols = some (item, .char ',' :: rest))
    (later : readMembers? fuel rest = some (entries, after)) :
    readMembers? (fuel + 1) (.char '"' :: (rawOf name ++ .char '"' :: .char ':' :: symbols)) =
      some ((rawOf name, item) :: entries, after) := by
  rw [readMembers?, skipSpace_cons (by decide)]
  show (readRaw? _).bind _ = _
  rw [readRaw?_rawOf]
  show (readValue? fuel symbols).bind _ = _
  rw [read]
  show (readMembers? fuel rest).bind _ = _
  rw [later]
  rfl

end Sequences

theorem writeItems_cons (item second : Value) (items : List Value) :
    Value.writeItems (item :: second :: items) = item.write ++ ',' :: Value.writeItems (second :: items) := rfl

/-- Items begin as the first of them does. -/
theorem Value.exists_writeItems {item : Value} (plain : item.IsExact) (items : List Value) :
    ∃ c text, Value.writeItems (item :: items) = c :: text ∧ isSpace (.char c) = false ∧ c ≠ ']' := by
  obtain ⟨c, text, written, visible, opens⟩ := Value.exists_write plain
  cases items with
  | nil => exact ⟨c, text, written, visible, opens⟩
  | cons second items => exact ⟨c, _, by rw [writeItems_cons, written, List.cons_append], visible, opens⟩

/-- A member is written as its name, a colon and its value. -/
theorem map_writeMember (name : String) (value : Value) (rest : List Symbol) :
    (writeString name ++ ':' :: value.write).map .char ++ rest =
      .char '"' :: (rawOf name ++ .char '"' :: .char ':' :: (value.write.map .char ++ rest)) := by
  simp [writeString, rawOf]

theorem writeMembers_cons (name : String) (value : Value) (second : String × Value)
    (members : List (String × Value)) : Value.writeMembers ((name, value) :: second :: members) =
      (writeString name ++ ':' :: value.write) ++ ',' :: Value.writeMembers (second :: members) := by
  simp [Value.writeMembers]

theorem length_writeMember (name : String) (value : Value) :
    value.write.length + 3 ≤ (writeString name ++ ':' :: value.write).length := by
  simp [writeString]

/-- Members begin with a quote. -/
theorem exists_writeMembers (name : String) (value : Value) (members : List (String × Value)) :
    ∃ text, Value.writeMembers ((name, value) :: members) = '"' :: text := by
  cases members with
  | nil => exact ⟨_, rfl⟩
  | cons => exact ⟨_, rfl⟩

mutual

/-- A value is read up to where it ends. -/
theorem readValue?_write : ∀ (value : Value) {rest : List Symbol} {fuel : Nat}, value.IsExact → Ends rest →
    2 * value.write.length ≤ fuel + 1 →
      readValue? fuel (value.write.map .char ++ rest) = some (value.document, rest)
  | value, rest, 0, plain, ends, enough => by
    have := value.length_write_pos plain
    omega
  | .null, rest, fuel + 1, _, _, _ => rfl
  | .bool true, rest, fuel + 1, _, _, _ => rfl
  | .bool false, rest, fuel + 1, _, _, _ => rfl
  | .integer value, rest, fuel + 1, _, ends, _ => by
    obtain ⟨c, text, written, begins⟩ := exists_toString value
    have read := readNumeral?_toString value ends
    rw [Value.write, written] at *
    rw [List.map_cons, List.cons_append] at read ⊢
    rw [readValue?_of_numeral begins, read]
    rfl
  | .text value, rest, fuel + 1, _, _, _ => by
    rw [Value.write, map_writeString, readValue?_quote, readRaw?_rawOf]
    rfl
  | .list [], rest, fuel + 1, _, _, _ => rfl
  | .list (item :: items), rest, fuel + 1, plain, _, enough => by
    rw [Value.write, List.length_cons, List.length_append, List.length_singleton] at enough
    have read : readItems? fuel ((Value.writeItems (item :: items)).map .char ++ .char ']' :: rest) = _ :=
      readItems?_write (item :: items) (List.cons_ne_nil _ _) plain (by omega)
    obtain ⟨c, text, written, visible, opens⟩ := Value.exists_writeItems plain.1 items
    rw [written, List.map_cons, List.cons_append] at read
    rw [Value.write, written, List.map_cons, List.map_append, List.map_cons, List.cons_append,
      List.append_assoc, List.cons_append, List.map_singleton, List.singleton_append,
      readValue?_bracket visible opens, read]
    rfl
  | .object [], rest, fuel + 1, _, _, _ => rfl
  | .object ((name, value) :: members), rest, fuel + 1, plain, _, enough => by
    rw [Value.write, List.length_cons, List.length_append, List.length_singleton] at enough
    have read : readMembers? fuel
        ((Value.writeMembers ((name, value) :: members)).map .char ++ .char '\x7d' :: rest) = _ :=
      readMembers?_write ((name, value) :: members) (List.cons_ne_nil _ _) plain (by omega)
    obtain ⟨text, written⟩ := exists_writeMembers name value members
    rw [written, List.map_cons, List.cons_append] at read
    rw [Value.write, written, List.map_cons, List.map_append, List.map_cons, List.cons_append,
      List.append_assoc, List.cons_append, List.map_singleton, List.singleton_append,
      readValue?_brace, read]
    rfl
  | .real _, _, _ + 1, plain, _, _ => nomatch plain

/-- The items of a list are read up to its closing bracket. -/
theorem readItems?_write : ∀ (items : List Value) {rest : List Symbol} {fuel : Nat}, items ≠ [] →
    Value.AreExact items → 2 * (Value.writeItems items).length ≤ fuel →
      readItems? fuel ((Value.writeItems items).map .char ++ .char ']' :: rest) =
        some (Value.documents items, rest)
  | [], _, _, nonempty, _, _ => absurd rfl nonempty
  | item :: items, rest, 0, _, plain, enough => by
    obtain ⟨c, text, written, -⟩ := Value.exists_writeItems plain.1 items
    rw [written, List.length_cons] at enough
    omega
  | [item], rest, fuel + 1, _, plain, enough =>
    readItems?_last (readValue?_write item plain.1 (Or.inr (Or.inl rfl)) enough)
  | item :: second :: items, rest, fuel + 1, _, plain, enough => by
    rw [writeItems_cons, List.length_append, List.length_cons] at enough
    rw [writeItems_cons, List.map_append, List.append_assoc]
    exact readItems?_more (readValue?_write item plain.1 (Or.inl rfl) (by omega))
      (readItems?_write (second :: items) (List.cons_ne_nil _ _) plain.2 (by omega))

/-- The members of an object are read up to its closing brace. -/
theorem readMembers?_write : ∀ (members : List (String × Value)) {rest : List Symbol} {fuel : Nat},
    members ≠ [] → Value.MembersAreExact members → 2 * (Value.writeMembers members).length ≤ fuel →
      readMembers? fuel ((Value.writeMembers members).map .char ++ .char '\x7d' :: rest) =
        some (Value.memberDocuments members, rest)
  | [], _, _, nonempty, _, _ => absurd rfl nonempty
  | [(name, value)], rest, fuel, _, plain, enough => by
    have long := length_writeMember name value
    rw [Value.writeMembers] at enough
    obtain ⟨fuel, rfl⟩ := Nat.exists_eq_add_one.2 (by omega : 0 < fuel)
    rw [Value.writeMembers, map_writeMember]
    exact readMembers?_last name (readValue?_write value plain.1 (Or.inr (Or.inr rfl)) (by omega))
  | (name, value) :: second :: members, rest, fuel, _, plain, enough => by
    have long := length_writeMember name value
    rw [writeMembers_cons, List.length_append, List.length_cons] at enough
    obtain ⟨fuel, rfl⟩ := Nat.exists_eq_add_one.2 (by omega : 0 < fuel)
    rw [writeMembers_cons, List.map_append, List.append_assoc, map_writeMember]
    exact readMembers?_more name (readValue?_write value plain.1 (Or.inl rfl) (by omega))
      (readMembers?_write (second :: members) (List.cons_ne_nil _ _) plain.2 (by omega))

end

/-! ### Whole texts -/

theorem symbolsOfBytes_toUTF8 (text : String) : symbolsOfBytes text.toUTF8 = text.toList.map .char := by
  have decoded : String.fromUTF8? text.toUTF8 = some text := dif_pos text.isValidUTF8
  rw [symbolsOfBytes, decoded]
  rfl

/-- The bytes of a value are read as its document. -/
theorem ofBytes?_render {value : Value} (plain : value.IsExact) :
    Document.ofBytes? value.render.toUTF8 = some value.document := by
  have read := readValue?_write value plain (show Ends [] from trivial)
    (show 2 * value.write.length ≤ 2 * (value.write.map Symbol.char).length + 2 + 1 by
      rw [List.length_map]
      omega)
  rw [List.append_nil] at read
  rw [Document.ofBytes?, symbolsOfBytes_toUTF8, Value.render, String.toList_ofList, documentOfSymbols?, read]
  rfl

end Community.Json
