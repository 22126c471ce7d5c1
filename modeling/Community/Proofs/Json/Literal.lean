/-
This file proves that strings and integers are read back from their written form. A string is read as the
symbols that were written, escapes included, and these stand for the string: what is escaped is what a reader
would take for something else. An integer has no leading zeros, so its digits are one whole part; they end where
a value may end, at a comma, at a closing bracket or with the text.
-/

import Community.Json.Reader
import Community.Json.Value

namespace Community.Json

open Community.Text

/-! ### Strings -/

/-- The symbols of a string between its quotes. -/
def rawOf (text : String) : List Symbol :=
  (text.toList.flatMap escapeChar).map .char

theorem hexDigit?_hexDigit {value : Nat} (small : value < 16) : hexDigit? (hexDigit value) = some value := by
  revert value
  decide

theorem codeUnit?_escapeControl {c : Char} (control : c.toNat < 0x20) :
    codeUnit? (.char '0') (.char '0') (.char (hexDigit (c.toNat / 16))) (.char (hexDigit (c.toNat % 16))) =
      some c.toNat := by
  have zero : hexDigit? '0' = some 0 := by decide
  unfold codeUnit?
  simp only [zero, hexDigit?_hexDigit (show c.toNat / 16 < 16 by omega),
    hexDigit?_hexDigit (show c.toNat % 16 < 16 by omega), Option.bind_eq_bind, Option.bind_some,
    Option.pure_def]
  exact congrArg some (by omega)

/-- A character is written as an escape by a letter, as an escape by its code, or as itself. -/
theorem escapeChar_cases (c : Char) :
    (∃ letter, escapeChar c = ['\\', letter] ∧ letter ≠ 'u' ∧ escapedChar? letter = some c) ∨
      escapeChar c = escapeControl c ∧ c.toNat < 0x20 ∨
      escapeChar c = [c] ∧ c ≠ '"' ∧ c ≠ '\\' ∧ 0x20 ≤ c.toNat := by
  have short {letter : Char} (written : escapeChar c = ['\\', letter]) (ordinary : letter ≠ 'u')
      (means : escapedChar? letter = some c) :
      ∃ letter, escapeChar c = ['\\', letter] ∧ letter ≠ 'u' ∧ escapedChar? letter = some c :=
    ⟨letter, written, ordinary, means⟩
  by_cases quote : c = '"'
  · subst quote
    exact Or.inl (short rfl (by decide) rfl)
  by_cases backslash : c = '\\'
  · subst backslash
    exact Or.inl (short rfl (by decide) rfl)
  by_cases backspace : c = '\x08'
  · subst backspace
    exact Or.inl (short rfl (by decide) rfl)
  by_cases formFeed : c = '\x0c'
  · subst formFeed
    exact Or.inl (short rfl (by decide) rfl)
  by_cases newline : c = '\n'
  · subst newline
    exact Or.inl (short rfl (by decide) rfl)
  by_cases carriageReturn : c = '\r'
  · subst carriageReturn
    exact Or.inl (short rfl (by decide) rfl)
  by_cases tab : c = '\t'
  · subst tab
    exact Or.inl (short rfl (by decide) rfl)
  unfold escapeChar
  simp only [if_neg quote, if_neg backslash, if_neg backspace, if_neg formFeed, if_neg newline,
    if_neg carriageReturn, if_neg tab]
  by_cases control : c.toNat < 0x20
  · exact Or.inr (Or.inl ⟨if_pos control, control⟩)
  · exact Or.inr (Or.inr ⟨if_neg control, quote, backslash, Nat.not_lt.1 control⟩)

/-- A character is read as it is written. -/
theorem readRaw?_escapeChar (c : Char) (rest : List Symbol) :
    readRaw? ((escapeChar c).map .char ++ rest) =
      (readRaw? rest).map fun (raw, after) => ((escapeChar c).map .char ++ raw, after) := by
  rcases escapeChar_cases c with ⟨letter, written, ordinary, means⟩ | ⟨written, control⟩ |
    ⟨written, quote, backslash, visible⟩
  · rw [written, List.map_cons, List.map_singleton, List.cons_append, List.singleton_append,
      readRaw?.eq_4 _ _ fun _ _ _ _ _ _ => ordinary, means, Option.isSome_some, if_pos rfl]
    rfl
  · rw [written, escapeControl]
    simp only [List.map_cons, List.map_nil, List.cons_append, List.nil_append, readRaw?.eq_3,
      codeUnit?_escapeControl control, Option.isSome_some, if_true]
  · rw [written, List.map_singleton, List.singleton_append,
      readRaw?.eq_5 _ _ quote (fun _ _ _ _ _ _ => backslash) fun _ _ _ => backslash,
      if_neg (not_or.2 ⟨backslash, Nat.not_lt.2 visible⟩)]
    rfl

/-- What is written for a character stands for it. -/
theorem unescape?_escapeChar (c : Char) (rest : List Symbol) :
    unescape? ((escapeChar c).map .char ++ rest) = (unescape? rest).map (c :: ·) := by
  rcases escapeChar_cases c with ⟨letter, written, ordinary, means⟩ | ⟨written, control⟩ |
    ⟨written, quote, backslash, visible⟩
  · rw [written, List.map_cons, List.map_singleton, List.cons_append, List.singleton_append,
      unescape?.eq_3 _ _ fun _ _ _ _ _ _ => ordinary, means]
  · have noSurrogate : ¬ (0xD800 ≤ c.toNat ∧ c.toNat < 0xDC00) := by omega
    have noLow : ¬ (0xDC00 ≤ c.toNat ∧ c.toNat < 0xE000) := by omega
    rw [written, escapeControl]
    simp only [List.map_cons, List.map_nil, List.cons_append, List.nil_append, unescape?.eq_2,
      codeUnit?_escapeControl control, if_neg noSurrogate, if_neg noLow, Char.ofNat_toNat]
  · rw [written, List.map_singleton, List.singleton_append,
      unescape?.eq_5 _ _ (fun _ _ _ _ _ _ => backslash) (fun _ _ _ => backslash) backslash]

/-- A string is read up to its closing quote. -/
theorem readRaw?_rawOf (text : String) (rest : List Symbol) :
    readRaw? (rawOf text ++ .char '"' :: rest) = some (rawOf text, rest) := by
  unfold rawOf
  induction text.toList with
  | nil => rfl
  | cons c text inductionHypothesis =>
    rw [List.flatMap_cons, List.map_append, List.append_assoc, readRaw?_escapeChar, inductionHypothesis,
      Option.map_some]

/-- The symbols of a string stand for it. -/
@[simp] theorem stringOfRaw?_rawOf (text : String) : stringOfRaw? (rawOf text) = some text := by
  have characters (characters : List Char) :
      unescape? ((characters.flatMap escapeChar).map .char) = some characters := by
    induction characters with
    | nil => rfl
    | cons c rest inductionHypothesis =>
      rw [List.flatMap_cons, List.map_append, unescape?_escapeChar, inductionHypothesis, Option.map_some]
  rw [stringOfRaw?, rawOf, characters, Option.map_some, String.ofList_toList]

/-! ### Integers -/

/-- The numeral of an integer. -/
def numeralOf (value : Int) : Numeral where
  negative := value < 0
  whole := (Nat.toDigits 10 value.natAbs).map fun c => c.toNat - '0'.toNat
  fraction := []
  exponent := none

/-- A numeral stands for its integer. -/
@[simp] theorem integer?_numeralOf (value : Int) : (numeralOf value).integer? = some value := by
  have magnitude : Decimal.naturalOfDigits (numeralOf value).whole = value.natAbs := by
    rw [Decimal.naturalOfDigits, numeralOf, List.foldl_map, ← Nat.ofDigitChars_eq_foldl,
      Nat.ofDigitChars_ten_toDigits]
  have noFraction : ¬ ((numeralOf value).fraction ≠ [] ∨ (numeralOf value).exponent.isSome) :=
    not_or.2 ⟨fun some => some rfl, nofun⟩
  unfold Numeral.integer?
  rw [if_neg noFraction, magnitude]
  by_cases negative : value < 0
  · have signed : (numeralOf value).negative = true := decide_eq_true negative
    have nonzero : value.natAbs ≠ 0 := by omega
    dsimp only
    rw [if_pos signed, if_neg nonzero]
    exact congrArg some (by omega)
  · have unsigned : ¬ (numeralOf value).negative = true := fun signed => negative (of_decide_eq_true signed)
    dsimp only
    rw [if_neg unsigned]
    exact congrArg some (by omega)

/-- Where a value may end: with the text, at a comma or at a closing bracket. -/
def Ends : List Symbol → Prop
  | [] => True
  | symbol :: _ => symbol = .char ',' ∨ symbol = .char ']' ∨ symbol = .char '\x7d'

variable {rest : List Symbol}

theorem digit?_of_isDigit {c : Char} (digit : c.isDigit) : digit? (.char c) = some (c.toNat - '0'.toNat) := by
  simp only [Char.isDigit, Bool.and_eq_true, decide_eq_true_eq] at digit
  exact if_pos digit

theorem readDigits_append {digits : List Char} (isDigits : ∀ c ∈ digits, c.isDigit) (ends : Ends rest) :
    readDigits (digits.map .char ++ rest) = (digits.map fun c => c.toNat - '0'.toNat, rest) := by
  induction digits with
  | nil =>
    cases rest with
    | nil => rfl
    | cons symbol rest =>
      have noDigit : digit? symbol = none := by rcases ends with rfl | rfl | rfl <;> rfl
      rw [List.map_nil, List.nil_append, readDigits, noDigit]
      rfl
  | cons c digits inductionHypothesis =>
    rw [List.forall_mem_cons] at isDigits
    rw [List.map_cons, List.cons_append, readDigits, digit?_of_isDigit isDigits.1,
      inductionHypothesis isDigits.2]
    rfl

/-- A positive number does not begin with a zero. -/
theorem exists_toDigits {number : Nat} (positive : 0 < number) :
    ∃ first digits, Nat.toDigits 10 number = first :: digits ∧ first ≠ '0' := by
  induction number using Nat.strongRecOn with
  | ind number inductionHypothesis =>
    by_cases small : number < 10
    · refine ⟨number.digitChar, [], Nat.toDigits_of_lt_base small, fun zero => ?_⟩
      exact (Nat.ne_of_gt positive) (Nat.digitChar_eq_zero.1 zero)
    · obtain ⟨first, digits, written, nonzero⟩ :=
        inductionHypothesis (number / 10) (by omega) (by omega)
      refine ⟨first, digits ++ [(number % 10).digitChar], ?_, nonzero⟩
      rw [Nat.toDigits_of_base_le (by decide) (Nat.not_lt.1 small), written, List.cons_append]

theorem readWhole?_toDigits (number : Nat) (ends : Ends rest) :
    readWhole? ((Nat.toDigits 10 number).map .char ++ rest) =
      some ((Nat.toDigits 10 number).map fun c => c.toNat - '0'.toNat, rest) := by
  rcases Nat.eq_zero_or_pos number with rfl | positive
  · rfl
  · have isDigits : ∀ c ∈ Nat.toDigits 10 number, c.isDigit := fun _ =>
      Nat.isDigit_of_mem_toDigits (by decide) (by decide)
    have read := readDigits_append isDigits ends
    obtain ⟨first, digits, written, nonzero⟩ := exists_toDigits positive
    rw [written, List.map_cons, List.cons_append] at read ⊢
    unfold readWhole?
    split
    case h_1 same =>
      cases same
      exact absurd rfl nonzero
    case h_2 =>
      rw [readSomeDigits?, read]
      rfl

theorem toList_toString (value : Int) :
    (toString value).toList = (if value < 0 then ['-'] else []) ++ Nat.toDigits 10 value.natAbs := by
  rw [Int.toString_eq_repr, Int.repr_eq_if]
  by_cases negative : value < 0
  · rw [if_neg (Int.not_le.2 negative), if_pos negative, String.toList_append, Nat.toList_repr,
      show (-value).toNat = value.natAbs by omega]
    rfl
  · rw [if_pos (Int.not_lt.1 negative), if_neg negative, Nat.toList_repr,
      show value.toNat = value.natAbs by omega, List.nil_append]

/-- An integer is read up to where the value ends. -/
theorem readNumeral?_toString (value : Int) (ends : Ends rest) :
    readNumeral? ((toString value).toList.map .char ++ rest) = some (numeralOf value, rest) := by
  have whole := readWhole?_toDigits value.natAbs ends
  have noFraction : readFraction? rest = some ([], rest) := by
    cases rest with
    | nil => rfl
    | cons symbol rest => rcases ends with rfl | rfl | rfl <;> rfl
  have noExponent : readExponent? rest = some (none, rest) := by
    cases rest with
    | nil => rfl
    | cons symbol rest => rcases ends with rfl | rfl | rfl <;> rfl
  rw [toList_toString, List.map_append, List.append_assoc]
  unfold readNumeral?
  by_cases negative : value < 0
  · rw [if_pos negative]
    simp only [List.map_cons, List.map_nil, List.cons_append, List.nil_append, whole, noFraction, noExponent,
      Option.bind_eq_bind, Option.bind_some, Option.pure_def, numeralOf, negative, decide_true]
  · rw [if_neg negative]
    obtain ⟨first, digits, written⟩ := List.exists_cons_of_ne_nil (@Nat.toDigits_ne_nil value.natAbs 10)
    have digit : first.isDigit :=
      Nat.isDigit_of_mem_toDigits (by decide) (by decide) (written ▸ List.mem_cons_self)
    have noMinus : first ≠ '-' := fun same => by
      rw [same] at digit
      cases digit
    rw [written, List.map_cons, List.cons_append] at whole
    rw [written]
    simp only [List.map_cons, List.map_nil, List.cons_append, List.nil_append]
    simp [noMinus, whole, noFraction, noExponent, numeralOf, negative, written]

end Community.Json
