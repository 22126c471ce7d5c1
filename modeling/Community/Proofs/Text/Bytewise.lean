/-
This file proves that texts are ordered by their bytes. Texts are compared character by character; the encoding
of characters is such that comparing the encoded bytes comes to the same. Two characters have encodings that
differ first in a byte of the same order, so neither encoding is a prefix of the other, and what follows in
the text has no say.
-/

import Mathlib.Data.List.Lex
import Mathlib.Data.Char

namespace Community.Text

/-- The bytes of a text. -/
def bytes (text : String) : List UInt8 :=
  text.toByteArray.data.toList

/-- The first difference of two lists is one of a lesser and a greater element. -/
def Precedes (lesser greater : List UInt8) : Prop :=
  ∃ shared low lows high highs, lesser = shared ++ low :: lows ∧ greater = shared ++ high :: highs ∧ low < high

namespace Precedes

variable {lesser greater : List UInt8} {low high byte : UInt8}

theorem here (less : low < high) (lows highs : List UInt8) : Precedes (low :: lows) (high :: highs) :=
  ⟨[], low, lows, high, highs, rfl, rfl, less⟩

theorem later (precedes : Precedes lesser greater) (byte : UInt8) :
    Precedes (byte :: lesser) (byte :: greater) := by
  obtain ⟨shared, low, lows, high, highs, rfl, rfl, less⟩ := precedes
  exact ⟨byte :: shared, low, lows, high, highs, rfl, rfl, less⟩

/-- Whatever follows, the difference stays. -/
theorem append_lt (precedes : Precedes lesser greater) (first second : List UInt8) :
    lesser ++ first < greater ++ second := by
  obtain ⟨shared, low, lows, high, highs, rfl, rfl, less⟩ := precedes
  rw [List.append_assoc, List.append_assoc]
  exact List.append_left_lt (List.Lex.rel less)

/-- Two lists differ first at the front, or the front is the same and they differ later. -/
theorem cons_of_le {least most : Nat} (le : least ≤ most) (small : most < 256)
    (rest : least = most → Precedes lesser greater) :
    Precedes (UInt8.ofNat least :: lesser) (UInt8.ofNat most :: greater) := by
  rcases Nat.lt_or_eq_of_le le with less | rfl
  · refine here ?_ _ _
    rw [UInt8.lt_iff_toNat_lt, UInt8.toNat_ofNat', UInt8.toNat_ofNat']
    omega
  · exact (rest rfl).later _

end Precedes

/-- Of two characters the encodings differ first in a byte of the same order. -/
theorem encode_precedes {first second : Char} (less : first < second) :
    Precedes (String.utf8EncodeChar first) (String.utf8EncodeChar second) := by
  have codes : first.val.toNat < second.val.toNat := less
  have limit : second.val.toNat < 0x110000 := by
    have := second.valid
    simp only [UInt32.isValidChar, Nat.isValidChar] at this
    omega
  unfold String.utf8EncodeChar
  generalize first.val.toNat = low at codes
  generalize second.val.toNat = high at codes limit
  dsimp only
  -- an encoding of more bytes begins with a greater one; encodings of one length are compared digit by digit
  by_cases sameLength : (low ≤ 127 ↔ high ≤ 127) ∧ (low ≤ 2047 ↔ high ≤ 2047) ∧ (low ≤ 65535 ↔ high ≤ 65535)
  · simp only [sameLength]
    split_ifs
    · exact Precedes.cons_of_le (by omega) (by omega) fun _ => by omega
    · exact Precedes.cons_of_le (by omega) (by omega) fun _ =>
        Precedes.cons_of_le (by omega) (by omega) fun _ => by omega
    · exact Precedes.cons_of_le (by omega) (by omega) fun _ =>
        Precedes.cons_of_le (by omega) (by omega) fun _ =>
        Precedes.cons_of_le (by omega) (by omega) fun _ => by omega
    · exact Precedes.cons_of_le (by omega) (by omega) fun _ =>
        Precedes.cons_of_le (by omega) (by omega) fun _ =>
        Precedes.cons_of_le (by omega) (by omega) fun _ =>
        Precedes.cons_of_le (by omega) (by omega) fun _ => by omega
  · split_ifs
    all_goals exact Precedes.cons_of_le (by omega) (by omega) fun _ => by omega

/-- Of two lists of characters the encodings are in the same order. -/
theorem encode_lt {first second : List Char} (less : first < second) :
    first.flatMap String.utf8EncodeChar < second.flatMap String.utf8EncodeChar := by
  induction less with
  | nil =>
    rw [List.flatMap_nil, List.flatMap_cons]
    obtain ⟨byte, rest, bytes⟩ := List.exists_cons_of_ne_nil
      (List.append_ne_nil_of_left_ne_nil String.utf8EncodeChar_ne_nil (List.flatMap _ _))
    rw [bytes]
    exact List.nil_lt_cons byte rest
  | cons _ inductionHypothesis =>
    rw [List.flatMap_cons, List.flatMap_cons]
    exact List.append_left_lt inductionHypothesis
  | rel less =>
    rw [List.flatMap_cons, List.flatMap_cons]
    exact (encode_precedes less).append_lt _ _

theorem bytes_eq (text : String) : bytes text = text.toList.flatMap String.utf8EncodeChar := by
  rw [bytes, ← String.utf8Encode_toList, List.utf8Encode, List.data_toByteArray]

/-- Texts are in the order of their bytes. -/
theorem bytes_lt_iff (first second : String) : bytes first < bytes second ↔ first < second := by
  simp only [bytes_eq, String.lt_iff]
  refine ⟨fun less => ?_, encode_lt⟩
  rcases lt_trichotomy first.toList second.toList with here | same | greater
  · exact here
  · rw [same] at less
    exact absurd less (List.lt_irrefl _)
  · exact absurd less (List.lt_asymm (encode_lt greater))

end Community.Text
