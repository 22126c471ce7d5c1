/-
This file proves that a date-time is read back from its written form. A number of a fixed width is read as far
as it is wide, whatever follows; a number of any width is read up to a mark that is no digit. The written form
is in UTC, so nothing is moved. What can be written and not be read back is no point in time: a date that the
calendar lacks, a second beyond the day, or a leap second that does not end a minute. No text is read as such.
-/

import Community.Proofs.Time.Calendar
import Community.Time.DateTime

namespace Community

open Community.Text

/-- Is the date-time a point in time? -/
structure DateTime.IsReal (time : DateTime) : Prop where
  date : time.date.isValid
  inDay : time.second < 86400
  inSecond : time.nanos < 2 * DateTime.nanosPerSecond
  /-- A leap second is the last of its minute. -/
  leap : DateTime.nanosPerSecond ≤ time.nanos → time.second % 60 = 59

/-! ### Digits -/

namespace DateTime

variable {c : Char} {digits rest : List Char} {most width value : Nat}

theorem digitOf?_eq_some (digit : c.isDigit) : digitOf? c = some (c.toNat - '0'.toNat) := by
  simp only [Char.isDigit, Bool.and_eq_true, decide_eq_true_eq] at digit
  exact if_pos digit

theorem isBlank_of_isDigit (digit : c.isDigit) : isBlank c = false := by
  simp only [Char.isDigit, Bool.and_eq_true, decide_eq_true_eq, ge_iff_le, UInt32.le_iff_toNat_le] at digit
  have least : 48 ≤ c.toNat := digit.1
  have greatest : c.toNat ≤ 57 := digit.2
  simp only [isBlank, within, blankRanges, List.any_cons, List.any_nil, Bool.or_eq_false_iff,
    Bool.and_eq_false_iff, decide_eq_false_iff_not, and_true]
  and_intros <;> omega

/-- Digits are taken as far as they go, or as many as are wanted. -/
theorem takeDigits_append (isDigits : ∀ c ∈ digits, c.isDigit) (fits : digits.length ≤ most)
    (stops : digits.length = most ∨ rest.head?.bind digitOf? = none) (value : Nat) :
    takeDigits most value (digits ++ rest) = (Nat.ofDigitChars 10 digits value, rest) := by
  induction digits generalizing most value with
  | nil =>
    rw [List.nil_append, Nat.ofDigitChars_nil]
    cases most with
    | zero => rfl
    | succ most =>
      have stops := stops.resolve_left (Nat.succ_ne_zero most).symm
      cases rest with
      | nil => rfl
      | cons c rest =>
        have noDigit : digitOf? c = none := stops
        rw [takeDigits, noDigit]
  | cons c digits inductionHypothesis =>
    cases most with
    | zero => exact absurd fits (Nat.not_succ_le_zero _)
    | succ most =>
      rw [List.forall_mem_cons] at isDigits
      rw [List.cons_append, takeDigits, digitOf?_eq_some isDigits.1, Nat.ofDigitChars_cons]
      exact inductionHypothesis isDigits.2 (Nat.le_of_succ_le_succ fits)
        (stops.imp_left Nat.succ.inj) (10 * value + (c.toNat - '0'.toNat))

theorem readNumber?_append (isDigits : ∀ c ∈ digits, c.isDigit) (nonempty : digits ≠ [])
    (fits : digits.length ≤ most) (stops : digits.length = most ∨ rest.head?.bind digitOf? = none) :
    readNumber? most (digits ++ rest) = some (Nat.ofDigitChars 10 digits 0, rest) := by
  rw [← takeDigits_append isDigits fits stops 0]
  obtain ⟨c, digits, rfl⟩ := List.exists_cons_of_ne_nil nonempty
  rw [List.cons_append, readNumber?, digitOf?_eq_some (isDigits c List.mem_cons_self)]
  rfl

theorem toList_padded (width value : Nat) : (Date.padded width value).toList =
    List.replicate (width - (Nat.toDigits 10 value).length) '0' ++ Nat.toDigits 10 value := by
  unfold Date.padded
  rw [String.toList_ofList]

theorem isDigit_of_mem_padded (member : c ∈ (Date.padded width value).toList) : c.isDigit := by
  rw [toList_padded] at member
  rcases List.mem_append.1 member with zero | digit
  · rw [List.eq_of_mem_replicate zero]
    rfl
  · exact Nat.isDigit_of_mem_toDigits (by decide) (by decide) digit

theorem padded_ne_nil : (Date.padded width value).toList ≠ [] := by
  rw [toList_padded]
  exact List.append_ne_nil_of_right_ne_nil _ Nat.toDigits_ne_nil

theorem ofDigitChars_padded : Nat.ofDigitChars 10 (Date.padded width value).toList 0 = value := by
  rw [toList_padded, Nat.ofDigitChars_append, Nat.ofDigitChars_replicate_zero, Nat.mul_zero,
    Nat.ofDigitChars_ten_toDigits]

theorem length_padded (positive : 0 < width) (fits : value < 10 ^ width) :
    (Date.padded width value).toList.length = width := by
  have short := (Nat.length_toDigits_le_iff (by decide) positive).2 fits
  rw [toList_padded, List.length_append, List.length_replicate]
  omega

/-- A number of a fixed width is read, whatever follows. -/
theorem readNumber?_padded (positive : 0 < width) (fits : value < 10 ^ width) (rest : List Char) :
    readNumber? width ((Date.padded width value).toList ++ rest) = some (value, rest) := by
  have length := length_padded positive fits
  rw [readNumber?_append (fun _ => isDigit_of_mem_padded) padded_ne_nil length.le (Or.inl length),
    ofDigitChars_padded]

theorem skipBlanks_padded (width value : Nat) (rest : List Char) :
    skipBlanks ((Date.padded width value).toList ++ rest) = (Date.padded width value).toList ++ rest := by
  obtain ⟨c, digits, padded⟩ := List.exists_cons_of_ne_nil (@padded_ne_nil width value)
  have member : c ∈ (Date.padded width value).toList := padded ▸ List.mem_cons_self
  rw [padded, List.cons_append]
  exact skipBlanks_of_not_blank (isBlank_of_isDigit (isDigit_of_mem_padded member))

theorem readField?_padded (positive : 0 < width) (fits : value < 10 ^ width) (rest : List Char) :
    readField? width ((Date.padded width value).toList ++ rest) = some (value, rest) := by
  rw [readField?, skipBlanks_padded, readNumber?_padded positive fits]

/-! ### Dates -/

/-- A mark is read where it stands. -/
theorem afterMark?_cons (visible : isBlank c = false) (rest : List Char) :
    afterMark? c (c :: rest) = some rest := by
  rw [afterMark?, skipBlanks_of_not_blank visible]
  exact if_pos rfl

theorem readYear?_minus (text : List Char) : readYear? ('-' :: text) =
    (readNumber? text.length text).map fun (year, rest) => (-(year : Int), rest) := rfl

theorem readYear?_plus (text : List Char) : readYear? ('+' :: text) =
    (readNumber? text.length text).map fun (year, rest) => ((year : Int), rest) := rfl

/-- A year is read up to the mark after it. -/
theorem readYear?_writeYear (year : Int) (rest : List Char) :
    readYear? ((Date.writeYear year).toList ++ '-' :: rest) = some (year, '-' :: rest) := by
  unfold Date.writeYear
  split
  case isTrue short =>
    have fits : year.toNat < 10 ^ 4 := by omega
    obtain ⟨first, digits, padded⟩ := List.exists_cons_of_ne_nil (@padded_ne_nil 4 year.toNat)
    have digit : first.isDigit := isDigit_of_mem_padded (padded ▸ List.mem_cons_self)
    have read := readNumber?_padded (by decide) fits ('-' :: rest)
    unfold readYear?
    rw [skipBlanks_padded]
    rw [padded, List.cons_append] at read ⊢
    split
    case h_1 same => cases same; cases digit
    case h_2 same => cases same; cases digit
    case h_3 =>
      rw [read]
      exact congrArg (fun number => some (number, '-' :: rest)) (Int.toNat_of_nonneg short.1)
  case isFalse long =>
    have read : readNumber? ((Date.padded 4 year.natAbs).toList ++ '-' :: rest).length
        ((Date.padded 4 year.natAbs).toList ++ '-' :: rest) = some (year.natAbs, '-' :: rest) := by
      rw [readNumber?_append (fun _ => isDigit_of_mem_padded) padded_ne_nil
        (List.length_append ▸ Nat.le_add_right _ _) (Or.inr rfl), ofDigitChars_padded]
    rw [String.toList_append]
    split
    case isTrue negative =>
      show readYear? ('-' :: ((Date.padded 4 year.natAbs).toList ++ '-' :: rest)) = _
      rw [readYear?_minus, read]
      exact congrArg (fun number => some (number, '-' :: rest)) (by omega)
    case isFalse positive =>
      show readYear? ('+' :: ((Date.padded 4 year.natAbs).toList ++ '-' :: rest)) = _
      rw [readYear?_plus, read]
      exact congrArg (fun number => some (number, '-' :: rest)) (by omega)

theorem readDate?_write {date : Date} (month : date.month < 100) (day : date.day < 100) (rest : List Char) :
    readDate? (date.write.toList ++ rest) = some (date, rest) := by
  have written : date.write.toList ++ rest = (Date.writeYear date.year).toList ++
      '-' :: ((Date.padded 2 date.month).toList ++ '-' :: ((Date.padded 2 date.day).toList ++ rest)) := by
    simp [Date.write, String.toList_append]
  have dash : isBlank '-' = false := by decide
  rw [written]
  simp only [readDate?, readYear?_writeYear, afterMark?_cons dash,
    readField?_padded (by decide : 0 < 2) month, readField?_padded (by decide : 0 < 2) day, Option.bind_eq_bind,
    Option.bind_some, Option.pure_def]

/-! ### Times of day -/

/-- So many digits of a fraction, the others being zero. -/
theorem readFraction?_padded (positive : 0 < width) (short : width ≤ 9) (fits : value < 10 ^ width) :
    readFraction? (('.' :: (Date.padded width value).toList) ++ ['Z']) =
      some (value * 10 ^ (9 - width), ['Z']) := by
  have length := length_padded positive fits
  have isDigits : ∀ c ∈ (Date.padded width value).toList, c.isDigit := fun _ => isDigit_of_mem_padded
  have number : readNumber? ((Date.padded width value).toList ++ ['Z']).length
      ((Date.padded width value).toList ++ ['Z']) = some (value, ['Z']) := by
    rw [readNumber?_append isDigits padded_ne_nil (List.length_append ▸ Nat.le_add_right _ _) (Or.inr rfl),
      ofDigitChars_padded]
  have digits : takeDigits 9 0 ((Date.padded width value).toList ++ ['Z']) = (value, ['Z']) := by
    rw [takeDigits_append isDigits (length.trans_le short) (Or.inr rfl), ofDigitChars_padded]
  have count : ((Date.padded width value).toList ++ ['Z']).length - ['Z'].length = width := by
    rw [List.length_append, Nat.add_sub_cancel, length]
  rw [List.cons_append, readFraction?]
  simp only [number, digits, count, Option.bind_eq_bind, Option.bind_some, Option.pure_def]
  rfl

/-- A fraction is read up to the mark of UTC. -/
theorem readFraction?_writeFraction {nanos : Nat} (small : nanos < nanosPerSecond) :
    readFraction? ((writeFraction nanos).toList ++ ['Z']) = some (nanos, ['Z']) := by
  have bound : nanos < 1000000000 := small
  unfold writeFraction
  split
  case isTrue none => rw [none]; rfl
  split
  case isTrue whole =>
    rw [String.toList_append]
    exact (readFraction?_padded (by decide) (by decide) (by omega)).trans (by congr 2; omega)
  split
  case isTrue whole =>
    rw [String.toList_append]
    exact (readFraction?_padded (by decide) (by decide) (by omega)).trans (by congr 2; omega)
  case isFalse =>
    rw [String.toList_append]
    exact (readFraction?_padded (by decide) (by decide) (by omega)).trans (by congr 2; omega)

/-- A time of day is read up to the mark of UTC, a leap second as the sixtieth of its minute. -/
theorem readTime?_write {time : DateTime} (real : time.IsReal) :
    readTime? ((Date.padded 2 (time.second / 3600)).toList ++ ':' ::
        ((Date.padded 2 (time.second / 60 % 60)).toList ++ ':' ::
          ((Date.padded 2 (time.second % 60 + time.nanos / nanosPerSecond)).toList ++
            ((writeFraction (time.nanos % nanosPerSecond)).toList ++ ['Z'])))) =
      some (time.second, time.nanos, ['Z']) := by
  obtain ⟨-, inDay, inSecond, leap⟩ := real
  have colon : isBlank ':' = false := by decide
  have leaps : time.nanos / nanosPerSecond ≤ 1 := by
    unfold nanosPerSecond at inSecond ⊢
    omega
  have fraction := readFraction?_writeFraction (Nat.mod_lt time.nanos (by decide : 0 < nanosPerSecond))
  have hour : time.second / 3600 < 10 ^ 2 := by omega
  have minute : time.second / 60 % 60 < 10 ^ 2 := by omega
  have second : time.second % 60 + time.nanos / nanosPerSecond < 10 ^ 2 := by omega
  have inRange : time.second / 3600 < 24 ∧ time.second / 60 % 60 < 60 ∧
      time.second % 60 + time.nanos / nanosPerSecond ≤ 60 := by omega
  rw [readTime?]
  simp only [readField?_padded (by decide : 0 < 2) hour, readField?_padded (by decide : 0 < 2) minute,
    readField?_padded (by decide : 0 < 2) second, afterMark?_cons colon, fraction, Option.bind_eq_bind,
    Option.bind_some, Option.pure_def, if_pos inRange]
  by_cases isLeap : nanosPerSecond ≤ time.nanos
  · have last := leap isLeap
    have one : time.nanos / nanosPerSecond = 1 :=
      Nat.le_antisymm leaps ((Nat.le_div_iff_mul_le (by decide)).2 (by rwa [Nat.one_mul]))
    have nanos : time.nanos % nanosPerSecond + nanosPerSecond = time.nanos := by
      have := Nat.mod_add_div time.nanos nanosPerSecond
      rwa [one, Nat.mul_one] at this
    have seconds : time.second / 3600 * 3600 + time.second / 60 % 60 * 60 + 59 = time.second := by omega
    rw [one, last, if_pos rfl, nanos, seconds]
  · have ordinary : time.nanos < nanosPerSecond := Nat.not_le.1 isLeap
    have seconds : time.second / 3600 * 3600 + time.second / 60 % 60 * 60 + time.second % 60 = time.second := by
      omega
    rw [Nat.div_eq_of_lt ordinary, Nat.mod_eq_of_lt ordinary, Nat.add_zero, if_neg (by omega), seconds]

/-! ### Whole date-times -/

/-- In UTC nothing is moved. -/
theorem ofLocal?_utc {time : DateTime} (real : time.IsReal) :
    ofLocal? time.date time.second time.nanos 0 = some time := by
  have inDay : (time.second : Int) < 86400 := Int.ofNat_lt.2 real.inDay
  have nonneg : (0 : Int) ≤ time.second := Int.natCast_nonneg _
  have day : (time.second - 0 : Int).fdiv 86400 = 0 := by
    rw [Int.sub_zero, Int.fdiv_eq_ediv_of_nonneg _ (by decide), Int.ediv_eq_zero_of_lt nonneg inDay]
  have second : (time.second - 0 : Int).fmod 86400 = time.second := by
    rw [Int.sub_zero, Int.fmod_eq_emod_of_nonneg _ (by decide), Int.emod_eq_of_lt nonneg inDay]
  unfold ofLocal?
  simp only [day, second, Int.add_zero, Date.ofDays_toDays real.date, real.date, Bool.and_self, if_true,
    Int.toNat_natCast]

/-- A date-time is read back from its written form. -/
theorem ofString?_write {time : DateTime} (real : time.IsReal) : ofString? time.write = some time := by
  have valid := real.date
  simp only [Date.isValid, Bool.and_eq_true, decide_eq_true_eq] at valid
  obtain ⟨⟨-, atLeast⟩, atMost⟩ := valid
  obtain ⟨-, month, day, -⟩ := Date.month_of_le_daysInMonth atLeast atMost
  have written : time.write.toList = time.date.write.toList ++ 'T' ::
      ((Date.padded 2 (time.second / 3600)).toList ++ ':' ::
        ((Date.padded 2 (time.second / 60 % 60)).toList ++ ':' ::
          ((Date.padded 2 (time.second % 60 + time.nanos / nanosPerSecond)).toList ++
            ((writeFraction (time.nanos % nanosPerSecond)).toList ++ ['Z'])))) := by
    simp [write, String.toList_append]
  rw [ofString?, ofChars?, written, readDate?_write (by omega) (by omega)]
  simp only [Option.bind_eq_bind, Option.bind_some, true_or, if_true, readTime?_write real]
  exact ofLocal?_utc real

/-! ### What is read -/

section Read

variable {after text : List Char} {more nanos second : Nat} {offset : Int}

theorem digitOf?_lt {digit : Nat} (found : digitOf? c = some digit) : digit < 10 := by
  unfold digitOf? at found
  split at found
  · next between =>
    cases found
    have atMost : c.toNat ≤ 57 := between.2
    show c.toNat - 48 < 10
    omega
  · cases found

/-- The digits that are taken make a number of as many digits. -/
theorem takeDigits_bounds (most value : Nat) (text : List Char) :
    ∃ taken ≤ most, (takeDigits most value text).2.length + taken = text.length ∧
      (takeDigits most value text).1 < (value + 1) * 10 ^ taken := by
  fun_induction takeDigits most value text with
  | case1 | case2 | case4 => exact ⟨0, Nat.zero_le _, rfl, by omega⟩
  | case3 most value c rest digit found inductionHypothesis =>
    obtain ⟨taken, atMost, length, bound⟩ := inductionHypothesis
    refine ⟨taken + 1, Nat.succ_le_succ atMost, by rw [List.length_cons, ← length, Nat.add_assoc], ?_⟩
    have small := digitOf?_lt found
    calc (takeDigits most (10 * value + digit) rest).1
      _ < (10 * value + digit + 1) * 10 ^ taken := bound
      _ ≤ (value + 1) * 10 * 10 ^ taken := Nat.mul_le_mul_right _ (by omega)
      _ = (value + 1) * 10 ^ (taken + 1) := by rw [Nat.mul_assoc, Nat.pow_succ']

/-- Who may take more digits leaves no more of the text. -/
theorem length_takeDigits_le (text : List Char) (fewer : min most text.length ≤ more) (value other : Nat) :
    (takeDigits more other text).2.length ≤ (takeDigits most value text).2.length := by
  have shorter (most value : Nat) (text : List Char) : (takeDigits most value text).2.length ≤ text.length := by
    obtain ⟨taken, -, length, -⟩ := takeDigits_bounds most value text
    omega
  fun_induction takeDigits most value text generalizing more other with
  | case1 | case2 | case4 => exact shorter ..
  | case3 most value c rest digit found inductionHypothesis =>
    rw [List.length_cons] at fewer
    obtain ⟨more, rfl⟩ := Nat.exists_eq_add_one_of_ne_zero (show more ≠ 0 by omega)
    rw [takeDigits, found]
    exact inductionHypothesis (by omega) _

theorem readNumber?_eq_some (read : readNumber? most text = some (value, after)) :
    takeDigits most 0 text = (value, after) := by
  unfold readNumber? at read
  split at read
  · cases read
  · split at read
    · exact Option.some.inj read
    · cases read

/-- A fraction is less than a whole second. -/
theorem lt_of_readFraction? (read : readFraction? text = some (nanos, after)) : nanos < nanosPerSecond := by
  unfold readFraction? at read
  split at read
  · next rest =>
    simp only [Option.bind_eq_bind, Option.bind_eq_some_iff, Option.pure_def, Option.some.injEq, Prod.mk.injEq,
      Prod.exists] at read
    obtain ⟨value, after, number, rfl, -⟩ := read
    obtain ⟨taken, atMost, length, bound⟩ := takeDigits_bounds 9 0 rest
    have further : after.length ≤ (takeDigits 9 0 rest).2.length := by
      have taken := length_takeDigits_le rest (Nat.min_le_right 9 _) 0 0
      rwa [readNumber?_eq_some number] at taken
    have exponent : taken + (9 - (rest.length - after.length)) ≤ 9 := by omega
    calc (takeDigits 9 0 rest).1 * Nat.pow 10 (9 - (rest.length - after.length))
      _ < (0 + 1) * 10 ^ taken * 10 ^ (9 - (rest.length - after.length)) :=
        Nat.mul_lt_mul_of_pos_right bound (Nat.pow_pos (by decide))
      _ = 10 ^ (taken + (9 - (rest.length - after.length))) := by rw [Nat.zero_add, Nat.one_mul, Nat.pow_add]
      _ ≤ 10 ^ 9 := Nat.pow_le_pow_right (by decide) exponent
  · cases read
    decide

/-- What is read as a time of day is one. -/
theorem readTime?_eq_some (read : readTime? text = some (second, nanos, after)) :
    second < 86400 ∧ nanos < 2 * nanosPerSecond ∧ (nanosPerSecond ≤ nanos → second % 60 = 59) := by
  simp only [readTime?, Option.bind_eq_bind, Option.bind_eq_some_iff, Prod.exists, Option.pure_def] at read
  obtain ⟨hour, _, _, _, _, minute, _, _, _, _, tick, _, _, fraction, _, small, read⟩ := read
  have bound := lt_of_readFraction? small
  split at read
  · next inRange =>
    split at read
    · cases read
      omega
    · cases read
      refine ⟨by omega, by omega, fun leap => absurd bound (Nat.not_lt.2 leap)⟩
  · cases read

/-- An offset is a number of whole minutes. -/
theorem dvd_of_readOffset? (read : readOffset? text = some (offset, after)) : 60 ∣ offset := by
  unfold readOffset? at read
  extract_lets amount at read
  have minutes {rest : List Char} {seconds : Nat} (read : amount rest = some (seconds, after)) :
      (60 : Int) ∣ seconds := by
    simp only [amount, Option.bind_eq_bind, Option.bind_eq_some_iff, Prod.exists, Option.pure_def] at read
    obtain ⟨hours, _, -, minutes, _, -, read⟩ := read
    split at read
    · cases read
      omega
    · cases read
  have ahead {rest : List Char}
      (read : (amount rest).map (fun (seconds, rest) => ((seconds : Int), rest)) = some (offset, after)) :
      60 ∣ offset := by
    simp only [Option.map_eq_some_iff, Prod.exists, Prod.mk.injEq] at read
    obtain ⟨seconds, _, amounts, rfl, rfl⟩ := read
    exact minutes amounts
  have behind {rest : List Char}
      (read : (amount rest).map (fun (seconds, rest) => (-(seconds : Int), rest)) = some (offset, after)) :
      60 ∣ offset := by
    simp only [Option.map_eq_some_iff, Prod.exists, Prod.mk.injEq] at read
    obtain ⟨seconds, _, amounts, rfl, rfl⟩ := read
    exact Int.dvd_neg.2 (minutes amounts)
  split at read
  · cases read
    decide
  · cases read
    decide
  · exact ahead read
  · exact behind read
  · exact behind read
  · split at read
    · cases read
      decide
    · cases read
  · cases read

theorem isReal_of_ofLocal? {date : Date} {time : DateTime} (inSecond : nanos < 2 * nanosPerSecond)
    (leap : nanosPerSecond ≤ nanos → second % 60 = 59) (minutes : 60 ∣ offset)
    (moved : ofLocal? date second nanos offset = some time) : time.IsReal := by
  unfold ofLocal? at moved
  dsimp only at moved
  split at moved
  · next valid =>
    cases moved
    have inDay : 0 ≤ ((second : Int) - offset).fmod 86400 ∧ ((second : Int) - offset).fmod 86400 < 86400 := by
      rw [Int.fmod_eq_emod_of_nonneg _ (by decide)]
      omega
    refine ⟨(Bool.and_eq_true_iff.1 valid).2, by simp only; omega, inSecond, fun leaps => ?_⟩
    have last := leap leaps
    simp only
    rw [Int.fmod_eq_emod_of_nonneg _ (by decide)] at inDay ⊢
    omega
  · cases moved

/-- What is read as a date-time is a point in time. -/
theorem isReal_of_ofString? {text : String} {time : DateTime} (read : ofString? text = some time) :
    time.IsReal := by
  simp only [ofString?, ofChars?, Option.bind_eq_bind, Option.bind_eq_some_iff, Prod.exists] at read
  obtain ⟨date, rest, -, read⟩ := read
  cases rest with
  | nil => cases read
  | cons c rest =>
    dsimp only at read
    split at read
    · simp only [Option.bind_some, Option.bind_eq_some_iff, Prod.exists] at read
      obtain ⟨second, nanos, _, timeOfDay, offset, _, minutes, read⟩ := read
      obtain ⟨-, inSecond, leap⟩ := readTime?_eq_some timeOfDay
      split at read
      · exact isReal_of_ofLocal? inSecond leap (dvd_of_readOffset? minutes) read
      · cases read
    · cases read

end Read

end DateTime

end Community
