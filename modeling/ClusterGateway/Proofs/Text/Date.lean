import ClusterGateway.Proofs.Text.Decimal
import ClusterGateway.Timestamp

/-! # Reading back points in time

What a clock shows is written as a text that is read as the same point in time.
-/

namespace ClusterGateway.Timestamp

/-- A point in time that a clock can show, in a year that can be read. -/
structure Valid (t : Timestamp) : Prop where
  year : -262143 ≤ t.year ∧ t.year ≤ 262142
  month : 1 ≤ t.month ∧ t.month ≤ 12
  day : 1 ≤ t.day ∧ t.day ≤ daysIn t.year t.month
  hour : t.hour ≤ 23
  minute : t.minute ≤ 59
  second : t.second ≤ 60
  nano : t.nano < 10 ^ 9

/-- The beginning of the epoch is a valid point in time. -/
theorem valid_epoch : epoch.Valid := by
  refine ⟨?_, ?_, ?_, ?_, ?_, ?_, ?_⟩ <;> decide

/-! ### Digits -/

/-- The digits of a number with zeros in front up to a width. -/
def paddedDigits (width n : Nat) : List Char :=
  List.replicate (width - (decimalDigits n).length) '0' ++ decimalDigits n

theorem toList_padded (width n : Nat) : (padded width n).toList = paddedDigits width n :=
  String.toList_ofList

/-- A number with zeros in front is written in digits. -/
theorem isDigit_of_mem_paddedDigits {width n : Nat} {c : Char} (member : c ∈ paddedDigits width n) :
    c.isDigit = true := by
  rcases List.mem_append.1 member with zeros | digits
  · rw [List.eq_of_mem_replicate zeros]
    rfl
  · exact isDigit_of_mem_decimalDigits digits

theorem paddedDigits_ne_nil (width n : Nat) : paddedDigits width n ≠ [] := by
  simp [paddedDigits, decimalDigits_ne_nil]

/-- The zeros in front do not change the value of a number. -/
theorem value_paddedDigits (width n : Nat) : value (paddedDigits width n) = n := by
  have zeros (k : Nat) : (List.replicate k '0').foldl
      (fun n c => 10 * n + (c.toNat - 0x30)) 0 = 0 := by
    induction k with
    | zero => rfl
    | succ k ih => exact ih
  rw [value, paddedDigits, List.foldl_append, zeros]
  exact decimalValue_decimalDigits n

/-- A number below the power of the width is written in just so many digits. -/
theorem length_paddedDigits {width n : Nat} (positive : 0 < width) (small : n < 10 ^ width) :
    (paddedDigits width n).length = width := by
  have fits := length_decimalDigits_le positive small
  rw [paddedDigits, List.length_append, List.length_replicate]
  omega

/-- There is no blank to be skipped before a solid character. -/
theorem skipBlank_cons {c : Char} (solid : Text.isBlank c = false) (rest : List Char) :
    skipBlank (c :: rest) = c :: rest := by
  rw [skipBlank, List.dropWhile_cons, solid]
  rfl

/-- There is no blank to be skipped before digits. -/
theorem skipBlank_digits {digits : List Char} (all : ∀ c ∈ digits, c.isDigit = true)
    (present : digits ≠ []) (rest : List Char) : skipBlank (digits ++ rest) = digits ++ rest := by
  cases digits with
  | nil => exact absurd rfl present
  | cons c digits => exact skipBlank_cons (Text.isBlank_of_digit (all c List.mem_cons_self)) _

/-- A number ends where its width ends or where no digit follows. -/
theorem number?_digits (width : Nat) {digits : List Char} (rest : List Char)
    (all : ∀ c ∈ digits, c.isDigit = true) (present : digits ≠ []) (fits : digits.length ≤ width)
    (ends : digits.length = width ∨ ∀ c ∈ rest.head?, c.isDigit = false) :
    number? width (digits ++ rest) = some (value digits, rest) := by
  have stop : (rest.take (width - digits.length)).takeWhile Char.isDigit = [] := by
    cases rest with
    | nil => simp
    | cons c rest =>
        rcases ends with full | other
        · simp [full]
        · cases width - digits.length with
          | zero => rfl
          | succ k => simp [other c rfl]
  have taken : ((digits ++ rest).take width).takeWhile Char.isDigit = digits := by
    rw [List.take_append, List.take_of_length_le fits, List.takeWhile_append_of_pos all, stop,
      List.append_nil]
  simp only [number?, taken, List.isEmpty_iff, present, ↓reduceIte, List.drop_left]

/-- A number of two digits is read back from them. -/
theorem pair?_padded {n : Nat} (small : n < 100) (rest : List Char) :
    pair? (paddedDigits 2 n ++ rest) = some (n, rest) := by
  have all : ∀ c ∈ paddedDigits 2 n, c.isDigit = true := fun c => isDigit_of_mem_paddedDigits
  have width := length_paddedDigits (by decide : 0 < 2) small
  rw [pair?, skipBlank_digits all (paddedDigits_ne_nil 2 n),
    number?_digits 2 rest all (paddedDigits_ne_nil 2 n) (Nat.le_of_eq width) (Or.inl width),
    value_paddedDigits]

/-- A mark that is there is read. -/
theorem mark?_cons {c : Char} (solid : Text.isBlank c = false) (rest : List Char) :
    mark? c (c :: rest) = some rest := by
  rw [mark?, skipBlank_cons solid]
  exact if_pos rfl

/-! ### Years and fractions -/

/-- A year is followed by a stroke. -/
theorem year?_yearText (year : Int) (rest : List Char) :
    year? ((yearText year).toList ++ '-' :: rest) = some (year, '-' :: rest) := by
  have all (n : Nat) : ∀ c ∈ paddedDigits 4 n, c.isDigit = true :=
    fun c => isDigit_of_mem_paddedDigits
  rw [yearText]
  split
  · next inside =>
    have small : year.toNat < 10 ^ 4 := by omega
    have width := length_paddedDigits (by decide : 0 < 4) small
    have plain := number?_digits 4 ('-' :: rest) (all year.toNat) (paddedDigits_ne_nil 4 _)
       (Nat.le_of_eq width) (Or.inl width)
    have back : (year.toNat : Int) = year := Int.toNat_of_nonneg inside.1
    rw [toList_padded, year?, skipBlank_digits (all _) (paddedDigits_ne_nil 4 _)]
    -- The first character is a digit, so it is no sign.
    cases digits : paddedDigits 4 year.toNat with
    | nil => exact absurd digits (paddedDigits_ne_nil 4 _)
    | cons c more =>
        have digit : c.isDigit = true := all year.toNat c (digits ▸ List.mem_cons_self)
        rw [digits, List.cons_append] at plain
        rw [List.cons_append]
        split
        · next same => cases same; exact absurd digit (by decide)
        · next same => cases same; exact absurd digit (by decide)
        · rw [plain, ← digits, value_paddedDigits, Option.map_some, back]
  · next outside =>
    have far := number?_digits (paddedDigits 4 year.natAbs ++ '-' :: rest).length ('-' :: rest)
      (all year.natAbs) (paddedDigits_ne_nil 4 _)
      (by rw [List.length_append]; omega) (Or.inr fun c first => by cases first; rfl)
    rw [value_paddedDigits] at far
    rw [String.toList_append, toList_padded, List.append_assoc]
    by_cases negative : year < 0
    · rw [if_pos negative]
      refine (congrArg (Option.map _) far).trans ?_
      rw [Option.map_some, show -(year.natAbs : Int) = year by omega]
    · rw [if_neg negative]
      refine (congrArg (Option.map _) far).trans ?_
      rw [Option.map_some, show (year.natAbs : Int) = year by omega]

/-- A fraction of a second is followed by the letter of Greenwich. -/
theorem fraction?_fractionText {nano : Nat} (small : nano < 10 ^ 9) :
    fraction? ((fractionText nano).toList ++ ['Z']) = some (nano, ['Z']) := by
  have places {width n : Nat} (positive : 0 < width) (most : width ≤ 9) (fits : n < 10 ^ width) :
      fraction? (("." ++ padded width n).toList ++ ['Z']) =
        some (n * 10 ^ (9 - width), ['Z']) := by
    have length := length_paddedDigits positive fits
    have all : ∀ c ∈ paddedDigits width n, c.isDigit = true :=
      fun c => isDigit_of_mem_paddedDigits
    have read := number?_digits 9 ['Z'] all (paddedDigits_ne_nil width n)
      (Nat.le_trans (Nat.le_of_eq length) most) (Or.inr fun c first => by cases first; rfl)
    have taken : (paddedDigits width n ++ ['Z']).take
        ((paddedDigits width n ++ ['Z']).length - ['Z'].length) = paddedDigits width n := by
      rw [List.length_append, Nat.add_sub_cancel, List.take_left]
    rw [String.toList_append, toList_padded]
    change fraction? ('.' :: (paddedDigits width n ++ ['Z'])) = _
    rw [fraction?, read]
    change some (value ((paddedDigits width n ++ ['Z']).take _) * _, _) = _
    rw [taken, value_paddedDigits, length]
    rfl
  rw [fractionText]
  split
  · next zero => rw [zero]; rfl
  split
  · next millis => rw [places (by decide) (by decide) (by omega)]; congr 2; omega
  split
  · next micros => rw [places (by decide) (by decide) (by omega)]; congr 2; omega
  · rw [places (by decide) (by decide) small]
    congr 2
    omega

/-- What a clock shows is read back from its text. -/
theorem parse?_text {t : Timestamp} (valid : t.Valid) : parse? t.text = some t := by
  obtain ⟨year, month, day, hour, minute, second, nano⟩ := t
  have days : daysIn year month ≤ 31 := by
    rw [daysIn]
    split
    · split <;> decide
    split <;> decide
  obtain ⟨years, months, someDay, hours, minutes, seconds, nanos⟩ := valid
  dsimp only at years months someDay hours minutes seconds nanos
  have whole : (text ⟨year, month, day, hour, minute, second, nano⟩).toList =
      (yearText year).toList ++ '-' :: (paddedDigits 2 month ++ '-' :: (paddedDigits 2 day ++
        'T' :: (paddedDigits 2 hour ++ ':' :: (paddedDigits 2 minute ++ ':' ::
          (paddedDigits 2 second ++ ((fractionText nano).toList ++ ['Z'])))))) := by
    simp [text, plainText, toList_padded]
  have stroke : Text.isBlank '-' = false := by decide
  have colon : Text.isBlank ':' = false := by decide
  have zulu : offset? (skipBlank ['Z']) = some (0, []) := by decide
  have inside : ¬(month < 1 ∨ 12 < month ∨ day < 1 ∨ daysIn year month < day ∨ 23 < hour ∨
      59 < minute ∨ 60 < second ∨ year < -262143 ∨ 262142 < year ∨ (0 : Int) ≤ -1440 ∨
      1440 ≤ (0 : Int)) := by omega
  have same : atOffset ⟨year, month, day, hour, minute, second, nano⟩ 0 =
      ⟨year, month, day, hour, minute, second, nano⟩ := by
    have early : ¬ ((hour * 60 + minute : Nat) : Int) - 0 < 0 := by omega
    have late : ¬ 1440 ≤ ((hour * 60 + minute : Nat) : Int) - 0 := by omega
    have ofDay : ((((hour * 60 + minute : Nat) : Int) - 0) % 1440).toNat = hour * 60 + minute := by
      omega
    simp only [atOffset, if_neg early, if_neg late, ofDay]
    rw [show (hour * 60 + minute) / 60 = hour by omega,
      show (hour * 60 + minute) % 60 = minute by omega]
  -- Each part is taken off the front, and the next one is right behind it.
  rw [parse?, whole, year?_yearText, Option.bind_eq_bind, Option.bind_some]
  dsimp only
  rw [mark?_cons stroke, Option.bind_eq_bind, Option.bind_some, pair?_padded (by omega),
    Option.bind_eq_bind, Option.bind_some]
  dsimp only
  rw [mark?_cons stroke, Option.bind_some, pair?_padded (by omega), Option.bind_some]
  dsimp only
  rw [if_pos (Or.inr (Or.inl rfl)), Option.bind_some, pair?_padded (by omega), Option.bind_some]
  dsimp only
  rw [mark?_cons colon, Option.bind_some, pair?_padded (by omega), Option.bind_some]
  dsimp only
  rw [mark?_cons colon, Option.bind_some, pair?_padded (by omega), Option.bind_some]
  dsimp only
  rw [fraction?_fractionText nanos, Option.bind_some]
  dsimp only
  rw [zulu, Option.bind_some]
  dsimp only
  rw [if_neg (by decide), if_neg inside, same]

end ClusterGateway.Timestamp
