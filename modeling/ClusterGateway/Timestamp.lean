import ClusterGateway.Text

/-! # Points in time

A point in time is a day of the proleptic Gregorian calendar and a time of that day, both at
Greenwich. It is read from RFC 3339 text that may be generous with blanks and states its distance
from Greenwich, and is written with that distance zero. Second sixty is a leap second.
-/

namespace ClusterGateway

/-- A point in time, as a calendar at Greenwich shows it. -/
structure Timestamp where
  /-- The year; year zero comes before year one. -/
  year : Int
  month : Nat
  /-- The day of the month, from one. -/
  day : Nat
  hour : Nat
  minute : Nat
  /-- The second of the minute; sixty in a leap second. -/
  second : Nat
  /-- The billionths of the second. -/
  nano : Nat
deriving DecidableEq, Repr, Inhabited

namespace Timestamp

/-- Whether a year has a 29 February. -/
def isLeap (year : Int) : Bool := year % 4 = 0 && (year % 100 ≠ 0 || year % 400 = 0)

def daysIn (year : Int) (month : Nat) : Nat :=
  if month = 2 then (if isLeap year then 29 else 28)
  else if month = 4 ∨ month = 6 ∨ month = 9 ∨ month = 11 then 30
  else 31

/-- The day after a date. -/
def nextDay (year : Int) (month day : Nat) : Int × Nat × Nat :=
  if day < daysIn year month then (year, month, day + 1)
  else if month < 12 then (year, month + 1, 1)
  else (year + 1, 1, 1)

/-- The day before a date. -/
def previousDay (year : Int) (month day : Nat) : Int × Nat × Nat :=
  if 1 < day then (year, month, day - 1)
  else if 1 < month then (year, month - 1, daysIn year (month - 1))
  else (year - 1, 12, 31)

/-- The point in time at which a clock that is `offset` minutes ahead of Greenwich shows `local`;
the offset is less than a day. -/
def atOffset (shown : Timestamp) (offset : Int) : Timestamp :=
  let minutes : Int := (shown.hour * 60 + shown.minute : Nat) - offset
  let (year, month, day) :=
    if minutes < 0 then previousDay shown.year shown.month shown.day
    else if 1440 ≤ minutes then nextDay shown.year shown.month shown.day
    else (shown.year, shown.month, shown.day)
  let ofDay := (minutes % 1440).toNat
  { shown with year, month, day, hour := ofDay / 60, minute := ofDay % 60 }

/-! ### Reading -/

/-- Drops blanks at the front. -/
def skipBlank (s : List Char) : List Char := s.dropWhile Text.isBlank

def value (digits : List Char) : Nat := digits.foldl (fun n c => 10 * n + (c.toNat - 0x30)) 0

/-- A number of at least one and at most `width` digits at the front. -/
def number? (width : Nat) (s : List Char) : Option (Nat × List Char) :=
  let digits := (s.take width).takeWhile Char.isDigit
  if digits.isEmpty then none else some (value digits, s.drop digits.length)

/-- A year after blanks: with a sign of any length, else of at most four digits. -/
def year? (s : List Char) : Option (Int × List Char) :=
  match skipBlank s with
  | '-' :: rest => (number? rest.length rest).map (fun r => (-(r.1 : Int), r.2))
  | '+' :: rest => (number? rest.length rest).map (fun r => ((r.1 : Int), r.2))
  | rest => (number? 4 rest).map (fun r => ((r.1 : Int), r.2))

/-- A number of at most two digits after blanks. -/
def pair? (s : List Char) : Option (Nat × List Char) := number? 2 (skipBlank s)

/-- One character after blanks. -/
def mark? (c : Char) (s : List Char) : Option (List Char) :=
  match skipBlank s with
  | d :: rest => if d = c then some rest else none
  | [] => none

/-- A fraction of a second in billionths; digits after the ninth are passed over. -/
def fraction? (s : List Char) : Option (Nat × List Char) :=
  match s with
  | '.' :: rest => do
    let (_, after) ← number? 9 rest
    let digits := rest.take (rest.length - after.length)
    some (value digits * Nat.pow 10 (9 - digits.length), after.dropWhile Char.isDigit)
  | _ => some (0, s)

/-- The minutes by which a clock is ahead of Greenwich. -/
def offset? (s : List Char) : Option (Int × List Char) :=
  match s with
  | 'Z' :: rest => some (0, rest)
  | 'z' :: rest => some (0, rest)
  | a :: b :: c :: rest =>
    if [a, b, c].map Char.toLower = ['u', 't', 'c'] then some (0, rest)
    else do
      let sign : Int ←
        if a = '+' then some 1 else if a = '-' ∨ a.toNat = 0x2212 then some (-1) else none
      if !(b.isDigit && c.isDigit) then none
      let afterHours := rest.dropWhile (fun c => c = ':' || Text.isBlank c)
      match afterHours with
      | d :: e :: rest =>
        if !(d.isDigit && e.isDigit) then none
        let minutes := value [d, e]
        if 60 ≤ minutes then none
        some (sign * (value [b, c] * 60 + minutes : Nat), rest)
      | _ => none
  | _ => none

/-- The point in time that a text states. -/
def parse? (s : String) : Option Timestamp := do
  let (year, s) ← year? s.toList
  let s ← mark? '-' s
  let (month, s) ← pair? s
  let s ← mark? '-' s
  let (day, s) ← pair? s
  let s ← match s with
    | c :: rest => if c = 't' ∨ c = 'T' ∨ c = ' ' then some rest else none
    | [] => none
  let (hour, s) ← pair? s
  let s ← mark? ':' s
  let (minute, s) ← pair? s
  let s ← mark? ':' s
  let (second, s) ← pair? s
  let (nano, s) ← fraction? s
  let (offset, s) ← offset? (skipBlank s)
  if !(skipBlank s).isEmpty then none
  if month < 1 ∨ 12 < month ∨ day < 1 ∨ daysIn year month < day ∨ 23 < hour ∨ 59 < minute ∨
      60 < second ∨ year < -262143 ∨ 262142 < year ∨ offset ≤ -1440 ∨ 1440 ≤ offset then
    none
  some (atOffset { year, month, day, hour, minute, second, nano } offset)

/-! ### Writing -/

/-- A number with zeros in front up to a width. -/
def padded (width n : Nat) : String :=
  let digits := Nat.toDigits 10 n
  String.ofList (List.replicate (width - digits.length) '0' ++ digits)

/-- A year of four digits; beyond those with a sign. -/
def yearText (year : Int) : String :=
  if 0 ≤ year ∧ year ≤ 9999 then padded 4 year.toNat
  else (if year < 0 then "-" else "+") ++ padded 4 year.natAbs

/-- A fraction of a second with none, three, six or nine digits, as few as hold it. -/
def fractionText (nano : Nat) : String :=
  if nano = 0 then ""
  else if nano % 1000000 = 0 then "." ++ padded 3 (nano / 1000000)
  else if nano % 1000 = 0 then "." ++ padded 6 (nano / 1000)
  else "." ++ padded 9 nano

/-- A point in time without the mark of Greenwich. -/
def plainText (t : Timestamp) : String :=
  yearText t.year ++ "-" ++ padded 2 t.month ++ "-" ++ padded 2 t.day ++ "T" ++ padded 2 t.hour ++
    ":" ++ padded 2 t.minute ++ ":" ++ padded 2 t.second ++ fractionText t.nano

/-- A point in time with the letter that stands for Greenwich. -/
def text (t : Timestamp) : String := t.plainText ++ "Z"

/-- A point in time with its distance from Greenwich in figures. -/
def offsetText (t : Timestamp) : String := t.plainText ++ "+00:00"

/-- The start of the year 1970, from which machines count time. -/
def epoch : Timestamp := ⟨1970, 1, 1, 0, 0, 0, 0⟩

end Timestamp

end ClusterGateway
