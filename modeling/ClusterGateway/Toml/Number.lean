import ClusterGateway.Toml.Value

/-! # Numbers and points in time in TOML

A token that starts with a digit or a sign is a date, a time of day or both, or a number. Digits may
have single underscores between them. A whole number must lie within 64 bits; one with a fraction or
an exponent must not be so large that it counts as infinite. Each function here answers with what it
read and with what stands behind.
-/

namespace ClusterGateway.Toml

/-! ### Points in time -/

/-- So many digits, with a value between two bounds. -/
def field? (count low high : Nat) (text : List Char) : Option (Nat × List Char) :=
  let digits := text.take count
  let n := digits.foldl (fun n c => 10 * n + (c.toNat - 0x30)) 0
  if digits.length = count ∧ digits.all Char.isDigit ∧ low ≤ n ∧ n ≤ high then
    some (n, text.drop count)
  else none

def behind? (mark : Char) : List Char → Option (List Char)
  | c :: rest => if c = mark then some rest else none
  | [] => none

/-- How many days a month has. -/
def monthLength (year month : Nat) : Nat :=
  if month = 2 then if year % 4 = 0 ∧ (year % 100 ≠ 0 ∨ year % 400 = 0) then 29 else 28
  else if month = 4 ∨ month = 6 ∨ month = 9 ∨ month = 11 then 30
  else 31

def date? (text : List Char) : Option (List Char) := do
  let (year, rest) ← field? 4 0 9999 text
  let (month, rest) ← field? 2 1 12 (← behind? '-' rest)
  let (_, rest) ← field? 2 1 (monthLength year month) (← behind? '-' rest)
  return rest

/-- A fraction of a second, if there is one. -/
def pastFraction (text : List Char) : List Char :=
  match text with
  | '.' :: d :: rest => if d.isDigit then rest.dropWhile Char.isDigit else text
  | _ => text

/-- A time of day. -/
def time? (text : List Char) : Option (List Char) := do
  let (_, rest) ← field? 2 0 23 text
  let (_, rest) ← field? 2 0 59 (← behind? ':' rest)
  let (_, rest) ← field? 2 0 60 (← behind? ':' rest)
  return pastFraction rest

/-- A distance from universal time, if there is one. -/
def pastOffset (text : List Char) : Option (List Char) :=
  match text with
  | [] => some []
  | c :: rest =>
    if c = 'Z' ∨ c = 'z' then some rest
    else if c = '+' ∨ c = '-' then do
      let (_, rest) ← field? 2 0 23 rest
      let (_, rest) ← field? 2 0 59 (← behind? ':' rest)
      return rest
    else some text

/-- A time of day behind a date, if there is one. -/
def pastTime (text : List Char) : Option (List Char) :=
  match text with
  | [] => some []
  | c :: rest =>
    if c = 'T' ∨ c = 't' ∨ c = ' ' then
      match time? rest with
      | some rest => pastOffset rest
      | none => some text
    else some text

/-- A date, a date with a time of day, or a time of day. -/
def moment? (text : List Char) : Option (List Char) :=
  match date? text with
  | some rest => pastTime rest
  | none => time? text

/-! ### Numbers -/

/-- Digits behind the first one, with single underscores between them; none if an underscore does
not stand between two digits. -/
def moreDigits? (isDigit : Char → Bool) : List Char → Option (List Char × List Char)
  | '_' :: d :: rest =>
    if isDigit d then (moreDigits? isDigit rest).map fun r => (d :: r.1, r.2) else none
  | c :: rest =>
    if isDigit c then (moreDigits? isDigit rest).map fun r => (c :: r.1, r.2)
    else if c = '_' then none
    else some ([], c :: rest)
  | [] => some ([], [])

/-- At least one digit, with single underscores between digits. -/
def digits? (isDigit : Char → Bool) : List Char → Option (List Char × List Char)
  | c :: rest => if isDigit c then (moreDigits? isDigit rest).map fun r => (c :: r.1, r.2) else none
  | [] => none

/-- Whether a text starts with a minus sign, and the text behind its sign. -/
def sign : List Char → Bool × List Char
  | '-' :: rest => (true, rest)
  | '+' :: rest => (false, rest)
  | text => (false, text)

/-- Decimal digits of which the first is no zero, or a zero alone. -/
def decimal? : List Char → Option (List Char × List Char)
  | '0' :: rest => some (['0'], rest)
  | text => digits? Char.isDigit text

def valueIn (base : Nat) (digits : List Char) : Nat :=
  digits.foldl
    (fun n c => base * n + if c.isDigit then c.toNat - 0x30 else (c.toLower.toNat - 0x57)) 0

/-- The digits of a number that has a fraction, without its point. -/
def fraction? : List Char → Option (List Char × List Char)
  | '.' :: rest => digits? Char.isDigit rest
  | text => some ([], text)

/-- The exponent of a number, if it has one. -/
def exponent? : List Char → Option (Option Int × List Char)
  | e :: rest =>
    if e = 'e' ∨ e = 'E' then
      let (negative, rest) := sign rest
      (digits? Char.isDigit rest).map fun r =>
        let n : Int := valueIn 10 r.1
        (some (if negative then -n else n), r.2)
    else some (none, e :: rest)
  | [] => some (none, [])

/-- Whether `digits · 10 ^ exponent` rounds to infinity in floating-point numbers of 64 bits, whose
largest one stands in the middle between `2 ^ 1024 - 2 ^ 971` and the first number that does. -/
def roundsToInfinity (digits : List Char) (exponent : Int) : Bool :=
  let significant := digits.dropWhile (· = '0')
  let size : Int := significant.length + exponent
  if significant.isEmpty ∨ size < 300 then false
  else if 320 < size then true
  else
    let n := valueIn 10 significant
    let bound := Nat.pow 2 1024 - Nat.pow 2 970
    if 0 ≤ exponent then bound ≤ n * Nat.pow 10 exponent.toNat
    else bound * Nat.pow 10 (-exponent).toNat ≤ n

/-- A number with a fraction or an exponent, or one of the words for what is no number. -/
def real? (text : List Char) : Option (List Char) :=
  let (negative, unsigned) := sign text
  match unsigned with
  | 'i' :: 'n' :: 'f' :: rest => some rest
  | 'n' :: 'a' :: 'n' :: rest => some rest
  | _ => do
    let (whole, rest) ← decimal? unsigned
    let (fraction, behind) ← fraction? rest
    let (exponent, behind) ← exponent? behind
    if fraction.isEmpty ∧ exponent.isNone then none
    let power := exponent.getD 0 - fraction.length
    if !negative ∧ roundsToInfinity (whole ++ fraction) power then none
    return behind

def isDigitIn (base : Nat) (c : Char) : Bool :=
  if c.isDigit then c.toNat - 0x30 < base
  else base = 16 && ('a' ≤ c.toLower && c.toLower ≤ 'f')

/-- A whole number within 64 bits. -/
def inWord? (n : Int) : Option Value :=
  let bound : Nat := Nat.pow 2 63
  if -(bound : Int) ≤ n ∧ n < bound then some (.whole n) else none

/-- A whole number in a base, behind the mark of the base. -/
def based? (base : Nat) (text : List Char) : Option (Value × List Char) := do
  let (digits, rest) ← digits? (isDigitIn base) text
  return (← inWord? (valueIn base digits), rest)

def whole? : List Char → Option (Value × List Char)
  | '0' :: 'x' :: rest => based? 16 rest
  | '0' :: 'o' :: rest => based? 8 rest
  | '0' :: 'b' :: rest => based? 2 rest
  | text => do
    let (negative, unsigned) := sign text
    let (digits, rest) ← decimal? unsigned
    let n : Int := valueIn 10 digits
    return (← inWord? (if negative then -n else n), rest)

def number? (text : List Char) : Option (Value × List Char) :=
  match moment? text with
  | some rest => some (.moment, rest)
  | none =>
    match real? text with
    | some rest => some (.real, rest)
    | none => whole? text

end ClusterGateway.Toml
