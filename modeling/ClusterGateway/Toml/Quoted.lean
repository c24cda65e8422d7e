/-! # Texts in TOML

A text stands between quotation marks, with escapes, or between apostrophes, as it is. Either mark
may stand three times on both sides; the text may then go over several lines, a line break right
behind the opening marks is left out, and up to two marks before the closing ones belong to the
text.

Each function here takes what stands behind the opening mark and answers with the text and with what
stands behind the closing one.
-/

namespace ClusterGateway.Toml

/-- Whether a character is blank within a line. -/
def isBlank (c : Char) : Bool := c = ' ' || c = '\t'

/-- Whether a character may stand in a line: all but the controls other than the tab. -/
def isLineChar (c : Char) : Bool := c = '\t' || (0x20 ≤ c.toNat && c.toNat ≠ 0x7F)

def lineBreak? : List Char → Option (List Char)
  | '\n' :: rest => some rest
  | '\r' :: '\n' :: rest => some rest
  | _ => none

/-- The value of a hexadecimal digit. -/
def hexValue? (c : Char) : Option Nat :=
  if c.isDigit then some (c.toNat - 0x30)
  else if 'a' ≤ c ∧ c ≤ 'f' then some (c.toNat - 0x57)
  else if 'A' ≤ c ∧ c ≤ 'F' then some (c.toNat - 0x37)
  else none

/-- The character whose number stands in so many hexadecimal digits. -/
def numbered? (count : Nat) (text : List Char) : Option Char := do
  let digits := text.take count
  if digits.length ≠ count then none
  let n ← digits.foldlM (fun n c => (hexValue? c).map (16 * n + ·)) 0
  if n.isValidChar then some (Char.ofNat n) else none

/-- The character of an escape behind its backslash, and how many characters the escape has there.
-/
def escape? : List Char → Option (Char × Nat)
  | 'b' :: _ => some (Char.ofNat 0x08, 1)
  | 't' :: _ => some ('\t', 1)
  | 'n' :: _ => some ('\n', 1)
  | 'f' :: _ => some (Char.ofNat 0x0C, 1)
  | 'r' :: _ => some ('\r', 1)
  | '"' :: _ => some ('"', 1)
  | '\\' :: _ => some ('\\', 1)
  | 'u' :: digits => (numbered? 4 digits).map (·, 5)
  | 'U' :: digits => (numbered? 8 digits).map (·, 9)
  | _ => none

/-- A text on one line up to its quotation mark. -/
def basic (text : List Char) : Option (List Char × List Char) :=
  match text with
  | [] => none
  | '"' :: rest => some ([], rest)
  | '\\' :: rest => do
    let (c, length) ← escape? rest
    let (s, behind) ← basic (rest.drop length)
    return (c :: s, behind)
  | c :: rest => do
    if !isLineChar c then none
    let (s, behind) ← basic rest
    return (c :: s, behind)
termination_by text.length
decreasing_by all_goals (simp only [List.length_cons, List.length_drop]; omega)

/-- A text on one line up to its apostrophe. -/
def literal : List Char → Option (List Char × List Char)
  | [] => none
  | c :: rest => do
    if c = '\'' then return ([], rest)
    if !isLineChar c then none
    let (s, behind) ← literal rest
    return (c :: s, behind)

/-- The marks at the front of a text that stand for themselves, when the text goes on with closing
marks: all but three of them, at most two. -/
def closing? (mark : Char) (text : List Char) : Option (List Char × List Char) :=
  let marks := min 5 (text.takeWhile (· = mark)).length
  if 3 ≤ marks then some (text.take (marks - 3), text.drop marks) else none

/-- Whether a text goes on with blanks and a line break. -/
def lineEnds (text : List Char) : Bool := (lineBreak? (text.dropWhile isBlank)).isSome

/-- A text over several lines up to its quotation marks. While `joining` holds, blanks and line
breaks behind an escaped line break are passed over. -/
def basicLines (joining : Bool) (text : List Char) : Option (List Char × List Char) :=
  match closing? '"' text with
  | some ended => some ended
  | none =>
    match text with
    | [] => none
    | '\r' :: '\n' :: rest =>
      if joining then basicLines true rest
      else do
        let (s, behind) ← basicLines false rest
        return ('\n' :: s, behind)
    | '\\' :: rest =>
      if lineEnds rest then basicLines true rest
      else do
        let (c, length) ← escape? rest
        let (s, behind) ← basicLines false (rest.drop length)
        return (c :: s, behind)
    | c :: rest =>
      if joining ∧ (isBlank c ∨ c = '\n') then basicLines true rest
      else do
        if !isLineChar c ∧ c ≠ '\n' then none
        let (s, behind) ← basicLines false rest
        return (c :: s, behind)
termination_by text.length
decreasing_by all_goals (simp only [List.length_cons, List.length_drop]; omega)

/-- A text over several lines up to its apostrophes. -/
def literalLines (text : List Char) : Option (List Char × List Char) :=
  match closing? '\'' text with
  | some ended => some ended
  | none =>
    match text with
    | [] => none
    | '\r' :: '\n' :: rest => do
      let (s, behind) ← literalLines rest
      return ('\n' :: s, behind)
    | c :: rest => do
      if !isLineChar c ∧ c ≠ '\n' then none
      let (s, behind) ← literalLines rest
      return (c :: s, behind)
termination_by text.length

/-- A text without a line break at its front. -/
def pastBreak (text : List Char) : List Char := (lineBreak? text).getD text

/-- A text with its marks on both sides, on one line. -/
def quotedLine? : List Char → Option (List Char × List Char)
  | '"' :: rest => basic rest
  | '\'' :: rest => literal rest
  | _ => none

/-- A text with its marks on both sides. -/
def quoted? : List Char → Option (List Char × List Char)
  | '"' :: '"' :: '"' :: rest => basicLines false (pastBreak rest)
  | '\'' :: '\'' :: '\'' :: rest => literalLines (pastBreak rest)
  | text => quotedLine? text

end ClusterGateway.Toml
