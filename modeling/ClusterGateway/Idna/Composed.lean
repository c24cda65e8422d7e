import ClusterGateway.Idna.CompositionRows

/-! # Composed text

The same text can be written with a letter and a mark or with one character for both. The composed
form of a text takes everything apart, puts the marks on each character in the order of their
classes, and puts together what has a character of its own. Korean syllables are taken apart and put
together by calculation.
-/

namespace ClusterGateway.Idna

/-- The class of a mark by which marks on one character are ordered; zero for what is no such mark.
-/
def combiningClass (c : Char) : Nat := combiningRows.classOf c

/-! ### Korean syllables -/

/-- The first syllable, and the first of the leading, vowel and trailing parts; the place before the
first trailing part stands for none. -/
def syllableBase : Nat := 0xAC00
@[inherit_doc syllableBase] def leadBase : Nat := 0x1100
@[inherit_doc syllableBase] def vowelBase : Nat := 0x1161
@[inherit_doc syllableBase] def trailBase : Nat := 0x11A7

def syllableParts? (c : Char) : Option (List Char) :=
  if syllableBase ≤ c.toNat ∧ c.toNat < syllableBase + 19 * 21 * 28 then
    let n := c.toNat - syllableBase
    let front := [Char.ofNat (leadBase + n / (21 * 28)), Char.ofNat (vowelBase + n / 28 % 21)]
    some (if n % 28 = 0 then front else front ++ [Char.ofNat (trailBase + n % 28)])
  else none

/-- The syllable of two characters: a leading part and a vowel, or a syllable without a trailing
part and such a part. -/
def syllableOf? (a b : Char) : Option Char :=
  if leadBase ≤ a.toNat ∧ a.toNat < leadBase + 19 ∧
      vowelBase ≤ b.toNat ∧ b.toNat < vowelBase + 21 then
    some (Char.ofNat
      (syllableBase + ((a.toNat - leadBase) * 21 + (b.toNat - vowelBase)) * 28))
  else if syllableBase ≤ a.toNat ∧ a.toNat < syllableBase + 19 * 21 * 28 ∧
      (a.toNat - syllableBase) % 28 = 0 ∧ trailBase < b.toNat ∧ b.toNat < trailBase + 28 then
    some (Char.ofNat (a.toNat + (b.toNat - trailBase)))
  else none

/-! ### Taking apart -/

/-- What a character consists of by the rows of a table, taken apart at most `depth` times over. -/
def takeApart (rows : Rows) : (depth : Nat) → Char → List Char
  | 0, c => [c]
  | depth + 1, c =>
    match syllableParts? c with
    | some parts => parts
    | none =>
      match rows.entryOf? c with
      | some (a :: parts) =>
        takeApart rows depth (Char.ofNat a) ++
          (parts.filter (· ≠ 0)).map Char.ofNat
      | _ => [c]

/-- How many times over a character can be taken apart. -/
def partDepth : Nat := 4

/-- Marks in the order of their classes, up to the next character that is no mark; those of one
class stay in the order in which they stand. -/
def orderMarks : List Char → List Char
  | [] => []
  | c :: rest => place c (orderMarks rest)
where
  /-- Puts a character in front of an ordered text, behind the marks of lower classes. -/
  place (c : Char) : List Char → List Char
    | [] => [c]
    | d :: rest =>
      if combiningClass d ≠ 0 ∧ combiningClass d < combiningClass c then d :: place c rest
      else c :: d :: rest

/-! ### Putting together -/

/-- The character that two others are put together to. -/
def compose? (a b : Char) : Option Char :=
  match syllableOf? a b with
  | some c => some c
  | none =>
    (decompositionRows.find? (fun row => row.tail = [a.toNat, b.toNat])).bind fun row =>
      row.head?.map Char.ofNat

/-- Puts a text together; `classOf` tells the classes of marks, and `compose?` what two characters
are put together to. `starter` is the last character that is no mark, `between` what stands behind
it and could not be joined to it, last to first, and `before` what stands before it, last to first.
A mark is joined unless one of its class or a higher one stands in between. -/
def putTogether (classOf : Char → Nat) (compose? : Char → Char → Option Char)
    (before : List Char) (starter : Char) (between : List Char) : List Char → List Char
  | [] => before.reverse ++ starter :: between.reverse
  | c :: rest =>
    let blocked :=
      match between with
      | [] => false
      | last :: _ => classOf last = 0 ∨ classOf c ≤ classOf last
    match if blocked then none else compose? starter c with
    | some together => putTogether classOf compose? before together between rest
    | none =>
      if classOf c = 0 then putTogether classOf compose? (between ++ starter :: before) c [] rest
      else putTogether classOf compose? before starter (c :: between) rest

/-- A text up to its first character that is no mark, and the rest. -/
def leadingMarks (text : List Char) : List Char × List Char :=
  text.span (fun c => combiningClass c ≠ 0)

def composed (text : List Char) : List Char :=
  let apart := orderMarks (text.flatMap (takeApart decompositionRows partDepth))
  match leadingMarks apart with
  | (marks, []) => marks
  | (marks, starter :: rest) => marks ++ putTogether combiningClass compose? [] starter [] rest

end ClusterGateway.Idna
