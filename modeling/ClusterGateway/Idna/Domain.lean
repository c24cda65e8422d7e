import ClusterGateway.Idna.Composed
import ClusterGateway.Idna.Mapping
import ClusterGateway.Idna.PropertyRows
import ClusterGateway.Idna.Punycode
import ClusterGateway.Text

/-! # Domain names

A domain name is brought to its ASCII form: its characters are mapped and composed, its labels
checked, and each label with other characters is written in ASCII behind the mark `xn--`. A label
that carries the mark already must be the form that the library itself would write.
-/

namespace ClusterGateway.Idna

/-! ### What a label may hold -/

/-- The ASCII characters that no domain name may hold: controls, the blank, and the marks that have
a meaning in a URL. -/
def isForbidden (c : Char) : Bool :=
  c.toNat ≤ 0x20 || c.toNat = 0x7F || "%#/:<>?@[\\]^|".toList.contains c

/-- Whether a character is a mark, which must not start a label. -/
def isMark (c : Char) : Bool := markRows.covers c

/-- How a character joins its neighbours in cursive writing: 1 to the left, 2 to the right, 3 to
both sides, 4 not at all but without parting its neighbours, 5 to both sides by itself, 0 never. -/
def joining (c : Char) : Nat := joiningRows.classOf c

/-- The class of the marks that cut off the vowel of the letter before them. -/
def cutsVowel (c : Char) : Bool := combiningClass c = 9

/-- Whether the first character that does not let its neighbours join through it joins in one of
these ways. -/
def joins (ways : List Nat) (text : List Char) : Bool :=
  (text.dropWhile (joining · = 4)).head?.any (ways.contains <| joining ·)

/-- Whether the joiners of a label stand where they have an effect; `before` is what stands before
the rest, last to first. -/
def joinersOk (before : List Char) : List Char → Bool
  | [] => true
  | c :: rest =>
    let afterCut := before.head?.any cutsVowel
    let ok :=
      if c.toNat = 0x200D then afterCut
      else if c.toNat = 0x200C then afterCut || (joins [1, 3] before && joins [2, 3] rest)
      else true
    ok && joinersOk (c :: before) rest

/-- Whether a label may stand in a domain name once its characters are mapped and composed. -/
def labelOk (label : List Char) : Bool :=
  !label.head?.any isMark && joinersOk [] label

/-! ### Writing directions -/

/-- The classes of writing direction that the rules for a label name. -/
inductive Direction where
  | right
  | left
  | arabicNumber
  | europeanNumber
  /-- A character that may stand among others. -/
  | neutral
  /-- A mark on the character before it. -/
  | mark
  | other
deriving DecidableEq, Repr

/-- The class with a number in the table. -/
def Direction.ofNumber : Nat → Direction
  | 0 => .right
  | 1 | 2 => .left
  | 3 => .arabicNumber
  | 4 => .europeanNumber
  | 5 | 6 | 7 | 8 | 9 => .neutral
  | 10 => .mark
  | _ => .other

def direction (c : Char) : Direction := .ofNumber (directionRows.classOf c)

def turnsLeft (label : List Char) : Bool :=
  label.any fun c => direction c = .left || direction c = .arabicNumber

/-- Whether the directions in a label can be told apart on a screen. -/
def directionOk (label : List Char) : Bool :=
  match label.map direction with
  | [] => true
  | first :: rest =>
    let core := (rest.reverse.dropWhile (· = .mark)).reverse
    match first with
    | .right =>
      core.all (fun d => d = .right || d = .europeanNumber || d = .neutral || d = .mark) &&
        core.getLast?.all (fun d => d = .right || d = .europeanNumber)
    | .left =>
      core.all (fun d => d ≠ .right && d ≠ .other) &&
        core.getLast?.all (fun d => d ≠ .neutral && d ≠ .mark) &&
        !(core.contains .arabicNumber && core.contains .europeanNumber)
    | _ => false

/-! ### From a domain name to its ASCII form -/

/-- The mark of a label in ASCII form. -/
def asciiMark : List Char := "xn--".toList

/-- The most characters that the ASCII form of a label may have behind its mark, and a label that is
to be written in that form; the work for longer ones would grow too fast. -/
def longestEncoded : Nat := 2000
@[inherit_doc longestEncoded] def longestDecoded : Nat := 1000

/-- The label of an ASCII form: it holds characters beyond ASCII, and mapping and composing would
leave it as it is. -/
def ofAscii? (encoded : List Char) : Option (List Char) := do
  if longestEncoded < encoded.length ∨ !encoded.all Punycode.isAscii then none
  let label ← Punycode.decode? encoded
  if label.all Punycode.isAscii ∨ !label.all isStable ∨ composed label ≠ label then none
  return label

/-- The label that is meant by a mapped and composed one. -/
def meant? (label : List Char) : Option (List Char) := do
  let label ←
    if asciiMark.isPrefixOf label then ofAscii? (label.drop asciiMark.length) else some label
  if labelOk label ∧ !label.any isForbidden then some label else none

def toAscii? (label : List Char) : Option (List Char) :=
  if label.all Punycode.isAscii then some label
  else if longestDecoded < label.length then none
  else some (asciiMark ++ Punycode.encode label)

/-- The ASCII form of a domain name, if it is one. -/
def domain? (text : List Char) : Option (List Char) := do
  let labels ← (splitAt '.' (composed (← mapped? text))).mapM meant?
  if labels.any turnsLeft ∧ !labels.all directionOk then none
  return ['.'].intercalate (← labels.mapM toAscii?)

end ClusterGateway.Idna
