/-! # Punycode

A label with characters beyond ASCII has a form in letters, digits and hyphens: first its ASCII
characters, then the others in ascending order, each told by how far one has to step on from the one
before, where a step goes to the next place in the label and, past its end, to the next character.
The steps are numbers of base 36 whose digits end at a threshold that follows the size of the
numbers.
-/

namespace ClusterGateway.Idna.Punycode

/-- The letter or decimal digit for a digit of base 36. -/
def digit (n : Nat) : Char := if n < 26 then Char.ofNat (0x61 + n) else Char.ofNat (0x16 + n)

/-- The digit of base 36 that a letter or decimal digit stands for. -/
def digitValue? (c : Char) : Option Nat :=
  if 'a' ≤ c ∧ c ≤ 'z' then some (c.toNat - 0x61)
  else if 'A' ≤ c ∧ c ≤ 'Z' then some (c.toNat - 0x41)
  else if c.isDigit then some (c.toNat - 0x16)
  else none

/-- The threshold of the digit at a place, counted in steps of 36, under a bias. -/
def threshold (place bias : Nat) : Nat := max 1 (min 26 (place - bias))

/-- Every digit but a last one stands for something, because no threshold is zero. -/
theorem threshold_pos (place bias : Nat) : 0 < threshold place bias := by
  unfold threshold
  omega

/-- The bias for numbers of about this size. -/
def biasOf (size bias : Nat) : Nat :=
  if 455 < size then biasOf (size / 35) (bias + 36) else bias + 36 * size / (size + 38)
termination_by size

/-- The bias after a number, when `count` characters are in place. -/
def adapt (number count : Nat) (first : Bool) : Nat :=
  let size := if first then number / 700 else number / 2
  biasOf (size + size / count) 0

def digits (bias number place : Nat) : List Char :=
  let t := threshold place bias
  if number < t then [digit number]
  else digit (t + (number - t) % (36 - t)) :: digits bias ((number - t) / (36 - t)) (place + 36)
termination_by number
decreasing_by
  have := threshold_pos place bias
  exact Nat.lt_of_le_of_lt (Nat.div_le_self _ _) (by omega)

/-- The state of writing a label. -/
structure Writing where
  /-- What is written, the last part first. -/
  parts : List (List Char)
  /-- The steps since the last character that was put in place. -/
  steps : Nat := 0
  bias : Nat := 72
  /-- How many characters are in place. -/
  placed : Nat

/-- Steps past a character of the label, or puts it in place if it is the wanted one. -/
def Writing.pass (first wanted : Nat) (w : Writing) (c : Char) : Writing :=
  if c.toNat < wanted then { w with steps := w.steps + 1 }
  else if c.toNat = wanted then
    { parts := digits w.bias w.steps 36 :: w.parts
      steps := 0
      bias := adapt w.steps (w.placed + 1) (w.placed = first)
      placed := w.placed + 1 }
  else w

/-- Puts the wanted characters in place, in ascending order; `next` is the one that the steps have
come to. -/
def Writing.place (label : List Char) (first : Nat) : List Nat → (next : Nat) → Writing → Writing
  | [], _, w => w
  | wanted :: more, next, w =>
    let w := { w with steps := w.steps + (wanted - next) * (w.placed + 1) }
    let w := label.foldl (Writing.pass first wanted) w
    Writing.place label first more (wanted + 1) { w with steps := w.steps + 1 }

def isAscii (c : Char) : Bool := c.toNat < 0x80

/-- The ASCII form of a label. -/
def encode (label : List Char) : List Char :=
  let basic := label.filter isAscii
  let others := ((label.filter (!isAscii ·)).map Char.toNat).eraseDups.mergeSort
  let front := if basic.isEmpty then [] else basic ++ ['-']
  let written := Writing.place label basic.length others 0x80
    { parts := [front], placed := basic.length }
  written.parts.reverse.flatten

/-- The bound of the numbers in an ASCII form. -/
def numberBound : Nat := Nat.pow 2 32

/-- Reads a number whose digits so far amount to `number`; the digit at `place` counts `weight`. -/
def number? (bias number weight place : Nat) : List Char → Option (Nat × List Char)
  | [] => none
  | c :: rest =>
    match digitValue? c with
    | none => none
    | some d =>
      let total := number + d * weight
      let t := threshold place bias
      if numberBound ≤ total then none
      else if d < t then some (total, rest)
      else if numberBound ≤ weight * (36 - t) then none
      else number? bias total (weight * (36 - t)) (place + 36) rest

/-- Reading a number consumes at least one character, which is why decoding comes to an end. -/
theorem length_of_number? {bias number weight place n : Nat} {text rest : List Char}
    (h : number? bias number weight place text = some (n, rest)) : rest.length < text.length := by
  induction text generalizing number weight place with
  | nil => simp [number?] at h
  | cons c tail ih =>
    simp only [number?] at h
    split at h
    · simp at h
    · split at h
      · simp at h
      · split at h
        · simp only [Option.some.injEq, Prod.mk.injEq] at h
          simp [h.2]
        · split at h
          · simp at h
          · exact Nat.lt_succ_of_lt (ih h)

/-- Puts the characters that `text` tells into a label. The steps have come to the character `next`
and the place `at_`. -/
def insertAll (label : List Char) (next at_ bias : Nat) (first : Bool) (text : List Char) :
    Option (List Char) :=
  if text.isEmpty then some label
  else
    match h : number? bias 0 1 36 text with
    | none => none
    | some (steps, rest) =>
      have : rest.length < text.length := length_of_number? h
      let size := label.length + 1
      let place := at_ + steps
      let wanted := next + place / size
      if place < numberBound ∧ wanted.isValidChar then
        let i := place % size
        insertAll (label.take i ++ Char.ofNat wanted :: label.drop i) wanted (i + 1)
          (adapt steps size first) false rest
      else none
termination_by text.length

/-- The label with an ASCII form. -/
def decode? (text : List Char) : Option (List Char) :=
  let reversed := text.reverse
  let after := (reversed.takeWhile (· ≠ '-')).reverse
  let basic := ((reversed.dropWhile (· ≠ '-')).drop 1).reverse
  if basic.isEmpty then insertAll [] 0x80 0 72 true text
  else insertAll basic 0x80 0 72 true after

end ClusterGateway.Idna.Punycode
