/-! # Text

The octets of a text in UTF-8, its parts between marks, and what is left of it without the blank
characters at its ends.
-/

namespace ClusterGateway

/-- Octets, first to last. -/
abbrev Bytes := List UInt8

/-- The UTF-8 octets of a text. -/
def utf8 (s : String) : Bytes := s.toUTF8.data.toList

/-- The text that octets spell in UTF-8, if they do. -/
def ofUtf8? (bytes : Bytes) : Option String := String.fromUTF8? ⟨bytes.toArray⟩

/-- The parts of a text between the marks in it, one more than there are marks. -/
def splitAt (mark : Char) : List Char → List (List Char)
  | [] => [[]]
  | c :: rest =>
    if c = mark then [] :: splitAt mark rest
    else
      match splitAt mark rest with
      | part :: parts => (c :: part) :: parts
      | [] => [[c]]

namespace Text

/-- Whether a character has the Unicode property `White_Space`. -/
def isBlank (c : Char) : Bool :=
  (0x09 ≤ c.toNat && c.toNat ≤ 0x0D) || c.toNat = 0x20 || c.toNat = 0x85 || c.toNat = 0xA0 ||
    c.toNat = 0x1680 || (0x2000 ≤ c.toNat && c.toNat ≤ 0x200A) || c.toNat = 0x2028 ||
    c.toNat = 0x2029 || c.toNat = 0x202F || c.toNat = 0x205F || c.toNat = 0x3000

/-- Drops the members that satisfy a test from both ends. -/
def trimBy (drop : Char → Bool) (s : List Char) : List Char :=
  ((s.dropWhile drop).reverse.dropWhile drop).reverse

/-- A text without the blank characters at its ends. -/
def trim (s : String) : String := String.ofList (trimBy isBlank s.toList)

end Text

end ClusterGateway
