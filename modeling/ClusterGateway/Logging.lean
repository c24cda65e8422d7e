/-! # Diagnostic output

The diagnostic stream is written either for people or as JSON lines. Names and texts stand in it
inside double quotes, with everything that cannot be read off a screen spelt out: the usual
backslash escapes, and `\u` with the code point in braces for controls, odd spaces and marks that
join the character before them.
-/

namespace ClusterGateway

/-- How diagnostic lines are written. -/
inductive LogFormat where
  /-- Lines for people. -/
  | pretty
  /-- One JSON object a line. -/
  | json
deriving DecidableEq, Repr, Inhabited

/-- A word that names no format. -/
structure UnknownLogFormat where
  word : String
deriving DecidableEq, Repr

/-- The explanation for an operator. -/
def UnknownLogFormat.message (e : UnknownLogFormat) : String :=
  "unknown log format '" ++ e.word ++ "', expected pretty or json"

/-- Reads the name of a format, in letters of either case. -/
def LogFormat.parse (word : String) : Except UnknownLogFormat LogFormat :=
  let folded := word.map Char.toLower
  if folded = "pretty" ∨ folded = "text" then .ok .pretty
  else if folded = "json" then .ok .json
  else .error ⟨word⟩

namespace Text

/-- Ranges of characters that leave no visible mark of their own, smallest first. -/
def unseenRanges : List (Nat × Nat) :=
  [(0x00, 0x1F), (0x7F, 0xA0), (0xAD, 0xAD), (0x300, 0x36F), (0x483, 0x489), (0x591, 0x5BD),
   (0x5BF, 0x5BF), (0x5C1, 0x5C2), (0x5C4, 0x5C5), (0x600, 0x605), (0x610, 0x61A), (0x61C, 0x61C),
   (0x64B, 0x65F), (0x670, 0x670), (0x6D6, 0x6DD), (0x900, 0x902), (0x93C, 0x93C), (0x941, 0x948),
   (0x94D, 0x94D), (0xE31, 0xE31), (0xE34, 0xE3A), (0xE47, 0xE4E), (0x1680, 0x1680),
   (0x180B, 0x180F), (0x1AB0, 0x1ACE), (0x1DC0, 0x1DFF), (0x2000, 0x200F), (0x2028, 0x202F),
   (0x205F, 0x206F), (0x20D0, 0x20F0), (0x302A, 0x302F), (0x3000, 0x3000), (0x3099, 0x309A),
   (0xD800, 0xF8FF), (0xFB1E, 0xFB1E), (0xFE00, 0xFE0F), (0xFE20, 0xFE2F), (0xFEFF, 0xFEFF),
   (0xFFF0, 0xFFFB), (0xFFFE, 0xFFFF), (0xE0000, 0x10FFFF)]

/-- Whether a character is shown by its code point. -/
def isUnseen (c : Char) : Bool :=
  unseenRanges.any (fun r => r.1 ≤ c.toNat && c.toNat ≤ r.2)

/-- The lower-case hexadecimal digits of a number. -/
def hex (n : Nat) : String := String.ofList (Nat.toDigits 16 n)

def quoteChar (c : Char) : String :=
  if c = '"' then "\\\""
  else if c = '\\' then "\\\\"
  else if c = '\t' then "\\t"
  else if c = '\r' then "\\r"
  else if c = '\n' then "\\n"
  else if c.toNat = 0 then "\\0"
  else if isUnseen c then "\\u\x7b" ++ hex c.toNat ++ "\x7d"
  else c.toString

/-- A text in double quotes with escapes. -/
def quoted (s : String) : String :=
  "\"" ++ String.join (s.toList.map quoteChar) ++ "\""

/-- A list of quoted texts between two brackets. -/
def quotedList (opening closing : String) (items : List String) : String :=
  opening ++ ", ".intercalate (items.map quoted) ++ closing

end Text

end ClusterGateway
