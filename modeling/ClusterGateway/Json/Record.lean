import ClusterGateway.Dict
import ClusterGateway.Json.Reader

/-! # Lists, dictionaries and records in JSON

A record is read from an object whose members may come in any order, or from a list that gives the
fields in their own order. In an object a field must not come twice and members of other names are
passed over without a look at what they hold; in a list the fields at the end may be missing if they
have a default. `Record` describes a record by its fields: each knows the names it goes by, whether
it is filled, and how to fill it.
-/

namespace ClusterGateway.Json

namespace Reader

variable {α σ : Type}

/-- The elements of a list after its opening bracket. -/
def elements (item : Reader α) (first : Bool) : Nat → Reader (List α)
  | 0 => fail .truncated
  | fuel + 1 => do
    match ← peek with
    | none => fail .truncated
    | some b =>
      if b = Byte.closeBracket then do skip; return []
      else if first then
        return (← item) :: (← elements item false fuel)
      else if b ≠ Byte.comma then fail .malformed
      else
        skip
        match ← peek with
        | none => fail .truncated
        | some c =>
          if c = Byte.closeBracket then fail .malformed
          else return (← item) :: (← elements item false fuel)

/-- A list of values that are all read in one way. -/
def list (item : Reader α) : Reader (List α) := do
  match ← peek with
  | none => fail .truncated
  | some b =>
    if b = Byte.openBracket then do skip; elements item true ((← remaining) + 1) else wrongShape

/-- Moves to the name of the next member of an object and takes its opening mark; `false` when the
object is at its closing brace. -/
def toMember (first : Bool) : Reader Bool := do
  match ← peek with
  | none => fail .truncated
  | some b =>
    if b = Byte.closeBrace then return false
    else if first then
      if b = Byte.quote then do skip; return true else fail .malformed
    else if b ≠ Byte.comma then fail .malformed
    else
      skip
      match ← peek with
      | none => fail .truncated
      | some c => if c = Byte.quote then do skip; return true else fail .malformed

def colon : Reader Unit := do
  match ← peek with
  | none => fail .truncated
  | some b => if b = Byte.colon then skip else fail .malformed

/-- The members of an object after its opening brace, each value read by `item`. -/
def members (item : Reader α) (first : Bool) : Nat → Reader (List (String × α))
  | 0 => fail .truncated
  | fuel + 1 => do
    if ← toMember first then
      let name ← stringBody
      colon
      let value ← item
      return (name, value) :: (← members item false fuel)
    else
      skip
      return []

/-- A dictionary; of members with one name the last counts. -/
def dict (item : Reader α) : Reader (Dict α) := do
  match ← peek with
  | none => fail .truncated
  | some b =>
    if b = Byte.openBrace then do
      skip
      return Dict.ofList (← members item true ((← remaining) + 1))
    else wrongShape

/-! ### Passing over a value -/

/-- The four digits of an escape that is passed over, whatever they spell. -/
def passEscape : Reader Unit := do
  let b ← octet
  if b = 0x75 then
    let _ ← fourHex
  else if b = Byte.quote ∨ b = Byte.backslash ∨ b = 0x2F ∨ b = 0x62 ∨ b = 0x66 ∨ b = 0x6E ∨
      b = 0x72 ∨ b = 0x74 then
    return ()
  else fail .malformed

/-- The rest of a string that is passed over: its octets need not spell text. -/
def passString : Nat → Reader Unit
  | 0 => fail .truncated
  | fuel + 1 => do
    let b ← octet
    if b = Byte.quote then return ()
    else if b = Byte.backslash then do passEscape; passString fuel
    else if b < 0x20 then fail .malformed
    else passString fuel

/-- Decimal digits that are passed over; without one the text is malformed, even at its end. -/
def passDigits : Reader Unit := fun bytes =>
  if (bytes.head?.map Byte.isDigit).getD false then .ok ((), bytes.dropWhile Byte.isDigit)
  else .error .malformed

/-- A number that is passed over, after its sign. -/
def passUnsigned : Reader Unit := do
  match ← get with
  | 0x30 :: b :: _ => if Byte.isDigit b then fail .malformed else passDigits
  | _ => passDigits
  match (← get).head? with
  | some 0x2E => do skip; passDigits
  | _ => pure ()
  match (← get).head? with
  | some letter =>
    if letter = 0x65 ∨ letter = 0x45 then
      skip
      match (← get).head? with
      | some 0x2B => skip
      | some 0x2D => skip
      | _ => pure ()
      passDigits
    else return ()
  | none => return ()

/-- A word, number or string that is passed over; its first octet is the next one. -/
def passScalar (b : UInt8) : Reader Unit := do
  if b = 0x6E then do skip; word [0x75, 0x6C, 0x6C]
  else if b = 0x74 then do skip; word [0x72, 0x75, 0x65]
  else if b = 0x66 then do skip; word [0x61, 0x6C, 0x73, 0x65]
  else if b = Byte.minus then do skip; passUnsigned
  else if Byte.isDigit b then passUnsigned
  else if b = Byte.quote then do skip; passString ((← remaining) + 1)
  else fail .malformed

/-- A list or object around the value that is being passed over. -/
inductive Enclosure where
  | list
  | object
deriving DecidableEq, Repr

def Enclosure.closing : Enclosure → UInt8
  | .list => Byte.closeBracket
  | .object => Byte.closeBrace

/-- The name and colon before a value inside an object; nothing inside a list. -/
def passName : Enclosure → Reader Unit
  | .list => pure ()
  | .object => do
    match ← peek with
    | none => fail .truncated
    | some b =>
      if b ≠ Byte.quote then fail .malformed
      skip
      passString ((← remaining) + 1)
      colon

/-- Leaves the enclosures that end here. Answers with those that are left, the innermost first, when
another value follows, and with none when the outermost value is complete. -/
def closeEnclosures (opened : Bool) : Nat → List Enclosure → Reader (List Enclosure)
  | 0, _ => fail .truncated
  | _, [] => return []
  | fuel + 1, innermost :: outer => do
    match ← peek with
    | none => fail .truncated
    | some b =>
      if b = innermost.closing then do skip; closeEnclosures false fuel outer
      else if opened then return innermost :: outer
      else if b = Byte.comma then do skip; return innermost :: outer
      else fail .malformed

/-- Passes over a value inside the given enclosures and over all that follows up to their ends.
There is no bound on how deep values are nested. -/
def passWithin : Nat → List Enclosure → Reader Unit
  | 0, _ => fail .truncated
  | fuel + 1, enclosures => do
    match ← peek with
    | none => fail .truncated
    | some b =>
      let (opened, inside) ←
        if b = Byte.openBracket then do skip; pure (true, Enclosure.list :: enclosures)
        else if b = Byte.openBrace then do skip; pure (true, Enclosure.object :: enclosures)
        else do passScalar b; pure (false, enclosures)
      match ← closeEnclosures opened (inside.length + 1) inside with
      | [] => return ()
      | innermost :: outer => do
        passName innermost
        passWithin fuel (innermost :: outer)

/-- Passes over one value of any shape. -/
def pass : Reader Unit := do passWithin ((← remaining) + 1) []

end Reader

/-- One field of a record under construction. -/
structure Field (σ : Type) where
  names : List String
  filled : σ → Bool
  fill : σ → Reader σ
  optional : Bool := false

/-- A record format: its fields in their own order, the record with no field filled, and the result
once reading is over. -/
structure Record (σ α : Type) where
  fields : List (Field σ)
  /-- The record before anything is read. -/
  blank : σ
  /-- The result, if no field is missing. -/
  finish : σ → Option α

namespace Record

open Reader

variable {σ α : Type}

/-- The members of an object after its opening brace, put into the record. -/
def fromMembers (fields : List (Field σ)) (first : Bool) : Nat → σ → Reader σ
  | 0, _ => fail .truncated
  | fuel + 1, record => do
    if ← toMember first then
      let name ← stringBody
      match fields.find? (fun field => field.names.contains name) with
      | some field =>
        if field.filled record then fail .unexpected
        colon
        fromMembers fields false fuel (← field.fill record)
      | none =>
        colon
        pass
        fromMembers fields false fuel record
    else return record

/-- The elements of a list after its opening bracket, put into the fields in order. -/
def fromElements (first : Bool) : List (Field σ) → σ → Reader σ
  | [], record => return record
  | field :: fields, record => do
    match ← peek with
    | none => fail .truncated
    | some b =>
      if b = Byte.closeBracket then
        if field.optional then fromElements first fields record else fail .unexpected
      else if first then
        fromElements false fields (← field.fill record)
      else if b ≠ Byte.comma then fail .malformed
      else
        skip
        match ← peek with
        | none => fail .truncated
        | some c =>
          if c = Byte.closeBracket then fail .malformed
          else fromElements false fields (← field.fill record)

/-- Takes the closing octet of a record; anything else there is malformed. -/
def close (closing : UInt8) : Reader Unit := do
  match ← peek with
  | none => fail .truncated
  | some b => if b = closing then skip else fail .malformed

def read (format : Record σ α) : Reader α := do
  match ← peek with
  | none => fail .truncated
  | some b =>
    if b = Byte.openBrace then
      skip
      let record ← fromMembers format.fields true ((← remaining) + 1) format.blank
      match format.finish record with
      | none => fail .unexpected
      | some a => do close Byte.closeBrace; return a
    else if b = Byte.openBracket then
      skip
      let record ← fromElements true format.fields format.blank
      match format.finish record with
      | none => fail .unexpected
      | some a => do close Byte.closeBracket; return a
    else wrongShape

end Record

end ClusterGateway.Json
