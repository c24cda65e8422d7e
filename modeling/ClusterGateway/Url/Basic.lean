import ClusterGateway.Text
import ClusterGateway.Url.Host

/-! # URLs

A URL is read as the URL standard says: blanks and controls at its ends and line breaks within it
are dropped, the scheme is brought to small letters, and what follows is taken apart by the rules of
the scheme. Of URLs that lead to a web server everything is kept, in its normal form; of others only
the scheme is, once it is clear that they can be read.
-/

namespace ClusterGateway

/-- The address of something on a web server. -/
structure WebUrl where
  /-- Whether the scheme is `https` rather than `http`. -/
  secure : Bool
  user : List Char := []
  password : List Char := []
  host : UrlHost
  /-- The port, where it is not the one that goes without saying. -/
  port : Option Nat := none
  /-- The path from its first slash on, encoded. -/
  path : List Char
  query : Option (List Char) := none
  fragment : Option (List Char) := none
deriving DecidableEq, Repr, Inhabited

/-- What a URL leads to. -/
inductive UrlTarget where
  /-- Something on a web server. -/
  | web (url : WebUrl)
  /-- Something else, with the scheme of the URL. -/
  | other (scheme : String)
deriving DecidableEq, Repr

namespace WebUrl

def scheme (u : WebUrl) : String := if u.secure then "https" else "http"

/-- The port that goes without saying. -/
def defaultPort (secure : Bool) : Nat := if secure then 443 else 80

/-- Name and password of the user with the mark behind them. -/
def userText (u : WebUrl) : List Char :=
  let password := if u.password.isEmpty then [] else ':' :: u.password
  if u.user.isEmpty ∧ u.password.isEmpty then [] else u.user ++ password ++ ['@']

/-- The normal form. -/
def text (u : WebUrl) : String :=
  u.scheme ++ "://" ++ String.ofList u.userText ++ u.host.text ++
    (match u.port with
      | some port => ":" ++ toString port
      | none => "") ++
    String.ofList u.path ++
    (match u.query with
      | some query => "?" ++ String.ofList query
      | none => "") ++
    (match u.fragment with
      | some fragment => "#" ++ String.ofList fragment
      | none => "")

/-- Host and port, with which a connection is made. -/
def address (u : WebUrl) : String :=
  u.host.text ++ ":" ++ toString (u.port.getD (defaultPort u.secure))

end WebUrl

namespace Url

/-! ### Schemes -/

/-- What the rules for a URL depend on. -/
inductive Family where
  /-- `http` or `https`, the latter if `secure` holds. -/
  | web (secure : Bool)
  /-- Another scheme whose hosts are domain names, with the port that goes without saying. -/
  | hosted
  | file
  | opaqueHost
deriving DecidableEq, Repr

def Family.ofScheme (scheme : String) : Family :=
  if scheme = "http" then .web false
  else if scheme = "https" then .web true
  else if scheme = "ws" ∨ scheme = "wss" ∨ scheme = "ftp" then .hosted
  else if scheme = "file" then .file
  else .opaqueHost

/-- Whether a backslash counts as a slash. -/
def Family.special (family : Family) : Bool := family ≠ .opaqueHost

/-- Whether a character may stand in a scheme behind its first letter. -/
def isSchemeChar (c : Char) : Bool := c.isAlphanum || c = '+' || c = '-' || c = '.'

/-- The scheme in small letters and the text behind its colon. -/
def scheme? (text : List Char) : Option (String × List Char) :=
  if text.head?.any Char.isAlpha then
    match text.dropWhile isSchemeChar with
    | ':' :: rest => some (String.ofList ((text.takeWhile isSchemeChar).map Char.toLower), rest)
    | _ => none
  else none

/-! ### The parts of an authority -/

def isSlash (family : Family) (c : Char) : Bool := c = '/' || (family.special && c = '\\')

def endsAuthority (family : Family) (c : Char) : Bool := isSlash family c || c = '?' || c = '#'

/-- What stands before and behind the last `@`, if there is one. -/
def splitUser (authority : List Char) : Option (List Char × List Char) :=
  let reversed := authority.reverse
  match reversed.dropWhile (· ≠ '@') with
  | _ :: before => some (before.reverse, (reversed.takeWhile (· ≠ '@')).reverse)
  | [] => none

/-- The name and the password of a user, both encoded. -/
def credentials (user : List Char) : List Char × List Char :=
  (Percent.encode Percent.userMarks (user.takeWhile (· ≠ ':')),
    Percent.encode Percent.userMarks ((user.dropWhile (· ≠ ':')).drop 1))

/-- Cuts a host off before the first colon outside of brackets. -/
def splitHost (inside : Bool) : List Char → List Char × List Char
  | [] => ([], [])
  | c :: rest =>
    if c = ':' ∧ !inside then ([], c :: rest)
    else
      let within := if c = '[' then true else if c = ']' then false else inside
      let (host, behind) := splitHost within rest
      (c :: host, behind)

/-- The number of a port; none if there are no digits. -/
def port? (digits : List Char) : Except UrlError (Option Nat) :=
  if digits.isEmpty then .ok none
  else if digits.all Char.isDigit ∧ decimalValue digits < 0x10000 then
    .ok (some (decimalValue digits))
  else .error .badPort

/-- The port behind a host, with its colon. -/
def portBehind : List Char → Except UrlError (Option Nat)
  | [] => .ok none
  | _ :: digits => port? digits

/-! ### The path -/

/-- Whether a segment leaves the path as it is. -/
def isDot (segment : List Char) : Bool :=
  segment = ['.'] || segment.map Char.toLower = "%2e".toList

/-- Whether a segment takes the one before it away. -/
def isDoubleDot (segment : List Char) : Bool :=
  ["..", "%2e.", ".%2e", "%2e%2e"].contains (String.ofList (segment.map Char.toLower))

/-- Whether a segment names a drive, which is never taken away. -/
def isDrive (segment : List Char) : Bool :=
  match segment with
  | [letter, mark] => letter.isAlpha && (mark = ':' || mark = '|')
  | _ => false

/-- Takes the last segment away. -/
def dropSegment : List (List Char) → List (List Char)
  | [] => []
  | last :: others => if isDrive last then last :: others else others

/-- The segments of a path without dots, last to first; `before` are those that come first. -/
def resolve (before : List (List Char)) : List (List Char) → List (List Char)
  | [] => before
  | [last] =>
    if isDoubleDot last then [] :: dropSegment before
    else if isDot last then [] :: before
    else last :: before
  | segment :: rest =>
    if isDoubleDot segment then resolve (dropSegment before) rest
    else if isDot segment then resolve before rest
    else resolve (segment :: before) rest

/-- The normal form of a path, given the text behind the authority. -/
def pathOf (text : List Char) : List Char :=
  let slashed := text.map fun c => if c = '\\' then '/' else c
  let behind := if slashed.head? = some '/' then slashed.drop 1 else slashed
  let segments := resolve [] ((splitAt '/' behind).map (Percent.encode Percent.pathMarks))
  segments.reverse.flatMap ('/' :: ·)

/-! ### Whole URLs -/

/-- Cuts off the part behind a mark. -/
def splitMark (mark : Char) (text : List Char) : List Char × Option (List Char) :=
  match text.dropWhile (· ≠ mark) with
  | _ :: behind => (text.takeWhile (· ≠ mark), some behind)
  | [] => (text, none)

/-- The authority at the front of a text, and what stands behind it. -/
def splitAuthority (family : Family) (text : List Char) : List Char × List Char :=
  text.span (!endsAuthority family ·)

/-- Host and port of an authority, and the text of its user. -/
def hostText (authority behind : List Char) : Except UrlError (List Char × List Char × List Char) :=
  let (user, host) := (splitUser authority).getD ([], authority)
  if user.isEmpty ∧ authority.head? = some '@' ∧ host.isEmpty ∧ !behind.isEmpty then
    .error .emptyHost
  else
    let (host, port) := splitHost false host
    .ok (user, host, port)

/-- The host and port of a URL whose hosts are domain names. -/
def readHost (host port : List Char) : Except UrlError (UrlHost × Option Nat) := do
  if host.isEmpty then throw .emptyHost
  return (← UrlHost.parse host, ← portBehind port)

/-- Reads a web address behind the colon of its scheme. -/
def readWeb (secure : Bool) (text : List Char) : Except UrlError WebUrl := do
  let family := Family.web secure
  let (authority, behind) := splitAuthority family (text.dropWhile (isSlash family))
  let (user, host, port) ← hostText authority behind
  let (host, port) ← readHost host port
  let (front, fragment) := splitMark '#' behind
  let (path, query) := splitMark '?' front
  let (user, password) := credentials user
  return {
    secure, user, password, host
    port := port.filter (· ≠ WebUrl.defaultPort secure)
    path := pathOf path
    query := query.map (Percent.encode Percent.queryMarks)
    fragment := fragment.map (Percent.encode Percent.fragmentMarks) }

/-- Checks a URL of another scheme whose hosts are domain names. -/
def checkHosted (text : List Char) : Except UrlError Unit := do
  let (authority, behind) := splitAuthority .hosted (text.dropWhile (isSlash .hosted))
  let (_, host, port) ← hostText authority behind
  let _ ← readHost host port

/-- Checks the URL of a file, which has a host only behind two slashes. -/
def checkFile (text : List Char) : Except UrlError Unit :=
  match text with
  | a :: b :: rest =>
    if isSlash .file a ∧ isSlash .file b then
      let host := (splitAuthority .file rest).1
      if host.isEmpty ∨ isDrive host then .ok () else (UrlHost.parse host).map fun _ => ()
    else .ok ()
  | _ => .ok ()

/-- Checks a URL of a scheme without domain names, which has a host only behind two slashes. -/
def checkOpaque (text : List Char) : Except UrlError Unit :=
  match text with
  | '/' :: '/' :: rest => do
    let (authority, behind) := splitAuthority .opaqueHost rest
    let (user, host, port) ← hostText authority behind
    UrlHost.checkOpaque host
    if host.isEmpty ∧ !port.isEmpty then throw .emptyHost
    let _ ← port? ((port.drop 1).takeWhile (· ≠ '\\'))
    if host.isEmpty ∧ user ≠ [] ∧ user ≠ [':'] then throw .emptyHost
  | _ => .ok ()

/-- Whether a character is dropped at the ends of a URL. -/
def isEdge (c : Char) : Bool := c.toNat ≤ 0x20

/-- Whether a character is dropped wherever it stands in a URL. -/
def isBreak (c : Char) : Bool := c = '\t' || c = '\n' || c = '\r'

/-- A text without what is dropped of a URL. -/
def stripped (text : String) : List Char :=
  (Text.trimBy isEdge text.toList).filter (!isBreak ·)

/-- Reads a URL. -/
def parse (text : String) : Except UrlError UrlTarget :=
  match scheme? (stripped text) with
  | none => .error .noScheme
  | some (scheme, rest) =>
    match Family.ofScheme scheme with
    | .web secure => (readWeb secure rest).map .web
    | .hosted => (checkHosted rest).map fun _ => .other scheme
    | .file => (checkFile rest).map fun _ => .other scheme
    | .opaqueHost => (checkOpaque rest).map fun _ => .other scheme

end Url

end ClusterGateway
