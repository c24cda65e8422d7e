import ClusterGateway.Idna.Domain
import ClusterGateway.Net.Address
import ClusterGateway.Url.Percent

/-! # Hosts of URLs

A host is an address or a domain name. Text in brackets is an address of version six. Other text is
a domain name, unless its last label is a number: then it must be an address of version four, whose
parts may be written in decimal, octal or hexadecimal and of which the last fills all octets that
are left.
-/

namespace ClusterGateway

/-- Why a text is no URL. -/
inductive UrlError where
  /-- There is no scheme, and nothing to which the URL could be relative. -/
  | noScheme
  | emptyHost
  | badPort
  /-- The host looks like an address of version four and is none. -/
  | badIpv4
  /-- The host looks like an address of version six and is none. -/
  | badIpv6
  | badDomain
  /-- The host holds a mark that no host may hold. -/
  | badCharacter
deriving DecidableEq, Repr

/-- The explanation of what is wrong with a URL. -/
def UrlError.message : UrlError → String
  | .noScheme => "relative URL without a base"
  | .emptyHost => "empty host"
  | .badPort => "invalid port number"
  | .badIpv4 => "invalid IPv4 address"
  | .badIpv6 => "invalid IPv6 address"
  | .badDomain => "invalid international domain name"
  | .badCharacter => "invalid domain character"

/-- The host of a URL. -/
inductive UrlHost where
  | domain (name : String)
  | v4 (address : Ipv4)
  | v6 (address : Ipv6)
deriving DecidableEq, Repr, Inhabited

namespace UrlHost

def text : UrlHost → String
  | domain name => name
  | v4 address => address.text
  | v6 address => "[" ++ address.compressed ++ "]"

/-! ### Addresses of version four in their many spellings -/

/-- The value of digits in a base, if all of them are digits of it. -/
def valueIn? (base : Nat) (digits : List Char) : Option Nat :=
  digits.foldlM
    (fun n c => (Ipv6.hexValue? c).bind fun d => if d < base then some (n * base + d) else none) 0

/-- A number in hexadecimal behind `0x`, in octal behind `0`, or in decimal; it may exceed 32 bits.
-/
def number? : List Char → Option Nat
  | [] => none
  | '0' :: 'x' :: digits => valueIn? 16 digits
  | '0' :: 'X' :: digits => valueIn? 16 digits
  | '0' :: d :: digits => valueIn? 8 (d :: digits)
  | digits => valueIn? 10 digits

/-- The labels of a domain name without an empty one at the end. -/
def labels (name : List Char) : List (List Char) :=
  let all := splitAt '.' name
  if all.getLast? = some [] then all.dropLast else all

/-- Whether the last label is a number, or consists of decimal digits. -/
def endsInNumber (name : List Char) : Bool :=
  match (labels name).getLast? with
  | none => false
  | some last => (!last.isEmpty && last.all Char.isDigit) || (number? last).isSome

/-- The address whose parts are these numbers. -/
def addressOf? (numbers : List Nat) : Option Ipv4 :=
  match numbers.getLast? with
  | none => none
  | some last =>
    let front := numbers.dropLast
    if 3 < front.length ∨ Nat.pow 256 (4 - front.length) ≤ last ∨ front.any (255 < ·) then none
    else
      let high := front.foldl (fun n part => n * 256 + part) 0
      some ⟨(high * Nat.pow 256 (4 - front.length) + last).toUInt32⟩

/-- An address of version four in any spelling. -/
def address? (name : List Char) : Option Ipv4 := do addressOf? (← (labels name).mapM number?)

/-! ### Hosts -/

/-- An address of version six from the text after its opening bracket. -/
def ofBracketed (text : List Char) : Except UrlError UrlHost :=
  if text.getLast? ≠ some ']' then .error .badIpv6
  else
    match Ipv6.parse? text.dropLast with
    | some address => .ok (v6 address)
    | none => .error .badIpv6

/-- The host of a URL whose scheme knows domain names. -/
def parse : List Char → Except UrlError UrlHost
  | '[' :: rest => ofBracketed rest
  | text =>
    match (ofUtf8? (Percent.decode (utf8 (String.ofList text)))).bind
        fun decoded => Idna.domain? decoded.toList with
    | none => .error .badDomain
    | some [] => .error .emptyHost
    | some name =>
      if endsInNumber name then
        match address? name with
        | some address => .ok (v4 address)
        | none => .error .badIpv4
      else .ok (domain (String.ofList name))

/-- The marks that stand in no host at all. -/
def hostless : List Char := "\x00 #/:<>?@[\\]^|".toList

/-- What is wrong with the host of a URL whose scheme does not know domain names, if anything is. -/
def checkOpaque : List Char → Except UrlError Unit
  | '[' :: rest => (ofBracketed rest).map fun _ => ()
  | text => if text.any hostless.contains then .error .badCharacter else .ok ()

end UrlHost

end ClusterGateway
