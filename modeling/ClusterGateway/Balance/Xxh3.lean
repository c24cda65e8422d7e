/-! # The XXH3 hash of 64 bits

XXH3 with seed zero and its own default secret, over the octets of a text. Short inputs are mixed
with fixed parts of the secret, longer ones in steps of sixteen octets, and inputs beyond 240 octets
in stripes of 64 over eight lanes.
-/

namespace ClusterGateway.Xxh3

/-- The default secret. -/
def secret : Array UInt8 :=
    #[0xB8, 0xFE, 0x6C, 0x39, 0x23, 0xA4, 0x4B, 0xBE, 0x7C, 0x01, 0x81, 0x2C,
     0xF7, 0x21, 0xAD, 0x1C, 0xDE, 0xD4, 0x6D, 0xE9, 0x83, 0x90, 0x97, 0xDB,
     0x72, 0x40, 0xA4, 0xA4, 0xB7, 0xB3, 0x67, 0x1F, 0xCB, 0x79, 0xE6, 0x4E,
     0xCC, 0xC0, 0xE5, 0x78, 0x82, 0x5A, 0xD0, 0x7D, 0xCC, 0xFF, 0x72, 0x21,
     0xB8, 0x08, 0x46, 0x74, 0xF7, 0x43, 0x24, 0x8E, 0xE0, 0x35, 0x90, 0xE6,
     0x81, 0x3A, 0x26, 0x4C, 0x3C, 0x28, 0x52, 0xBB, 0x91, 0xC3, 0x00, 0xCB,
     0x88, 0xD0, 0x65, 0x8B, 0x1B, 0x53, 0x2E, 0xA3, 0x71, 0x64, 0x48, 0x97,
     0xA2, 0x0D, 0xF9, 0x4E, 0x38, 0x19, 0xEF, 0x46, 0xA9, 0xDE, 0xAC, 0xD8,
     0xA8, 0xFA, 0x76, 0x3F, 0xE3, 0x9C, 0x34, 0x3F, 0xF9, 0xDC, 0xBB, 0xC7,
     0xC7, 0x0B, 0x4F, 0x1D, 0x8A, 0x51, 0xE0, 0x4B, 0xCD, 0xB4, 0x59, 0x31,
     0xC8, 0x9F, 0x7E, 0xC9, 0xD9, 0x78, 0x73, 0x64, 0xEA, 0xC5, 0xAC, 0x83,
     0x34, 0xD3, 0xEB, 0xC3, 0xC5, 0x81, 0xA0, 0xFF, 0xFA, 0x13, 0x63, 0xEB,
     0x17, 0x0D, 0xDD, 0x51, 0xB7, 0xF0, 0xDA, 0x49, 0xD3, 0x16, 0x55, 0x26,
     0x29, 0xD4, 0x68, 0x9E, 0x2B, 0x16, 0xBE, 0x58, 0x7D, 0x47, 0xA1, 0xFC,
     0x8F, 0xF8, 0xB8, 0xD1, 0x7A, 0xD0, 0x31, 0xCE, 0x45, 0xCB, 0x3A, 0x8F,
     0x95, 0x16, 0x04, 0x28, 0xAF, 0xD7, 0xFB, 0xCA, 0xBB, 0x4B, 0x40, 0x7E]

/-- The octet at a position; zero beyond the end. -/
def octet (bytes : Array UInt8) (i : Nat) : UInt64 := (bytes.getD i 0).toUInt64

/-- The four octets from a position on as a number, lowest first. -/
def word32 (bytes : Array UInt8) (i : Nat) : UInt64 :=
  octet bytes i ||| octet bytes (i + 1) <<< 8 ||| octet bytes (i + 2) <<< 16 |||
    octet bytes (i + 3) <<< 24

/-- The eight octets from a position on as a number, lowest first. -/
def word64 (bytes : Array UInt8) (i : Nat) : UInt64 :=
  word32 bytes i ||| word32 bytes (i + 4) <<< 32

/-- The first factor of 32 bits. -/
def prime32a : UInt64 := 0x9E3779B1
/-- The second factor of 32 bits. -/
def prime32b : UInt64 := 0x85EBCA77
/-- The third factor of 32 bits. -/
def prime32c : UInt64 := 0xC2B2AE3D
/-- The first factor of 64 bits. -/
def prime64a : UInt64 := 0x9E3779B185EBCA87
/-- The second factor of 64 bits. -/
def prime64b : UInt64 := 0xC2B2AE3D27D4EB4F
/-- The third factor of 64 bits. -/
def prime64c : UInt64 := 0x165667B19E3779F9
/-- The fourth factor of 64 bits. -/
def prime64d : UInt64 := 0x85EBCA77C2B2AE63
/-- The fifth factor of 64 bits. -/
def prime64e : UInt64 := 0x27D4EB2F165667C5

/-- The bits of a number moved up, those that fall off the top coming in at the bottom. -/
def rotateLeft (x : UInt64) (n : UInt64) : UInt64 := (x <<< n) ||| (x >>> (64 - n))

/-- The octets of a number in the opposite order. -/
def swapOctets (x : UInt64) : UInt64 :=
  (List.range 8).foldl
    (fun acc i => acc ||| ((x >>> (8 * i).toUInt64) &&& 0xFF) <<< (56 - 8 * i).toUInt64) 0

/-- The two halves of a product of 128 bits, joined by exclusive or. -/
def foldedProduct (x y : UInt64) : UInt64 :=
  let product := x.toNat * y.toNat
  product.toUInt64 ^^^ (product / Nat.pow 2 64).toUInt64

/-- The final mixing of longer inputs. -/
def avalanche (h : UInt64) : UInt64 :=
  let h := (h ^^^ (h >>> 37)) * 0x165667919E3779F9
  h ^^^ (h >>> 32)

/-- The final mixing of the shortest inputs. -/
def strongAvalanche (h : UInt64) : UInt64 :=
  let h := (h ^^^ (h >>> 33)) * prime64b
  let h := (h ^^^ (h >>> 29)) * prime64c
  h ^^^ (h >>> 32)

/-- Sixteen octets of input mixed with sixteen of the secret. -/
def mix16 (bytes : Array UInt8) (i s : Nat) : UInt64 :=
  foldedProduct (word64 bytes i ^^^ word64 secret s)
    (word64 bytes (i + 8) ^^^ word64 secret (s + 8))

/-- The hash of at most sixteen octets. -/
def short (bytes : Array UInt8) : UInt64 :=
  let n := bytes.size
  if n = 0 then strongAvalanche (word64 secret 56 ^^^ word64 secret 64)
  else if n ≤ 3 then
    let combined := octet bytes 0 <<< 16 ||| octet bytes (n / 2) <<< 24 ||| octet bytes (n - 1) |||
      n.toUInt64 <<< 8
    strongAvalanche (combined ^^^ (word32 secret 0 ^^^ word32 secret 4))
  else if n ≤ 8 then
    let keyed := (word32 bytes (n - 4) + word32 bytes 0 <<< 32) ^^^
      (word64 secret 8 ^^^ word64 secret 16)
    let h := keyed ^^^ rotateLeft keyed 49 ^^^ rotateLeft keyed 24
    let h := h * 0x9FB21C651E98DF25
    let h := (h ^^^ ((h >>> 35) + n.toUInt64)) * 0x9FB21C651E98DF25
    h ^^^ (h >>> 28)
  else
    let low := word64 bytes 0 ^^^ (word64 secret 24 ^^^ word64 secret 32)
    let high := word64 bytes (n - 8) ^^^ (word64 secret 40 ^^^ word64 secret 48)
    avalanche (n.toUInt64 + swapOctets low + high + foldedProduct low high)

/-- The hash of 17 to 128 octets: pairs of steps from both ends towards the middle. -/
def medium (bytes : Array UInt8) : UInt64 :=
  let n := bytes.size
  let pairs := (n + 31) / 32
  let sum := (List.range pairs).foldl
    (fun acc i =>
      acc + mix16 bytes (16 * i) (32 * i) + mix16 bytes (n - 16 * (i + 1)) (32 * i + 16))
    (n.toUInt64 * prime64a)
  avalanche sum

/-- The hash of 129 to 240 octets. -/
def long (bytes : Array UInt8) : UInt64 :=
  let n := bytes.size
  let first := (List.range 8).foldl (fun acc i => acc + mix16 bytes (16 * i) (16 * i))
    (n.toUInt64 * prime64a)
  let rest := (List.range (n / 16 - 8)).foldl
    (fun acc i => acc + mix16 bytes (16 * (i + 8)) (16 * i + 3)) (avalanche first)
  avalanche (rest + mix16 bytes (n - 16) 119)

/-- Adds a stripe of 64 octets to the eight lanes. -/
def addStripe (lanes : List UInt64) (bytes : Array UInt8) (i s : Nat) : List UInt64 :=
  (List.range 8).map fun k =>
    let partner := if k % 2 = 0 then k + 1 else k - 1
    let keyed := word64 bytes (i + 8 * k) ^^^ word64 secret (s + 8 * k)
    lanes.getD k 0 + word64 bytes (i + 8 * partner) +
      (keyed &&& (0xFFFFFFFF : UInt64)) * (keyed >>> 32)

/-- Mixes the lanes after a block of sixteen stripes. -/
def scramble (lanes : List UInt64) : List UInt64 :=
  lanes.zipIdx.map fun (lane, k) =>
    (lane ^^^ (lane >>> 47) ^^^ word64 secret (128 + 8 * k)) * prime32a

/-- The hash of more than 240 octets. -/
def huge (bytes : Array UInt8) : UInt64 :=
  let n := bytes.size
  let start := [prime32c, prime64a, prime64b, prime64c, prime64d, prime32b, prime64e, prime32a]
  let blocks := (n - 1) / 1024
  let full := (List.range blocks).foldl
    (fun lanes block =>
      scramble ((List.range 16).foldl
        (fun lanes k => addStripe lanes bytes (1024 * block + 64 * k) (8 * k)) lanes))
    start
  let stripes := (n - 1 - 1024 * blocks) / 64
  let partly := (List.range stripes).foldl
    (fun lanes k => addStripe lanes bytes (1024 * blocks + 64 * k) (8 * k)) full
  let lanes := addStripe partly bytes (n - 64) 121
  let sum := (List.range 4).foldl
    (fun acc k =>
      acc + foldedProduct (lanes.getD (2 * k) 0 ^^^ word64 secret (11 + 16 * k))
        (lanes.getD (2 * k + 1) 0 ^^^ word64 secret (19 + 16 * k)))
    (n.toUInt64 * prime64a)
  avalanche sum

/-- The hash of some octets. -/
def ofOctets (bytes : Array UInt8) : UInt64 :=
  if bytes.size ≤ 16 then short bytes
  else if bytes.size ≤ 128 then medium bytes
  else if bytes.size ≤ 240 then long bytes
  else huge bytes

def hash (s : String) : UInt64 := ofOctets s.toUTF8.data

end ClusterGateway.Xxh3
