/-!
# The XXH3 hash

The 64-bit XXH3 hash of a byte string with the default secret and seed zero
(`xxh3`), a fast non-cryptographic hash used for fingerprints of texts.

The input is mixed with the 192 bytes of the secret by one of several
schemes chosen by its length: up to 3 bytes, 4 to 8, 9 to 16, 17 to 128,
129 to 240, and beyond in stripes of 64 bytes accumulated in eight lanes and
scrambled after every block of 16 stripes. All arithmetic is modulo `2^64`.
-/

namespace ExprTree.Hash

/-- The default secret. -/
def secret : ByteArray := ⟨#[
  0xb8, 0xfe, 0x6c, 0x39, 0x23, 0xa4, 0x4b, 0xbe, 0x7c, 0x01, 0x81, 0x2c, 0xf7, 0x21, 0xad, 0x1c,
  0xde, 0xd4, 0x6d, 0xe9, 0x83, 0x90, 0x97, 0xdb, 0x72, 0x40, 0xa4, 0xa4, 0xb7, 0xb3, 0x67, 0x1f,
  0xcb, 0x79, 0xe6, 0x4e, 0xcc, 0xc0, 0xe5, 0x78, 0x82, 0x5a, 0xd0, 0x7d, 0xcc, 0xff, 0x72, 0x21,
  0xb8, 0x08, 0x46, 0x74, 0xf7, 0x43, 0x24, 0x8e, 0xe0, 0x35, 0x90, 0xe6, 0x81, 0x3a, 0x26, 0x4c,
  0x3c, 0x28, 0x52, 0xbb, 0x91, 0xc3, 0x00, 0xcb, 0x88, 0xd0, 0x65, 0x8b, 0x1b, 0x53, 0x2e, 0xa3,
  0x71, 0x64, 0x48, 0x97, 0xa2, 0x0d, 0xf9, 0x4e, 0x38, 0x19, 0xef, 0x46, 0xa9, 0xde, 0xac, 0xd8,
  0xa8, 0xfa, 0x76, 0x3f, 0xe3, 0x9c, 0x34, 0x3f, 0xf9, 0xdc, 0xbb, 0xc7, 0xc7, 0x0b, 0x4f, 0x1d,
  0x8a, 0x51, 0xe0, 0x4b, 0xcd, 0xb4, 0x59, 0x31, 0xc8, 0x9f, 0x7e, 0xc9, 0xd9, 0x78, 0x73, 0x64,
  0xea, 0xc5, 0xac, 0x83, 0x34, 0xd3, 0xeb, 0xc3, 0xc5, 0x81, 0xa0, 0xff, 0xfa, 0x13, 0x63, 0xeb,
  0x17, 0x0d, 0xdd, 0x51, 0xb7, 0xf0, 0xda, 0x49, 0xd3, 0x16, 0x55, 0x26, 0x29, 0xd4, 0x68, 0x9e,
  0x2b, 0x16, 0xbe, 0x58, 0x7d, 0x47, 0xa1, 0xfc, 0x8f, 0xf8, 0xb8, 0xd1, 0x7a, 0xd0, 0x31, 0xce,
  0x45, 0xcb, 0x3a, 0x8f, 0x95, 0x16, 0x04, 0x28, 0xaf, 0xd7, 0xfb, 0xca, 0xbb, 0x4b, 0x40, 0x7e]⟩

/-- The primes of the 32-bit hash. -/
def prime32a : UInt64 := 0x9E3779B1
/-- A prime of the 32-bit hash. -/
def prime32b : UInt64 := 0x85EBCA77
/-- A prime of the 32-bit hash. -/
def prime32c : UInt64 := 0xC2B2AE3D
/-- The primes of the 64-bit hash. -/
def prime64a : UInt64 := 0x9E3779B185EBCA87
/-- A prime of the 64-bit hash. -/
def prime64b : UInt64 := 0xC2B2AE3D27D4EB4F
/-- A prime of the 64-bit hash. -/
def prime64c : UInt64 := 0x165667B19E3779F9
/-- A prime of the 64-bit hash. -/
def prime64d : UInt64 := 0x85EBCA77C2B2AE63
/-- A prime of the 64-bit hash. -/
def prime64e : UInt64 := 0x27D4EB2F165667C5
/-- The multiplier of the final mixes. -/
def primeMx1 : UInt64 := 0x165667919E3779F9
/-- The multiplier of the mix of short inputs. -/
def primeMx2 : UInt64 := 0x9FB21C651E98DF25

/-- The little-endian word of `n` bytes at `i` (zero past the end). -/
def readLE (b : ByteArray) (i n : Nat) : UInt64 :=
  (List.range n).foldr (fun k acc => (acc <<< 8) ||| (b.get! (i + k)).toUInt64) 0

/-- The little-endian 64-bit word at `i`. -/
def read64 (b : ByteArray) (i : Nat) : UInt64 := readLE b i 8

/-- The little-endian 32-bit word at `i`. -/
def read32 (b : ByteArray) (i : Nat) : UInt64 := readLE b i 4

/-- Rotation to the left. -/
def rotl (x : UInt64) (r : UInt64) : UInt64 := (x <<< r) ||| (x >>> (64 - r))

/-- The bytes of a word in reverse order. -/
def swap64 (x : UInt64) : UInt64 :=
  (List.range 8).foldl (fun acc k => (acc <<< 8) ||| ((x >>> (8 * k).toUInt64) &&& 0xFF)) 0

/-- The full product of two words, its halves combined by exclusive or. -/
def mulFold (a b : UInt64) : UInt64 :=
  let p := a.toNat * b.toNat
  (p % 0x10000000000000000).toUInt64 ^^^ (p / 0x10000000000000000).toUInt64

/-- The final mix of the 64-bit hash. -/
def avalanche64 (h : UInt64) : UInt64 :=
  let h := h ^^^ (h >>> 33)
  let h := h * prime64b
  let h := h ^^^ (h >>> 29)
  let h := h * prime64c
  h ^^^ (h >>> 32)

/-- The final mix of XXH3. -/
def avalanche (h : UInt64) : UInt64 :=
  let h := h ^^^ (h >>> 37)
  let h := h * primeMx1
  h ^^^ (h >>> 32)

/-- The final mix of inputs of 4 to 8 bytes. -/
def rrmxmx (h : UInt64) (len : UInt64) : UInt64 :=
  let h := h ^^^ (rotl h 49 ^^^ rotl h 24)
  let h := h * primeMx2
  let h := h ^^^ ((h >>> 35) + len)
  let h := h * primeMx2
  h ^^^ (h >>> 28)

/-- The mix of 16 input bytes at `i` with 16 secret bytes at `s`. -/
def mix16 (b : ByteArray) (i s : Nat) : UInt64 :=
  mulFold (read64 b i ^^^ read64 secret s) (read64 b (i + 8) ^^^ read64 secret (s + 8))

/-- The hash of 17 to 128 bytes. -/
def hashUpTo128 (b : ByteArray) : UInt64 :=
  let n := b.size
  let acc := n.toUInt64 * prime64a
  let acc := if n > 32 then
      let acc := if n > 64 then
          let acc := if n > 96 then acc + mix16 b 48 96 + mix16 b (n - 64) 112 else acc
          acc + mix16 b 32 64 + mix16 b (n - 48) 80
        else acc
      acc + mix16 b 16 32 + mix16 b (n - 32) 48
    else acc
  avalanche (acc + mix16 b 0 0 + mix16 b (n - 16) 16)

/-- The hash of 129 to 240 bytes. -/
def hashUpTo240 (b : ByteArray) : UInt64 :=
  let n := b.size
  let acc := n.toUInt64 * prime64a
  let acc := (List.range 8).foldl (fun acc i => acc + mix16 b (16 * i) (16 * i)) acc
  let acc := avalanche acc
  let rounds := n / 16
  let acc := ((List.range rounds).drop 8).foldl
    (fun acc i => acc + mix16 b (16 * i) (16 * (i - 8) + 3)) acc
  avalanche (acc + mix16 b (n - 16) 119)

/-- Accumulate one stripe of 64 bytes at `i` with the secret at `s`. -/
def stripe (b : ByteArray) (acc : Array UInt64) (i s : Nat) : Array UInt64 :=
  (List.range 8).foldl (fun acc k =>
    let v := read64 b (i + 8 * k)
    let key := v ^^^ read64 secret (s + 8 * k)
    let acc := acc.modify (Nat.xor k 1) (· + v)
    acc.modify k (fun a : UInt64 => a + (key &&& (0xFFFFFFFF : UInt64)) * (key >>> 32))) acc

/-- Scramble the lanes after a block. -/
def scramble (acc : Array UInt64) : Array UInt64 :=
  (List.range 8).foldl (fun acc k =>
    acc.modify k fun a => ((a ^^^ (a >>> 47)) ^^^ read64 secret (128 + 8 * k)) * prime32a) acc

/-- The hash of more than 240 bytes. -/
def hashLong (b : ByteArray) : UInt64 :=
  let n := b.size
  let blockLen := 1024
  let blocks := (n - 1) / blockLen
  let acc0 : Array UInt64 :=
    #[prime32c, prime64a, prime64b, prime64c, prime64d, prime32b, prime64e, prime32a]
  let acc := (List.range blocks).foldl (fun acc blk =>
    let acc := (List.range 16).foldl (fun acc k => stripe b acc (blk * blockLen + 64 * k) (8 * k)) acc
    scramble acc) acc0
  let stripes := ((n - 1) - blockLen * blocks) / 64
  let acc := (List.range stripes).foldl
    (fun acc k => stripe b acc (blocks * blockLen + 64 * k) (8 * k)) acc
  let acc := stripe b acc (n - 64) (192 - 64 - 7)
  let result := (List.range 4).foldl (fun r k =>
    r + mulFold (acc.getD (2 * k) 0 ^^^ read64 secret (11 + 16 * k))
      (acc.getD (2 * k + 1) 0 ^^^ read64 secret (11 + 16 * k + 8))) (n.toUInt64 * prime64a)
  avalanche result

/-- The XXH3 hash of a byte string (see the module header). -/
def xxh3 (b : ByteArray) : UInt64 :=
  let n := b.size
  if n = 0 then avalanche64 (read64 secret 56 ^^^ read64 secret 64)
  else if n ≤ 3 then
    let c1 := (b.get! 0).toUInt64
    let c2 := (b.get! (n / 2)).toUInt64
    let c3 := (b.get! (n - 1)).toUInt64
    let combined := (c1 <<< 16) ||| (c2 <<< 24) ||| c3 ||| (n.toUInt64 <<< 8)
    avalanche64 (combined ^^^ (read32 secret 0 ^^^ read32 secret 4))
  else if n ≤ 8 then
    let lo := read32 b 0
    let hi := read32 b (n - 4)
    let keyed := (hi + (lo <<< 32)) ^^^ (read64 secret 8 ^^^ read64 secret 16)
    rrmxmx keyed n.toUInt64
  else if n ≤ 16 then
    let lo := read64 b 0 ^^^ (read64 secret 24 ^^^ read64 secret 32)
    let hi := read64 b (n - 8) ^^^ (read64 secret 40 ^^^ read64 secret 48)
    avalanche (n.toUInt64 + swap64 lo + hi + mulFold lo hi)
  else if n ≤ 128 then hashUpTo128 b
  else if n ≤ 240 then hashUpTo240 b
  else hashLong b

/-- The XXH3 hash of the UTF-8 bytes of a text. -/
def xxh3Text (s : String) : UInt64 := xxh3 s.toUTF8

end ExprTree.Hash
