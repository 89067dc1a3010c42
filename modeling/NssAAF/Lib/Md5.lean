import NssAAF.Lib.Bytes

/-!
# MD5 and HMAC-MD5

The hash function of RFC 1321 and the keyed hash of RFC 2104 over it, as functions that run. Nothing
is proved about how hard they are to forge: what a development states about a packet, it states with
the values themselves.
-/

namespace Md5

def stepConstants : List UInt32 :=
  [0xd76aa478, 0xe8c7b756, 0x242070db, 0xc1bdceee, 0xf57c0faf, 0x4787c62a, 0xa8304613, 0xfd469501,
   0x698098d8, 0x8b44f7af, 0xffff5bb1, 0x895cd7be, 0x6b901122, 0xfd987193, 0xa679438e, 0x49b40821,
   0xf61e2562, 0xc040b340, 0x265e5a51, 0xe9b6c7aa, 0xd62f105d, 0x02441453, 0xd8a1e681, 0xe7d3fbc8,
   0x21e1cde6, 0xc33707d6, 0xf4d50d87, 0x455a14ed, 0xa9e3e905, 0xfcefa3f8, 0x676f02d9, 0x8d2a4c8a,
   0xfffa3942, 0x8771f681, 0x6d9d6122, 0xfde5380c, 0xa4beea44, 0x4bdecfa9, 0xf6bb4b60, 0xbebfbc70,
   0x289b7ec6, 0xeaa127fa, 0xd4ef3085, 0x04881d05, 0xd9d4d039, 0xe6db99e5, 0x1fa27cf8, 0xc4ac5665,
   0xf4292244, 0x432aff97, 0xab9423a7, 0xfc93a039, 0x655b59c3, 0x8f0ccc92, 0xffeff47d, 0x85845dd1,
   0x6fa87e4f, 0xfe2ce6e0, 0xa3014314, 0x4e0811a1, 0xf7537e82, 0xbd3af235, 0x2ad7d2bb, 0xeb86d391]

/-- The rotations of the steps, by the round of sixteen steps. -/
def rotations : List (List UInt32) :=
  [[7, 12, 17, 22], [5, 9, 14, 20], [4, 11, 16, 23], [6, 10, 15, 21]]

structure Words where
  a : UInt32
  b : UInt32
  c : UInt32
  d : UInt32

def init : Words := ⟨0x67452301, 0xefcdab89, 0x98badcfe, 0x10325476⟩

def rotl (x n : UInt32) : UInt32 := (x <<< n) ||| (x >>> (32 - n))

/-- The function of a round and the word of the block that step `i` takes. -/
def mix (i : ℕ) (v : Words) : UInt32 × ℕ :=
  match i / 16 with
  | 0 => ((v.b &&& v.c) ||| (~~~ v.b &&& v.d), i)
  | 1 => ((v.d &&& v.b) ||| (~~~ v.d &&& v.c), (5 * i + 1) % 16)
  | 2 => (v.b ^^^ v.c ^^^ v.d, (3 * i + 5) % 16)
  | _ => (v.c ^^^ (v.b ||| ~~~ v.d), 7 * i % 16)

/-- The little-endian words of an octet string. -/
def wordsOf : Bytes → List UInt32
  | p :: q :: r :: s :: rest =>
    UInt32.ofNat (((s.toNat * 256 + r.toNat) * 256 + q.toNat) * 256 + p.toNat) :: wordsOf rest
  | _ => []

/-- Step `i` with constant `k`. -/
def step (block : List UInt32) (v : Words) (i : ℕ) (k : UInt32) : Words :=
  let (f, g) := mix i v
  let s := (rotations.getD (i / 16) []).getD (i % 4) 0
  ⟨v.d, v.b + rotl (v.a + f + k + block.getD g 0) s, v.b, v.c⟩

/-- The compression of one 64-octet block into the hash value. -/
def compress (v : Words) (block : Bytes) : Words :=
  let words := wordsOf block
  let u := ((List.range 64).zip stepConstants).foldl (fun u ik => step words u ik.1 ik.2) v
  ⟨v.a + u.a, v.b + u.b, v.c + u.c, v.d + u.d⟩

/-- The message, a one bit, zeros up to a multiple of the block size, and the length in bits. -/
def pad (m : Bytes) : Bytes :=
  m ++ 0x80 :: List.replicate ((119 - m.length % 64) % 64) 0 ++
    (List.range 8).map fun i => UInt8.ofNat (m.length * 8 / Nat.pow 256 i)

/-- The little-endian octets of a word. -/
def octets (x : UInt32) : Bytes := (List.range 4).map fun i => UInt8.ofNat (x.toNat / Nat.pow 256 i)

def sum (m : Bytes) : Bytes :=
  let p := pad m
  let v := ((List.range (p.length / 64)).map fun i => (p.drop (64 * i)).take 64).foldl compress init
  [v.a, v.b, v.c, v.d].flatMap octets

theorem length_octets (x : UInt32) : (octets x).length = 4 := by
  unfold octets
  rw [List.length_map, List.length_range]

theorem length_sum (m : Bytes) : (sum m).length = 16 := by
  simp [sum, length_octets]

-- the digest of the three octets "abc" that the standard gives
example : sum [0x61, 0x62, 0x63] =
    [0x90, 0x01, 0x50, 0x98, 0x3c, 0xd2, 0x4f, 0xb0,
     0xd6, 0x96, 0x3f, 0x7d, 0x28, 0xe1, 0x7f, 0x72] := by
  decide +kernel

/-- The key in the length of a block. A longer key is hashed. -/
def blockKey (key : Bytes) : Bytes :=
  let k := if 64 < key.length then sum key else key
  k ++ List.replicate (64 - k.length) 0

def hmac (key m : Bytes) : Bytes :=
  sum ((blockKey key).map (· ^^^ 0x5c) ++ sum ((blockKey key).map (· ^^^ 0x36) ++ m))

theorem length_hmac (key m : Bytes) : (hmac key m).length = 16 := length_sum _

-- the second test case of the standard: the key "Jefe" and "what do ya want for nothing?"
example : hmac (Bytes.ofString "Jefe") (Bytes.ofString "what do ya want for nothing?") =
    [0x75, 0x0c, 0x78, 0x3e, 0x6a, 0xb0, 0xb5, 0x03,
     0xea, 0xa8, 0x6e, 0x31, 0x0a, 0x5d, 0xb7, 0x38] := by
  decide +kernel

end Md5
