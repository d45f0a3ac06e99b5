/-!
# SHA-256

The digest of a run of bytes, computed block by block of sixty-four bytes on
words of thirty-two bits, and the authentication code HMAC built on it.
-/

namespace CivicRegistry.Digest

/-- A run of bytes. -/
abbrev Bytes := List UInt8

/-- The words that are mixed into the rounds: the first thirty-two bits of the
fractional parts of the cube roots of the first sixty-four primes. -/
def roundWords : List UInt32 :=
  [0x428a2f98, 0x71374491, 0xb5c0fbcf, 0xe9b5dba5, 0x3956c25b, 0x59f111f1,
    0x923f82a4, 0xab1c5ed5, 0xd807aa98, 0x12835b01, 0x243185be, 0x550c7dc3,
    0x72be5d74, 0x80deb1fe, 0x9bdc06a7, 0xc19bf174, 0xe49b69c1, 0xefbe4786,
    0x0fc19dc6, 0x240ca1cc, 0x2de92c6f, 0x4a7484aa, 0x5cb0a9dc, 0x76f988da,
    0x983e5152, 0xa831c66d, 0xb00327c8, 0xbf597fc7, 0xc6e00bf3, 0xd5a79147,
    0x06ca6351, 0x14292967, 0x27b70a85, 0x2e1b2138, 0x4d2c6dfc, 0x53380d13,
    0x650a7354, 0x766a0abb, 0x81c2c92e, 0x92722c85, 0xa2bfe8a1, 0xa81a664b,
    0xc24b8b70, 0xc76c51a3, 0xd192e819, 0xd6990624, 0xf40e3585, 0x106aa070,
    0x19a4c116, 0x1e376c08, 0x2748774c, 0x34b0bcb5, 0x391c0cb3, 0x4ed8aa4a,
    0x5b9cca4f, 0x682e6ff3, 0x748f82ee, 0x78a5636f, 0x84c87814, 0x8cc70208,
    0x90befffa, 0xa4506ceb, 0xbef9a3f7, 0xc67178f2]

/-- The words of a digest under way. -/
structure Working where
  a : UInt32
  b : UInt32
  c : UInt32
  d : UInt32
  e : UInt32
  f : UInt32
  g : UInt32
  h : UInt32

namespace Working

/-- The first thirty-two bits of the fractional parts of the square roots of the
first eight primes. -/
def initial : Working :=
  ⟨0x6a09e667, 0xbb67ae85, 0x3c6ef372, 0xa54ff53a, 0x510e527f, 0x9b05688c,
    0x1f83d9ab, 0x5be0cd19⟩

def add (left right : Working) : Working :=
  ⟨left.a + right.a, left.b + right.b, left.c + right.c, left.d + right.d,
    left.e + right.e, left.f + right.f,
    left.g + right.g, left.h + right.h⟩

def words (working : Working) : List UInt32 :=
  [working.a, working.b, working.c, working.d, working.e, working.f, working.g,
    working.h]

end Working

/-- A word turned right by a number of bits between zero and thirty-two. -/
def turned (word : UInt32) (bits : UInt32) : UInt32 :=
  (word >>> bits) ||| (word <<< (32 - bits))

/-- One round with a word of the schedule and a round word. -/
def round (s : Working) (word roundWord : UInt32) : Working :=
  let mixed := turned s.e 6 ^^^ turned s.e 11 ^^^ turned s.e 25
  let choice := (s.e &&& s.f) ^^^ ((~~~ s.e) &&& s.g)
  let first := s.h + mixed + choice + roundWord + word
  let turnedA := turned s.a 2 ^^^ turned s.a 13 ^^^ turned s.a 22
  let majority := (s.a &&& s.b) ^^^ (s.a &&& s.c) ^^^ (s.b &&& s.c)
  ⟨first + (turnedA + majority), s.a, s.b, s.c, s.d + first, s.e, s.f, s.g⟩

/-- The next word of a schedule whose last sixteen words are given, the latest
first. -/
def nextWord : List UInt32 → UInt32
  | [_, w2, _, _, _, _, w7, _, _, _, _, _, _, _, w15, w16] =>
    let low := turned w15 7 ^^^ turned w15 18 ^^^ (w15 >>> 3)
    let high := turned w2 17 ^^^ turned w2 19 ^^^ (w2 >>> 10)
    w16 + low + w7 + high
  | _ => 0

/-- The schedule of a block: its sixteen words, given latest first, and `count`
more. -/
def schedule : Nat → List UInt32 → List UInt32
  | 0, latest => latest
  | count + 1, latest =>
    let words := schedule count latest
    nextWord (words.take 16) :: words

/-- The number of four bytes, the highest first. -/
def wordOfBytes (bytes : Bytes) : UInt32 :=
  bytes.foldl (fun word byte => (word <<< 8) ||| byte.toUInt32) 0

def bytesOfWord (word : UInt32) : Bytes :=
  [(word >>> 24).toUInt8, (word >>> 16).toUInt8, (word >>> 8).toUInt8,
    word.toUInt8]

/-- The sixteen words of a block, the latest first. -/
def blockWords (block : Bytes) : List UInt32 :=
  (List.range 16).map fun i => wordOfBytes ((block.drop (60 - 4 * i)).take 4)

/-- Takes a block of sixty-four bytes into a digest. -/
def absorb (state : Working) (block : Bytes) : Working :=
  let words := (schedule 48 (blockWords block)).reverse
  state.add ((words.zip roundWords).foldl
    (fun s (word, roundWord) => round s word roundWord) state)

/-- Eight bytes of a number, the highest first. -/
def lengthBytes (n : Nat) : Bytes :=
  (List.range 8).map fun i => UInt8.ofNat (n / Nat.pow 256 (7 - i))

/-- The message with a one bit, zeros and its length in bits, up to a whole
number of blocks. -/
def padded (message : Bytes) : Bytes :=
  let zeros := (119 - message.length % 64) % 64
  message ++ 0x80 :: List.replicate zeros 0 ++ lengthBytes (8 * message.length)

/-- Takes some blocks of sixty-four bytes into a digest. -/
def absorbBlocks : Nat → Working → Bytes → Working
  | 0, state, _ => state
  | count + 1, state, bytes =>
    absorbBlocks count (absorb state (bytes.take 64)) (bytes.drop 64)

/-- The digest of a message, thirty-two bytes. -/
def sha256 (message : Bytes) : Bytes :=
  let bytes := padded message
  (absorbBlocks (bytes.length / 64) .initial bytes).words.flatMap bytesOfWord

/-- A key as a block: one that is longer is replaced by its digest. -/
def keyBlock (key : Bytes) : Bytes :=
  let short := if 64 < key.length then sha256 key else key
  short ++ List.replicate (64 - short.length) 0

/-- The authentication code of a message under a key. -/
def hmacSha256 (key message : Bytes) : Bytes :=
  let block := keyBlock key
  let inner := sha256 (block.map (· ^^^ 0x36) ++ message)
  sha256 (block.map (· ^^^ 0x5c) ++ inner)

end CivicRegistry.Digest
