import Gossip.Bytes.Octets

/-! The SHA-256 digest.

A message is padded to whole blocks of 64 bytes: a byte `0x80`, then zeros, then the length in bits
as eight big-endian bytes. Each block is expanded to sixty-four words, which drive as many rounds on
a state of eight words. The digest is the state after the last block, big-endian. -/
namespace Gossip.Digest.Sha256

/-- The eight words that the rounds work on. -/
structure State where
  a : UInt32
  b : UInt32
  c : UInt32
  d : UInt32
  e : UInt32
  f : UInt32
  g : UInt32
  h : UInt32
  deriving DecidableEq, Repr

/-- The state before the first block: the fractional parts of the square roots of the first eight
primes. -/
def initial : State :=
  ⟨0x6a09e667, 0xbb67ae85, 0x3c6ef372, 0xa54ff53a, 0x510e527f, 0x9b05688c, 0x1f83d9ab, 0x5be0cd19⟩

/-- The constants of the rounds: the fractional parts of the cube roots of the first sixty-four
primes. -/
def constants : List UInt32 :=
  [0x428a2f98, 0x71374491, 0xb5c0fbcf, 0xe9b5dba5, 0x3956c25b, 0x59f111f1, 0x923f82a4, 0xab1c5ed5,
   0xd807aa98, 0x12835b01, 0x243185be, 0x550c7dc3, 0x72be5d74, 0x80deb1fe, 0x9bdc06a7, 0xc19bf174,
   0xe49b69c1, 0xefbe4786, 0x0fc19dc6, 0x240ca1cc, 0x2de92c6f, 0x4a7484aa, 0x5cb0a9dc, 0x76f988da,
   0x983e5152, 0xa831c66d, 0xb00327c8, 0xbf597fc7, 0xc6e00bf3, 0xd5a79147, 0x06ca6351, 0x14292967,
   0x27b70a85, 0x2e1b2138, 0x4d2c6dfc, 0x53380d13, 0x650a7354, 0x766a0abb, 0x81c2c92e, 0x92722c85,
   0xa2bfe8a1, 0xa81a664b, 0xc24b8b70, 0xc76c51a3, 0xd192e819, 0xd6990624, 0xf40e3585, 0x106aa070,
   0x19a4c116, 0x1e376c08, 0x2748774c, 0x34b0bcb5, 0x391c0cb3, 0x4ed8aa4a, 0x5b9cca4f, 0x682e6ff3,
   0x748f82ee, 0x78a5636f, 0x84c87814, 0x8cc70208, 0x90befffa, 0xa4506ceb, 0xbef9a3f7, 0xc67178f2]

def rotateRight (x amount : UInt32) : UInt32 := (x >>> amount) ||| (x <<< (32 - amount))

/-- Four bytes as a word, the most significant first. -/
def word (a b c d : UInt8) : UInt32 :=
  (a.toUInt32 <<< 24) ||| (b.toUInt32 <<< 16) ||| (c.toUInt32 <<< 8) ||| d.toUInt32

/-- A word as four bytes, the most significant first. -/
def bytesOf (w : UInt32) : Octets 4 :=
  ⟨[(w >>> 24).toUInt8, (w >>> 16).toUInt8, (w >>> 8).toUInt8, w.toUInt8], rfl⟩

/-- Takes this many words from the front of some bytes, onto those given, and gives what is left of
the bytes too. The newest word comes first. -/
def takeWords : Nat → List UInt32 → Bytes → List UInt32 × Bytes
  | count + 1, words, a :: b :: c :: d :: rest => takeWords count (word a b c d :: words) rest
  | _, words, rest => (words, rest)

/-- The word after sixteen or more, of which the newest comes first. -/
def nextWord : List UInt32 → UInt32
  | _ :: late :: _ :: _ :: _ :: _ :: middle ::
      _ :: _ :: _ :: _ :: _ :: _ :: _ :: early :: first :: _ =>
    (rotateRight late 17 ^^^ rotateRight late 19 ^^^ (late >>> 10)) + middle +
      (rotateRight early 7 ^^^ rotateRight early 18 ^^^ (early >>> 3)) + first
  | _ => 0

/-- Adds this many words to those given, of which the newest comes first. -/
def expand : Nat → List UInt32 → List UInt32
  | 0, words => words
  | count + 1, words => expand count (nextWord words :: words)

/-- One round, with its constant and its word. -/
def round (s : State) (constant w : UInt32) : State :=
  let choice := (s.e &&& s.f) ^^^ (~~~s.e &&& s.g)
  let majority := (s.a &&& s.b) ^^^ (s.a &&& s.c) ^^^ (s.b &&& s.c)
  let upper := rotateRight s.a 2 ^^^ rotateRight s.a 13 ^^^ rotateRight s.a 22
  let lower := rotateRight s.e 6 ^^^ rotateRight s.e 11 ^^^ rotateRight s.e 25
  let t := s.h + lower + choice + constant + w
  ⟨t + upper + majority, s.a, s.b, s.c, s.d + t, s.e, s.f, s.g⟩

/-- A round for each constant and word. -/
def rounds : List UInt32 → List UInt32 → State → State
  | constant :: constants, w :: words, s => rounds constants words (round s constant w)
  | _, _, s => s

/-- Works the sixteen words of a block into the state; the newest word comes first. -/
def compress (s : State) (words : List UInt32) : State :=
  let t := rounds constants (expand 48 words).reverse s
  ⟨s.a + t.a, s.b + t.b, s.c + t.c, s.d + t.d, s.e + t.e, s.f + t.f, s.g + t.g, s.h + t.h⟩

/-- What follows a message of this length in its last block. -/
def padding (length : Nat) : Bytes :=
  0x80 :: (List.replicate ((119 - length % 64) % 64) 0 ++
    (LittleEndian.encode 8 (8 * length)).reverse)

/-- Works this many blocks into the state, and gives what follows them too. -/
def absorb : Nat → State → Bytes → State × Bytes
  | 0, s, bytes => (s, bytes)
  | blocks + 1, s, bytes =>
    let (words, rest) := takeWords 16 [] bytes
    absorb blocks (compress s words) rest

/-- The state after the whole message: its whole blocks come first, and then what is left of it with
the padding. -/
def run (message : Bytes) : State :=
  let (s, rest) := absorb (message.length / 64) initial message
  let last := rest ++ padding message.length
  (absorb (last.length / 64) s last).1

/-- The digest of a message. -/
def digest (message : Bytes) : Bytes :=
  let s := run message
  [s.a, s.b, s.c, s.d, s.e, s.f, s.g, s.h].flatMap fun w => (bytesOf w).bytes

end Gossip.Digest.Sha256
