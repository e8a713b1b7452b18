/-!
# SHA-256

The 256-bit secure hash of a byte string: the message is padded to whole blocks of sixteen
words, and every block stirs an eight-word state through sixty-four rounds.

## Main definitions

* `Digest`: thirty-two bytes.
* `Sha256.digest`: the digest of a byte string.
-/

namespace ImageImports

/-- A digest is thirty-two bytes. -/
structure Digest where
  bytes : Vector UInt8 32
  deriving DecidableEq

namespace Digest

/-- The bytes of a digest, first byte first. -/
def toList (d : Digest) : List UInt8 := d.bytes.toList

@[simp] theorem length_toList (d : Digest) : d.toList.length = 32 := by
  simp [toList]

theorem toList_injective {d e : Digest} (h : d.toList = e.toList) : d = e := by
  obtain ⟨d⟩ := d
  obtain ⟨e⟩ := e
  simp only [toList] at h
  rw [Digest.mk.injEq]
  exact Vector.toList_inj.mp h

end Digest

namespace Sha256

/-- The eight working words. -/
structure State where
  a : UInt32
  b : UInt32
  c : UInt32
  d : UInt32
  e : UInt32
  f : UInt32
  g : UInt32
  h : UInt32

/-- The state before the first block. -/
def initial : State :=
  ⟨0x6a09e667, 0xbb67ae85, 0x3c6ef372, 0xa54ff53a, 0x510e527f, 0x9b05688c, 0x1f83d9ab,
    0x5be0cd19⟩

/-- One constant for each of the sixty-four rounds. -/
def roundConstants : List UInt32 :=
  [0x428a2f98, 0x71374491, 0xb5c0fbcf, 0xe9b5dba5, 0x3956c25b, 0x59f111f1, 0x923f82a4, 0xab1c5ed5,
   0xd807aa98, 0x12835b01, 0x243185be, 0x550c7dc3, 0x72be5d74, 0x80deb1fe, 0x9bdc06a7, 0xc19bf174,
   0xe49b69c1, 0xefbe4786, 0x0fc19dc6, 0x240ca1cc, 0x2de92c6f, 0x4a7484aa, 0x5cb0a9dc, 0x76f988da,
   0x983e5152, 0xa831c66d, 0xb00327c8, 0xbf597fc7, 0xc6e00bf3, 0xd5a79147, 0x06ca6351, 0x14292967,
   0x27b70a85, 0x2e1b2138, 0x4d2c6dfc, 0x53380d13, 0x650a7354, 0x766a0abb, 0x81c2c92e, 0x92722c85,
   0xa2bfe8a1, 0xa81a664b, 0xc24b8b70, 0xc76c51a3, 0xd192e819, 0xd6990624, 0xf40e3585, 0x106aa070,
   0x19a4c116, 0x1e376c08, 0x2748774c, 0x34b0bcb5, 0x391c0cb3, 0x4ed8aa4a, 0x5b9cca4f, 0x682e6ff3,
   0x748f82ee, 0x78a5636f, 0x84c87814, 0x8cc70208, 0x90befffa, 0xa4506ceb, 0xbef9a3f7, 0xc67178f2]

/-- Rotates a word to the right. -/
def rotateRight (x : UInt32) (n : UInt32) : UInt32 :=
  (x >>> n) ||| (x <<< (32 - n))

/-- The block extended to sixty-four words, each new word mixing four earlier ones. -/
def schedule (block : Array UInt32) : Array UInt32 :=
  (List.range 48).foldl
    (fun w t =>
      let w15 := w.getD (t + 1) 0
      let w2 := w.getD (t + 14) 0
      let s0 := rotateRight w15 7 ^^^ rotateRight w15 18 ^^^ (w15 >>> 3)
      let s1 := rotateRight w2 17 ^^^ rotateRight w2 19 ^^^ (w2 >>> 10)
      w.push (w.getD t 0 + s0 + w.getD (t + 9) 0 + s1))
    block

/-- One round with its constant and scheduled word. -/
def round (s : State) (k w : UInt32) : State :=
  let s1 := rotateRight s.e 6 ^^^ rotateRight s.e 11 ^^^ rotateRight s.e 25
  let choice := (s.e &&& s.f) ^^^ (~~~s.e &&& s.g)
  let t1 := s.h + s1 + choice + k + w
  let s0 := rotateRight s.a 2 ^^^ rotateRight s.a 13 ^^^ rotateRight s.a 22
  let majority := (s.a &&& s.b) ^^^ (s.a &&& s.c) ^^^ (s.b &&& s.c)
  ⟨t1 + s0 + majority, s.a, s.b, s.c, s.d + t1, s.e, s.f, s.g⟩

/-- Stirs one block of sixteen words into the state. -/
def compress (s : State) (block : Array UInt32) : State :=
  let r := (roundConstants.zip (schedule block).toList).foldl (fun s kw => round s kw.1 kw.2) s
  ⟨s.a + r.a, s.b + r.b, s.c + r.c, s.d + r.d, s.e + r.e, s.f + r.f, s.g + r.g, s.h + r.h⟩

/-- The message, a single set bit, zeros up to eight bytes short of a whole block, and the
length in bits as eight bytes. -/
def pad (message : ByteArray) : ByteArray :=
  let zeros := (119 - message.size % 64) % 64
  let bits := message.size * 8
  let tail := (List.replicate zeros (0 : UInt8)) ++
    (List.range 8).map fun i => (bits >>> (8 * (7 - i))).toUInt8
  message ++ ⟨((0x80 : UInt8) :: tail).toArray⟩

/-- The byte at a position, zero past the end. -/
def byteAt (bytes : ByteArray) (i : Nat) : UInt8 :=
  if h : i < bytes.size then bytes[i] else 0

/-- The word of four bytes, most significant first, that starts at a position. -/
def wordAt (bytes : ByteArray) (i : Nat) : UInt32 :=
  (byteAt bytes i).toUInt32 <<< 24 ||| (byteAt bytes (i + 1)).toUInt32 <<< 16 |||
    (byteAt bytes (i + 2)).toUInt32 <<< 8 ||| (byteAt bytes (i + 3)).toUInt32

/-- The sixteen words of the block with a given number. -/
def blockAt (bytes : ByteArray) (n : Nat) : Array UInt32 :=
  ((List.range 16).map fun i => wordAt bytes (64 * n + 4 * i)).toArray

/-- The state after all blocks. -/
def hashState (message : ByteArray) : State :=
  let padded := pad message
  (List.range (padded.size / 64)).foldl (fun s n => compress s (blockAt padded n)) initial

/-- The eight words of a state. -/
def State.words (s : State) : Vector UInt32 8 :=
  #v[s.a, s.b, s.c, s.d, s.e, s.f, s.g, s.h]

/-- The digest of a byte string: the words of the last state, most significant byte first. -/
def digest (message : ByteArray) : Digest :=
  let words := (hashState message).words
  ⟨Vector.ofFn fun i =>
    have inRange : i.val / 4 < 8 := by omega
    (words.get ⟨i.val / 4, inRange⟩ >>> (8 * (3 - i.val % 4)).toUInt32).toUInt8⟩

end Sha256

end ImageImports
