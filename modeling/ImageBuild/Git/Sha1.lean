/-!
# The hash of objects

Objects are named by a hash of 160 bits. The message is padded to blocks of 64 bytes, and every
block changes five words of 32 bits by eighty rounds.
-/

namespace ImageBuild.Git

/-- The five words of a hash. -/
structure Digest where
  a : UInt32
  b : UInt32
  c : UInt32
  d : UInt32
  e : UInt32
  deriving DecidableEq, Repr

/-- A word rotated to the left, by less than its size. -/
def rotateLeft (x : UInt32) (n : UInt32) : UInt32 :=
  (x <<< n) ||| (x >>> (32 - n))

/-- The four bytes of a word, the highest one first. -/
def wordBytes (x : UInt32) : List UInt8 :=
  [(x >>> 24).toUInt8, (x >>> 16).toUInt8, (x >>> 8).toUInt8, x.toUInt8]

/-- The words that bytes encode, the highest byte of each one first. -/
def wordsOf : List UInt8 → List UInt32
  | a :: b :: c :: d :: rest =>
    ((a.toUInt32 <<< 24) ||| (b.toUInt32 <<< 16) ||| (c.toUInt32 <<< 8) ||| d.toUInt32) ::
      wordsOf rest
  | _ => []

/-- A message with its padding: a bit, zeros up to eight bytes before the end of a block, and the
number of its bits. -/
def padded (message : List UInt8) : List UInt8 :=
  let bits := message.length * 8
  let zeros := (55 + 64 - message.length % 64) % 64
  message ++ [0x80] ++ List.replicate zeros 0 ++
    wordBytes (bits / UInt32.size).toUInt32 ++ wordBytes bits.toUInt32

/-- Extends the words of a block, last one first, by a number of words. -/
def extendSchedule : Nat → List UInt32 → List UInt32
  | 0, ws => ws
  | n + 1, ws =>
    let word (i : Nat) : UInt32 := (ws[i]?).getD 0
    extendSchedule n (rotateLeft (word 2 ^^^ word 7 ^^^ word 13 ^^^ word 15) 1 :: ws)

/-- The function and the constant of a round. -/
def roundValue (round : Nat) (h : Digest) : UInt32 :=
  if round < 20 then ((h.b &&& h.c) ||| (~~~h.b &&& h.d)) + 0x5A827999
  else if round < 40 then (h.b ^^^ h.c ^^^ h.d) + 0x6ED9EBA1
  else if round < 60 then ((h.b &&& h.c) ||| (h.b &&& h.d) ||| (h.c &&& h.d)) + 0x8F1BBCDC
  else (h.b ^^^ h.c ^^^ h.d) + 0xCA62C1D6

/-- A round with its word. -/
def runRound (h : Digest) (step : UInt32 × Nat) : Digest :=
  ⟨rotateLeft h.a 5 + roundValue step.2 h + h.e + step.1, h.a, rotateLeft h.b 30, h.c, h.d⟩

/-- Changes a hash by a block of sixteen words. -/
def compress (h : Digest) (block : List UInt32) : Digest :=
  let schedule := (extendSchedule 64 block.reverse).reverse
  let final := schedule.zipIdx.foldl runRound h
  ⟨h.a + final.a, h.b + final.b, h.c + final.c, h.d + final.d, h.e + final.e⟩

/-- Changes a hash by blocks, of which there are at most as many as given. -/
def compressAll : Nat → Digest → List UInt32 → Digest
  | 0, h, _ => h
  | n + 1, h, words =>
    if words = [] then h else compressAll n (compress h (words.take 16)) (words.drop 16)

/-- The hash of a message. -/
def sha1 (message : List UInt8) : List UInt8 :=
  let words := wordsOf (padded message)
  let h := compressAll words.length
    ⟨0x67452301, 0xEFCDAB89, 0x98BADCFE, 0x10325476, 0xC3D2E1F0⟩ words
  [h.a, h.b, h.c, h.d, h.e].flatMap wordBytes

end ImageBuild.Git
