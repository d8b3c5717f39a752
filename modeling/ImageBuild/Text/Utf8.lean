/-!
# Reading bytes as text

`Utf8.pieces` cuts a list of bytes into the characters it encodes and the longest parts that could
still have begun a character but do not. From the pieces follow the forgiving reading (each broken
part becomes one replacement character, `decodeLossy`) and the strict one (the first broken part is
a fault at its place, `decode?`).
-/

namespace ImageBuild.Text.Utf8

/-- What is owed after the first bytes of a character. -/
structure Owed where
  /-- Bytes still owed, at least one. -/
  missing : Nat
  /-- The least value of the next byte. -/
  least : Nat
  /-- The greatest value of the next byte. -/
  greatest : Nat
  /-- The code point bits read so far. -/
  bits : Nat
  /-- Bytes read so far. -/
  taken : Nat

/-- A part of a byte text. -/
inductive Piece
  /-- An encoded character. -/
  | char (c : Char)
  /-- Bytes that begin no character; the next byte or another part follows. -/
  | broken (length : Nat)
  /-- The end of the bytes within a character. -/
  | cut (length : Nat)
  deriving DecidableEq, Repr

/-- Bytes that a piece covers. -/
def Piece.size : Piece → Nat
  | .char c => c.utf8Size
  | .broken n => n
  | .cut n => n

/-- What a first byte begins: a whole character, a longer one, or none. -/
inductive Lead
  | whole (c : Char)
  | longer (owed : Owed)
  | bad

/-- What a byte begins where a character may start. -/
def lead (b : UInt8) : Lead :=
  let n := b.toNat
  if n < 0x80 then .whole (Char.ofNat n)
  else if 0xC2 ≤ n ∧ n ≤ 0xDF then .longer ⟨1, 0x80, 0xBF, n - 0xC0, 1⟩
  else if n = 0xE0 then .longer ⟨2, 0xA0, 0xBF, 0, 1⟩
  else if n = 0xED then .longer ⟨2, 0x80, 0x9F, 0xD, 1⟩
  else if 0xE1 ≤ n ∧ n ≤ 0xEF then .longer ⟨2, 0x80, 0xBF, n - 0xE0, 1⟩
  else if n = 0xF0 then .longer ⟨3, 0x90, 0xBF, 0, 1⟩
  else if 0xF1 ≤ n ∧ n ≤ 0xF3 then .longer ⟨3, 0x80, 0xBF, n - 0xF0, 1⟩
  else if n = 0xF4 then .longer ⟨3, 0x80, 0x8F, 4, 1⟩
  else .bad

/-- The pieces of the bytes, given what is owed to the character begun. -/
def piecesFrom : Option Owed → List UInt8 → List Piece
  | none, [] => []
  | some o, [] => [.cut o.taken]
  | none, b :: bs =>
    match lead b with
    | .whole c => .char c :: piecesFrom none bs
    | .longer o => piecesFrom (some o) bs
    | .bad => .broken 1 :: piecesFrom none bs
  | some o, b :: bs =>
    if o.least ≤ b.toNat ∧ b.toNat ≤ o.greatest then
      let bits := o.bits * 64 + (b.toNat - 0x80)
      if o.missing ≤ 1 then .char (Char.ofNat bits) :: piecesFrom none bs
      else piecesFrom (some ⟨o.missing - 1, 0x80, 0xBF, bits, o.taken + 1⟩) bs
    else
      match lead b with
      | .whole c => .broken o.taken :: .char c :: piecesFrom none bs
      | .longer o' => .broken o.taken :: piecesFrom (some o') bs
      | .bad => .broken o.taken :: .broken 1 :: piecesFrom none bs

/-- The pieces of a byte text. -/
def pieces (bs : List UInt8) : List Piece :=
  piecesFrom none bs

/-- The character that a piece shows in the forgiving reading. -/
def Piece.shown : Piece → Char
  | .char c => c
  | .broken _ | .cut _ => '\uFFFD'

/-- The bytes read as text, each broken part shown as one replacement character. -/
def decodeLossy (bs : List UInt8) : String :=
  String.ofList ((pieces bs).map Piece.shown)

/-- Why bytes are no text. -/
inductive Fault
  /-- Bytes that begin no character, and the number of bytes before them. -/
  | invalid (length : Nat) (start : Nat)
  /-- The bytes end within a character, and the number of bytes before it. -/
  | incomplete (start : Nat)
  deriving DecidableEq, Repr

/-- The wording of a fault. -/
def Fault.message : Fault → String
  | .invalid n i => s!"invalid utf-8 sequence of {n} bytes from index {i}"
  | .incomplete i => s!"incomplete utf-8 byte sequence from index {i}"

/-- The characters of the pieces up to the first broken one, which is a fault. -/
def collect (start : Nat) : List Piece → Except Fault (List Char)
  | [] => .ok []
  | .char c :: ps => (c :: ·) <$> collect (start + c.utf8Size) ps
  | .broken n :: _ => .error (.invalid n start)
  | .cut _ :: _ => .error (.incomplete start)

/-- The bytes read as text, if all of them are. -/
def decode? (bs : List UInt8) : Except Fault String :=
  String.ofList <$> collect 0 (pieces bs)

/-- The bytes of a text. -/
def encode (s : String) : List UInt8 :=
  s.toUTF8.toList

end ImageBuild.Text.Utf8
