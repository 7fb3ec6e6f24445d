/-!
Bytes and the UTF-8 texts they spell. `encode` and `decode?` are inverse to each other on texts;
`pieces` cuts any byte sequence into characters and ill-formed runs, and `lossy` shows each
ill-formed run as one replacement character.
-/

set_option autoImplicit false

namespace ProxyTunnel

abbrev Bytes := List UInt8

namespace Utf8

def encode (text : String) : Bytes := text.toByteArray.data.toList

def decode? (bytes : Bytes) : Option String := String.fromUTF8? ⟨bytes.toArray⟩

theorem encode_append (s t : String) : encode (s ++ t) = encode s ++ encode t := by
  simp [encode]

theorem decode_encode (text : String) : decode? (encode text) = some text := by
  have valid : (ByteArray.mk (encode text).toArray) = text.toByteArray := by simp [encode]
  simp [decode?, valid, String.fromUTF8?, text.isValidUTF8]
  rfl

structure Range where
  low : UInt8
  high : UInt8
deriving DecidableEq

def tail : Range := ⟨0x80, 0xBF⟩

-- A character whose first bytes have been seen: those bytes, the bits they carry, the range of the
-- byte that must come next and those of the bytes after it.
structure Pending where
  seen : Bytes
  bits : Nat
  next : Range
  later : List Range

inductive Lead where
  | char (c : Char)
  | pending (rest : Pending)
  | stray

-- The role of a byte at the start of a character. Second bytes that would give an overlong form, a
-- surrogate or a value above the last code point are excluded by their range.
def lead (b : UInt8) : Lead :=
  let opens (bits : Nat) (next : Range) (later : List Range) :=
    Lead.pending ⟨[b], bits, next, later⟩
  let n := b.toNat
  if n < 0x80 then .char (Char.ofNat n)
  else if n < 0xC2 then .stray
  else if n < 0xE0 then opens (n - 0xC0) tail []
  else if n = 0xE0 then opens 0 ⟨0xA0, 0xBF⟩ [tail]
  else if n = 0xED then opens 0xD ⟨0x80, 0x9F⟩ [tail]
  else if n < 0xF0 then opens (n - 0xE0) tail [tail]
  else if n = 0xF0 then opens 0 ⟨0x90, 0xBF⟩ [tail, tail]
  else if n < 0xF4 then opens (n - 0xF0) tail [tail, tail]
  else if n = 0xF4 then opens 4 ⟨0x80, 0x8F⟩ [tail, tail]
  else .stray

inductive Piece where
  | char (c : Char)
  | broken (bytes : Bytes)

def piecesFrom : Option Pending → Bytes → List Piece
  | none, [] => []
  | some p, [] => [.broken p.seen]
  | none, b :: rest =>
      match lead b with
      | .char c => .char c :: piecesFrom none rest
      | .pending p => piecesFrom (some p) rest
      | .stray => .broken [b] :: piecesFrom none rest
  | some p, b :: rest =>
      if p.next.low ≤ b ∧ b ≤ p.next.high then
        let bits := p.bits * 64 + (b.toNat - 0x80)
        match p.later with
        | [] => .char (Char.ofNat bits) :: piecesFrom none rest
        | next :: later => piecesFrom (some ⟨p.seen ++ [b], bits, next, later⟩) rest
      else
        .broken p.seen ::
          match lead b with
          | .char c => .char c :: piecesFrom none rest
          | .pending q => piecesFrom (some q) rest
          | .stray => .broken [b] :: piecesFrom none rest

def pieces (bytes : Bytes) : List Piece := piecesFrom none bytes

def lossy (bytes : Bytes) : String :=
  String.ofList <| (pieces bytes).map fun
    | .char c => c
    | .broken _ => '\uFFFD'

end Utf8

end ProxyTunnel
