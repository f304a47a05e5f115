/-! Text out of bytes that need not be text.

Strict UTF-8 is the core library's. What remains is the reading that always succeeds:
each longest beginning of a character that is then broken off becomes one U+FFFD. -/
namespace Precompiler.Text

/-- What stands for bytes that are no character. -/
def replacement : Char := Char.ofNat 0xFFFD

/-- The lengths and bounds of the character that a first byte announces: how many bytes
follow, and between which bounds the next one lies. -/
def leadOf (b : UInt8) : Option (Nat × UInt8 × UInt8) :=
  if b < 0x80 then some (0, 0, 0)
  else if b < 0xC2 then none
  else if b < 0xE0 then some (1, 0x80, 0xBF)
  else if b == 0xE0 then some (2, 0xA0, 0xBF)
  else if b == 0xED then some (2, 0x80, 0x9F)
  else if b < 0xF0 then some (2, 0x80, 0xBF)
  else if b == 0xF0 then some (3, 0x90, 0xBF)
  else if b < 0xF4 then some (3, 0x80, 0xBF)
  else if b == 0xF4 then some (3, 0x80, 0x8F)
  else none

/-- The payload bits of a first byte. -/
def leadBits (b : UInt8) : Nat :=
  if b < 0x80 then b.toNat else if b < 0xE0 then b.toNat % 32
  else if b < 0xF0 then b.toNat % 16 else b.toNat % 8

/-- A character under way: how many bytes it still needs, the bounds of the next one, and
the bits so far. -/
structure Pending where
  needed : Nat
  low : UInt8
  high : UInt8
  bits : Nat

/-- A byte read where a character begins: the characters it completes, newest first, and
the character it begins. -/
def beginByte (done : List Char) (b : UInt8) : List Char × Option Pending :=
  match leadOf b with
  | none => (replacement :: done, none)
  | some (0, _, _) => (Char.ofNat b.toNat :: done, none)
  | some (n, low, high) => (done, some ⟨n, low, high, leadBits b⟩)

/-- One byte more. A byte out of bounds ends the character under way and begins anew. -/
def readByte : List Char × Option Pending → UInt8 → List Char × Option Pending
  | (done, none), b => beginByte done b
  | (done, some p), b =>
    if p.low ≤ b ∧ b ≤ p.high then
      let bits := p.bits * 64 + b.toNat % 64
      if p.needed ≤ 1 then (Char.ofNat bits :: done, none)
      else (done, some ⟨p.needed - 1, 0x80, 0xBF, bits⟩)
    else beginByte (replacement :: done) b

/-- Bytes as text, with U+FFFD for what is no character. -/
def lossy (bytes : List UInt8) : String :=
  match bytes.foldl readByte ([], none) with
  | (done, none) => String.ofList done.reverse
  | (done, some _) => String.ofList (replacement :: done).reverse

def bytesOf (s : String) : List UInt8 := s.toUTF8.toList

end Precompiler.Text
