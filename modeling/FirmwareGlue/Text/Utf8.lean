/-!
# Reading damaged UTF-8

A file shown as text may hold bytes that are no UTF-8. Every maximal part that could have begun a
character, but does not complete one, is shown as one replacement character; a byte that begins
nothing is shown as one of its own. Text that is well formed is shown as it is.
-/

namespace FirmwareGlue.Text

/-- The character that stands for bytes that are no text. -/
def replacement : Char := Char.ofNat 0xFFFD

/-- What the lead byte of a sequence promises: how many bytes follow it, the bits it contributes,
and the range of the byte after it. The range excludes overlong forms, surrogates and values past
the last code point; later bytes range over `0x80` to `0xBF`. -/
def lead? (b : Nat) : Option (Nat × Nat × Nat × Nat) :=
  if b < 0x80 then some (0, b, 0x80, 0xBF)
  else if 0xC2 ≤ b ∧ b ≤ 0xDF then some (1, b - 0xC0, 0x80, 0xBF)
  else if b = 0xE0 then some (2, b - 0xE0, 0xA0, 0xBF)
  else if b = 0xED then some (2, b - 0xE0, 0x80, 0x9F)
  else if 0xE1 ≤ b ∧ b ≤ 0xEF then some (2, b - 0xE0, 0x80, 0xBF)
  else if b = 0xF0 then some (3, b - 0xF0, 0x90, 0xBF)
  else if b = 0xF4 then some (3, b - 0xF0, 0x80, 0x8F)
  else if 0xF1 ≤ b ∧ b ≤ 0xF3 then some (3, b - 0xF0, 0x80, 0xBF)
  else none

/-- A sequence that has begun: how many bytes are still due, the bits so far, and the range of the
next byte. -/
structure Pending where
  due : Nat
  bits : Nat
  low : Nat
  high : Nat

/-- What a byte contributes at the start of a character: a character, or a sequence to complete. -/
def begin? (b : UInt8) : List Char × Option Pending :=
  match lead? b.toNat with
  | none => ([replacement], none)
  | some (0, bits, _, _) => ([Char.ofNat bits], none)
  | some (due, bits, low, high) => ([], some ⟨due, bits, low, high⟩)

/-- Reads bytes, with the sequence that is under way. -/
def decodeFrom : Option Pending → List UInt8 → List Char
  | none, [] => []
  | some _, [] => [replacement]
  | none, b :: bs =>
    let (shown, pending) := begin? b
    shown ++ decodeFrom pending bs
  | some p, b :: bs =>
    if p.low ≤ b.toNat ∧ b.toNat ≤ p.high then
      let bits := p.bits * 64 + (b.toNat - 0x80)
      if p.due ≤ 1 then Char.ofNat bits :: decodeFrom none bs
      else decodeFrom (some ⟨p.due - 1, bits, 0x80, 0xBF⟩) bs
    else
      let (shown, pending) := begin? b
      replacement :: shown ++ decodeFrom pending bs

/-- The text of some bytes, with a replacement character for each part that is no UTF-8. -/
def ofBytes (bytes : ByteArray) : String :=
  match String.fromUTF8? bytes with
  | some text => text
  | none => String.ofList (decodeFrom none bytes.toList)

end FirmwareGlue.Text
