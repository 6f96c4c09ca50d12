import FirmwareGlue.Text.Hexadecimal

/-!
# Globally unique identifiers

A GUID is sixteen bytes in the order in which they lie in memory. The first three fields of its
C structure, of four, two and two bytes, are little-endian; the other eight bytes stand for
themselves. Two spellings are printed: the text of five groups of digits, and the initializer of
the C structure. Both show the fields with their most significant digit first, so they agree on
all thirty-two digits.
-/

namespace FirmwareGlue

/-- Sixteen bytes, in memory order. -/
structure Guid where
  bytes : Vector UInt8 16
  deriving DecidableEq

namespace Guid

/-- The bytes as the text shows them: the first three fields are turned around. Doing so twice
gives the old order back. -/
def turnFields (v : Vector UInt8 16) : Vector UInt8 16 := #v[
  v[3], v[2], v[1], v[0], v[5], v[4], v[7], v[6],
  v[8], v[9], v[10], v[11], v[12], v[13], v[14], v[15]]

theorem turnFields_turnFields (v : Vector UInt8 16) : turnFields (turnFields v) = v := by
  ext i h
  match i, h with
  | 0, _ | 1, _ | 2, _ | 3, _ | 4, _ | 5, _ | 6, _ | 7, _
  | 8, _ | 9, _ | 10, _ | 11, _ | 12, _ | 13, _ | 14, _ | 15, _ => rfl
  | i + 16, h => exact absurd h (by omega)

def byteDigits (b : UInt8) : List Char :=
  Hexadecimal.digits 2 b.toNat

def groupDigits (bytes : List UInt8) : List Char :=
  bytes.flatMap byteDigits

/-- The text of a GUID: groups of eight, four, four, four and twelve lower-case digits. -/
def text (g : Guid) : String :=
  let shown := (turnFields g.bytes).toList
  String.ofList (List.intercalate ['-']
    [groupDigits (shown.take 4), groupDigits ((shown.drop 4).take 2),
      groupDigits ((shown.drop 6).take 2), groupDigits ((shown.drop 8).take 2),
      groupDigits (shown.drop 10)])

/-- The field of four bytes. -/
def data1 (g : Guid) : Nat :=
  g.bytes[0].toNat + 256 * g.bytes[1].toNat + 65536 * g.bytes[2].toNat
    + 16777216 * g.bytes[3].toNat

/-- The first field of two bytes. -/
def data2 (g : Guid) : Nat :=
  g.bytes[4].toNat + 256 * g.bytes[5].toNat

/-- The second field of two bytes. -/
def data3 (g : Guid) : Nat :=
  g.bytes[6].toNat + 256 * g.bytes[7].toNat

/-- The eight single bytes. -/
def data4 (g : Guid) : List UInt8 :=
  g.bytes.toList.drop 8

def constant (width n : Nat) : String :=
  "0x" ++ String.ofList (Hexadecimal.digits width n)

/-- The body of the initializer of the C structure. -/
def initializer (g : Guid) : String :=
  constant 8 g.data1 ++ ", " ++ constant 4 g.data2 ++ ", " ++ constant 4 g.data3 ++ ", \x7b"
    ++ String.intercalate ", " (g.data4.map fun b => constant 2 b.toNat) ++ "\x7d"

/-- The places of a text at which a hyphen stands. -/
def hyphens : List Nat := [8, 13, 18, 23]

/-- The bytes that pairs of digits spell. -/
def pairUp : List Nat → List UInt8
  | high :: low :: rest => UInt8.ofNat (16 * high + low) :: pairUp rest
  | _ => []

/-- Reads the text of a GUID: thirty-six characters with hyphens at their places and digits of
either case at all others. -/
def parse? (s : String) : Option Guid := do
  let cs := s.toList
  guard (cs.length = 36)
  guard (hyphens.all fun i => cs[i]? == some '-')
  let digits := (cs.zipIdx.filter fun entry => entry.2 ∉ hyphens).map Prod.fst
  let bytes := pairUp (← digits.mapM Hexadecimal.value?)
  if h : bytes.length = 16 then
    some ⟨turnFields ⟨bytes.toArray, by simpa using h⟩⟩
  else none

end Guid

end FirmwareGlue
