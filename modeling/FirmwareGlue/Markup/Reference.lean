import FirmwareGlue.Markup.Fault
import FirmwareGlue.Text.Hexadecimal

/-!
# References in text and attribute values

A reference runs from an ampersand to the next semicolon and stands for one character: one of five
by name, or any by number. Everything else stands for itself, so a text without an ampersand is
its own reading. Positions are counted in bytes from the start of the text.
-/

namespace FirmwareGlue.Markup

/-- The characters that have a name. -/
def entity? (name : List Char) : Option Char :=
  match String.ofList name with
  | "amp" => some '&'
  | "lt" => some '<'
  | "gt" => some '>'
  | "quot" => some '"'
  | "apos" => some '\''
  | _ => none

def decimalValue? (c : Char) : Option Nat :=
  if c.isDigit then some (c.toNat - 48) else none

/-- A number with one digit more, as long as it has no more than 32 bits. -/
def addDigit (base : Nat) (value? : Char → Option Nat) (n : Nat) (c : Char) :
    Except NumberFault Nat :=
  match value? c with
  | none => .error .invalidDigit
  | some value =>
    if base * n + value < 0x100000000 then .ok (base * n + value) else .error .tooLarge

/-- Reads a number of at most 32 bits in some base. The first character that cannot go on with it
counts. -/
def number (base : Nat) (value? : Char → Option Nat) (cs : List Char) : Except Fault Nat :=
  match cs with
  | [] => .error (.invalidNumber .noDigits)
  | c :: _ =>
    if c = '+' ∨ c = '-' then .error .unexpectedSign
    else (cs.foldlM (addDigit base value?) 0).mapError Fault.invalidNumber

/-- The character with a code point that a reference may name. -/
def character (n : Nat) : Except Fault Char :=
  if n = 0 then .error .illegalCharacter
  else if n.isValidChar then .ok (Char.ofNat n)
  else .error (.invalidCodePoint n)

/-- The character that the inside of a reference names, which begins at a position. -/
def resolve (position : Nat) (name : List Char) : Except Fault Char :=
  match name with
  | '#' :: 'x' :: digits => number 16 Hexadecimal.value? digits >>= character
  | '#' :: digits => number 10 decimalValue? digits >>= character
  | _ =>
    match entity? name with
    | some c => .ok c
    | none => .error (.unknownEntity position (String.ofList name))

def byteSize (cs : List Char) : Nat := (String.ofList cs).utf8ByteSize

/-- A reference that is under way: the position of its ampersand, and its inside so far, latest
character first. -/
structure Pending where
  position : Nat
  inside : List Char

/-- Reads text from left to right, from a position, with the reference that is under way, if there
is one. -/
def unescapeFrom (position : Nat) : Option Pending → List Char → Except Fault (List Char)
  | none, [] => .ok []
  | some pending, [] => .error (.unterminatedReference pending.position position)
  | none, c :: cs =>
    if c = '&' then unescapeFrom (position + c.utf8Size) (some ⟨position, []⟩) cs
    else (unescapeFrom (position + c.utf8Size) none cs).map (c :: ·)
  | some pending, c :: cs =>
    if c = '&' then
      .error (.unterminatedReference pending.position (position + byteSize (c :: cs)))
    else if c = ';' then do
      let named ← resolve (pending.position + 1) pending.inside.reverse
      (unescapeFrom (position + c.utf8Size) none cs).map (named :: ·)
    else
      let pending := { pending with inside := c :: pending.inside }
      unescapeFrom (position + c.utf8Size) (some pending) cs

def unescape (s : String) : Except Fault String :=
  (unescapeFrom 0 none s.toList).map String.ofList

end FirmwareGlue.Markup
