/-!
# Control sequences

A text can tell a terminal what to do: by control characters, and by sequences that an escape
character begins. Where no terminal reads it, all of this is left out; only what a reader would see
is kept, with the blanks of ASCII. A blank in the middle of a sequence is kept too, and so is what
follows it up to the next control character, where the sequence goes on.
-/

namespace FirmwareGlue.Text

def isAscii (c : Char) : Bool := c.toNat < 0x80

/-- The control characters that are kept: tab, line feed, form feed and carriage return. -/
def keptControls : List Char := ['\t', '\n', '\x0C', '\r']

/-- What a text is in the middle of: no sequence, or a sequence of one of these forms. -/
inductive ControlForm where
  | none
  /-- An escape character, and nothing after it yet. -/
  | escape
  /-- An escape character and marks before the letter that ends it. -/
  | designation
  /-- A function with parameters, up to the letter that names it. -/
  | function
  /-- A command for the operating system, up to a bell. -/
  | command
  /-- The beginning of a string for the device, which may have parameters and marks before it. -/
  | header
  /-- The parameters of a string for the device. -/
  | parameters
  /-- The marks between the parameters of a string for the device and the string. -/
  | marks
  /-- A string, up to a terminator. -/
  | string
  deriving DecidableEq

namespace ControlForm

/-- The form of what begins after an escape character. -/
def introduced (c : Char) : Option ControlForm :=
  if c = '[' then some function
  else if c = ']' then some command
  else if c = 'P' then some header
  else if c ∈ ['X', '^', '_'] then some string
  else if ' ' ≤ c ∧ c ≤ '/' then some designation
  else if '0' ≤ c ∧ c ≤ '~' then some none
  else Option.none

/-- The form that a character leads to, where it changes anything. Two control characters break off
whatever there is, and an escape character begins anew. The terminator of a string is a byte, and
any character that is encoded with that byte is taken for it; before the string has begun, it ends
nothing. -/
def next (form : ControlForm) (c : Char) : Option ControlForm :=
  if c = '\x18' ∨ c = '\x1A' then some none
  else if c = '\x1B' then some escape
  else match form with
    | none => if isAscii c then Option.none else some none
    | escape => introduced c
    | designation => if '0' ≤ c ∧ c ≤ '~' then some none else Option.none
    | function => if '@' ≤ c ∧ c ≤ '~' then some none else Option.none
    | command => if c = '\x07' then some none else Option.none
    | header =>
      if ' ' ≤ c ∧ c ≤ '/' then some marks
      else if '0' ≤ c ∧ c ≤ '?' then some parameters
      else if '@' ≤ c ∧ c ≤ '~' then some string
      else Option.none
    | parameters =>
      if ' ' ≤ c ∧ c ≤ '/' then some marks
      else if '<' ≤ c ∧ c ≤ '~' then some string
      else Option.none
    | marks => if '0' ≤ c ∧ c ≤ '~' then some string else Option.none
    | string => if 0x9C ∈ String.utf8EncodeChar c then some none else Option.none

def keeps (form : ControlForm) (c : Char) : Bool :=
  match form with
  | none => !isAscii c || (' ' ≤ c && c ≤ '~') || c ∈ keptControls
  | escape | designation | function => c ∈ keptControls
  | command | header | parameters | marks | string => false

/-- What is kept of a text that begins in the middle of a form. While characters are being kept, the
next one is read as if there were no sequence. -/
def strip (form : ControlForm) (keeping : Bool) : List Char → List Char
  | [] => []
  | c :: rest =>
    let here := if keeping then none else form
    let stripped := strip ((here.next c).getD form) (here.keeps c) rest
    if here.keeps c then c :: stripped else stripped

end ControlForm

/-- What is left of a text without its control sequences. -/
def withoutControls (s : String) : String :=
  String.ofList (ControlForm.none.strip true s.toList)

end FirmwareGlue.Text
