import FirmwareGlue.Markup.Reference

/-!
# Tags and their attributes

The inside of a start tag is a name up to the first space, then attributes: a key, an equals sign
and a value in quotes of either kind. Space may stand around the equals sign and need not stand
between attributes. A key may not be written twice. Only the blank, the tab and the two line-end
characters count as space. Faults are reported in the order in which they stand in the tag.
-/

namespace FirmwareGlue.Markup

/-- The characters that separate the parts of a tag. -/
def isSpace (c : Char) : Bool :=
  c = ' ' || c = '\t' || c = '\r' || c = '\n'

/-- A start tag: the name of the element and its attributes in order. -/
structure Tag where
  name : String
  attributes : List (String × String)
  deriving DecidableEq

namespace Tag

def get? (tag : Tag) (key : String) : Option String :=
  tag.attributes.lookup key

/-- Where the reader of attributes is: between two, in a key or after it, after the equals sign,
or in a value. The characters read so far stand latest first, and `start` is the position of the
first of them. -/
inductive Place where
  | between
  | inKey (start : Nat) (key : List Char)
  | afterKey (start : Nat) (key : List Char)
  | afterEquals (key : String)
  | inValue (key : String) (quote : Char) (value : List Char)

/-- The attributes read so far, in order, the keys with their positions, the place that is reached,
and the position of what comes next. -/
structure Reading where
  attributes : List (String × String)
  keys : List (String × Nat)
  place : Place
  position : Nat

namespace Reading

def goTo (r : Reading) (place : Place) : Except Fault Reading :=
  .ok { r with place }

/-- Ends a key at its equals sign. -/
def endKey (r : Reading) (start : Nat) (key : List Char) : Except Fault Reading :=
  let name := String.ofList key.reverse
  match r.keys.lookup name with
  | some earlier => .error (.duplicatedKey start earlier)
  | none => { r with keys := r.keys ++ [(name, start)] }.goTo (.afterEquals name)

def read (r : Reading) (c : Char) : Except Fault Reading :=
  match r.place with
  | .between =>
    if isSpace c then .ok r else r.goTo (.inKey r.position [c])
  | .inKey start key =>
    if c = '=' then r.endKey start key
    else if isSpace c then r.goTo (.afterKey start key)
    else r.goTo (.inKey start (c :: key))
  | .afterKey start key =>
    if c = '=' then r.endKey start key
    else if isSpace c then .ok r
    else .error (.expectedEquals r.position)
  | .afterEquals key =>
    if isSpace c then .ok r
    else if c = '"' ∨ c = '\'' then r.goTo (.inValue key c [])
    else .error (.unquotedValue r.position)
  | .inValue key quote value =>
    if c = quote then do
      let text ← unescapeFrom 0 none value.reverse
      { r with attributes := r.attributes ++ [(key, String.ofList text)] }.goTo .between
    else r.goTo (.inValue key quote (c :: value))

/-- Reads one character and goes on behind it. -/
def step (r : Reading) (c : Char) : Except Fault Reading :=
  (r.read c).map fun r => { r with position := r.position + c.utf8Size }

/-- The attributes, if the tag may end at this place. -/
def finish (r : Reading) : Except Fault (List (String × String)) :=
  match r.place with
  | .between => .ok r.attributes
  | .inKey .. | .afterKey .. => .error (.expectedEquals r.position)
  | .afterEquals _ => .error (.expectedValue r.position)
  | .inValue _ quote _ => .error (.expectedQuote r.position quote)

end Reading

def read (inside : List Char) : Except Fault Tag := do
  let name := inside.takeWhile (!isSpace ·)
  let start : Reading := ⟨[], [], .between, byteSize name⟩
  let reading ← (inside.drop name.length).foldlM Reading.step start
  .ok ⟨String.ofList name, ← reading.finish⟩

end Tag

end FirmwareGlue.Markup
