import FirmwareGlue.Markup.Tag
import FirmwareGlue.Text.Blank

/-!
# Markup as a sequence of events

A document is read from left to right, one character at a time, into the events that a loader acts
on: start and end tags, elements without content, text and literal sections. Comments,
instructions, declarations and the document type leave no event. Every run of text between two
pieces of markup is trimmed by itself, and a run of nothing but space is dropped; references in
text are left as they are written.

End tags have to match the element that is open. Nothing else is asked of the document as a whole:
several roots, text outside them and elements that are still open at the end are for the loader to
judge. Reading stops at the first fault, after the events of what stands before it.
-/

namespace FirmwareGlue.Markup

inductive Event where
  /-- A start tag. -/
  | opening (tag : Tag)
  /-- An element that is opened and closed by one tag. -/
  | empty (tag : Tag)
  /-- An end tag. -/
  | closing (name : String)
  /-- A trimmed run of text, references unread. -/
  | text (raw : String)
  /-- A literal section. -/
  | cdata (content : String)
  deriving DecidableEq

/-- What reading a document gives: the events in order, and the fault that stopped it, if any. -/
structure Transcript where
  events : List Event
  fault : Option Fault
  deriving DecidableEq

/-- Where the reader is. Characters read since the last event or the last `<` stand latest first;
those of a construct that begins with `<` do not include it. -/
inductive Place where
  | text (run : List Char)
  /-- Right after `<`. -/
  | markup
  /-- Right after `<!`. -/
  | bang
  | comment (inside : List Char)
  | cdata (inside : List Char)
  /-- With the number of `<` that are not balanced yet. -/
  | doctype (inside : List Char) (depth : Nat)
  | instruction (inside : List Char)
  /-- With the quote that the reader is inside of. -/
  | tag (inside : List Char) (quote : Option Char)

/-- The reader: its place, and the names of the open elements, innermost first. -/
structure Reader where
  place : Place
  openNames : List String

namespace Reader

def textEvent (run : List Char) : List Event :=
  match Text.trimBy isSpace run.reverse with
  | [] => []
  | trimmed => [.text (String.ofList trimmed)]

/-- Goes on behind a construct. -/
def resume (r : Reader) (events : List Event) : Except Fault (List Event × Reader) :=
  .ok (events, { r with place := .text [] })

/-- Goes on inside a construct. -/
def stay (r : Reader) (place : Place) : Except Fault (List Event × Reader) :=
  .ok ([], { r with place })

/-- The name in an end tag: what it holds, without the space at its end. What is nothing but space
names itself, and so no element. -/
def closingName (held : List Char) : String :=
  match (held.reverse.dropWhile isSpace).reverse with
  | [] => String.ofList held
  | name => String.ofList name

/-- Ends an end tag, whose inside begins with the slash. -/
def endClosing (r : Reader) (inside : List Char) : Except Fault (List Event × Reader) :=
  let name := closingName (inside.drop 1)
  match r.openNames with
  | [] => .error (.unmatchedEnd name)
  | innermost :: others =>
    if name = innermost then { r with openNames := others }.resume [.closing name]
    else .error (.mismatchedEnd innermost name)

/-- Ends a tag of any kind. -/
def endTag (r : Reader) (inside : List Char) : Except Fault (List Event × Reader) :=
  if inside.head? = some '/' then r.endClosing inside
  else if inside.getLast? = some '/' then do
    let tag ← Tag.read inside.dropLast
    r.resume [.empty tag]
  else do
    let tag ← Tag.read inside
    { r with openNames := tag.name :: r.openNames }.resume [.opening tag]

def endCData (r : Reader) (inside : List Char) : Except Fault (List Event × Reader) :=
  let opener := "![CDATA[".toList
  if opener.isPrefixOf inside then
    r.resume [.cdata (String.ofList ((inside.drop opener.length).dropLast.dropLast))]
  else .error .unclosedCData

def endDoctype (r : Reader) (inside : List Char) : Except Fault (List Event × Reader) :=
  if (inside.take 8).map Char.toLower = "!doctype".toList then
    if (inside.drop 8).all isSpace then .error .missingDoctypeName else r.resume []
  else .error .unclosedDoctype

def step (r : Reader) (c : Char) : Except Fault (List Event × Reader) :=
  match r.place with
  | .text run =>
    if c = '<' then .ok (textEvent run, { r with place := .markup })
    else r.stay (.text (c :: run))
  | .markup =>
    if c = '!' then r.stay .bang
    else if c = '?' then r.stay (.instruction ['?'])
    else if c = '>' then r.endTag []
    else if c = '"' ∨ c = '\'' then r.stay (.tag [c] (some c))
    else r.stay (.tag [c] none)
  | .bang =>
    if c = '[' then r.stay (.cdata [c, '!'])
    else if c = '-' then r.stay (.comment [c, '!'])
    else if c = 'D' ∨ c = 'd' then r.stay (.doctype [c, '!'] 0)
    else .error .invalidBang
  | .comment inside =>
    match c, inside with
    | '>', '-' :: '-' :: _ =>
      if inside.length < 5 then r.stay (.comment (c :: inside))
      else if "!--".toList.isPrefixOf inside.reverse then r.resume []
      else .error .unclosedComment
    | _, _ => r.stay (.comment (c :: inside))
  | .cdata inside =>
    match c, inside with
    | '>', ']' :: ']' :: _ => r.endCData inside.reverse
    | _, _ => r.stay (.cdata (c :: inside))
  | .doctype inside depth =>
    if c = '<' then r.stay (.doctype (c :: inside) (depth + 1))
    else if c = '>' then
      if depth = 0 then r.endDoctype inside.reverse
      else r.stay (.doctype (c :: inside) (depth - 1))
    else r.stay (.doctype (c :: inside) depth)
  | .instruction inside =>
    match c, inside with
    | '>', ['?'] => .error .unclosedInstruction
    | '>', '?' :: _ => r.resume []
    | _, _ => r.stay (.instruction (c :: inside))
  | .tag inside quote =>
    match quote with
    | some q => r.stay (.tag (c :: inside) (if c = q then none else quote))
    | none =>
      if c = '>' then r.endTag inside.reverse
      else if c = '"' ∨ c = '\'' then r.stay (.tag (c :: inside) (some c))
      else r.stay (.tag (c :: inside) none)

/-- The end of the document: a last run of text, or a construct that is not closed. -/
def finish (r : Reader) : List Event × Option Fault :=
  match r.place with
  | .text run => (textEvent run, none)
  | .markup | .tag .. => ([], some .unclosedTag)
  | .bang => ([], some .invalidBang)
  | .comment _ => ([], some .unclosedComment)
  | .cdata _ => ([], some .unclosedCData)
  | .doctype .. => ([], some .unclosedDoctype)
  | .instruction _ => ([], some .unclosedInstruction)

/-- Reads what is left of a document; `seen` are the events so far, latest first. -/
def run (r : Reader) (seen : List Event) : List Char → Transcript
  | [] => ⟨seen.reverse ++ r.finish.1, r.finish.2⟩
  | c :: cs =>
    match r.step c with
    | .error fault => ⟨seen.reverse, some fault⟩
    | .ok (events, next) => next.run (events.reverse ++ seen) cs

end Reader

/-- Reads a document. One byte order mark at its start is no part of it. -/
def Transcript.ofText (document : String) : Transcript :=
  let reader : Reader := ⟨.text [], []⟩
  match document.toList with
  | [] => reader.run [] []
  | c :: cs => if c.toNat = 0xFEFF then reader.run [] cs else reader.run [] (c :: cs)

end FirmwareGlue.Markup
