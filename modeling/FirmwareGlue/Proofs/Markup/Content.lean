import FirmwareGlue.Markup.Event

/-!
# Well-nested markup

What stands between a start tag and its end tag, as a tree. Its events are those that a reader
delivers for it; comments and instructions give none, so they have no place here. The text of the
tree is all the text in it, at any depth and in order; it exists if every reference in it can be
read.
-/

namespace FirmwareGlue.Markup

/-- Well-nested markup: text, literal sections and elements one after the other. -/
inductive Content where
  | nil
  | text (raw : String) (rest : Content)
  | cdata (literal : String) (rest : Content)
  | empty (tag : Tag) (rest : Content)
  | element (tag : Tag) (inside rest : Content)
  deriving DecidableEq

namespace Content

def events : Content → List Event
  | nil => []
  | text raw rest => .text raw :: rest.events
  | cdata literal rest => .cdata literal :: rest.events
  | empty tag rest => .empty tag :: rest.events
  | element tag inside rest =>
    .opening tag :: inside.events ++ .closing tag.name :: rest.events

/-- All text of some markup. -/
def reading : Content → Except Fault String
  | nil => .ok ""
  | text raw rest => do
    let first ← unescape raw
    .ok (first ++ (← rest.reading))
  | cdata literal rest => do .ok (literal ++ (← rest.reading))
  | empty _ rest => rest.reading
  | element _ inside rest => do
    let first ← inside.reading
    .ok (first ++ (← rest.reading))

/-- The names of the elements in some markup, at any depth. -/
def names : Content → List String
  | nil => []
  | text _ rest | cdata _ rest => rest.names
  | empty tag rest => tag.name :: rest.names
  | element tag inside rest => tag.name :: inside.names ++ rest.names

end Content

/-- An element: one tag that opens and closes it, or content between two tags. -/
inductive Element where
  | empty (tag : Tag)
  | full (tag : Tag) (inside : Content)
  deriving DecidableEq

namespace Element

def tag : Element → Tag
  | empty tag | full tag _ => tag

def inside : Element → Content
  | empty _ => .nil
  | full _ inside => inside

def events : Element → List Event
  | empty tag => [.empty tag]
  | full tag inside => .opening tag :: inside.events ++ [.closing tag.name]

/-- No element inside has the name of the element itself. -/
def Apart (e : Element) : Prop :=
  e.tag.name ∉ e.inside.names

instance (e : Element) : Decidable e.Apart :=
  inferInstanceAs (Decidable (e.tag.name ∉ e.inside.names))

theorem apart_empty (tag : Tag) : (empty tag).Apart := by
  simp [Apart, inside, Content.names]

end Element

namespace Content

/-- The outermost elements of some markup, in order. -/
def elements : Content → List Element
  | nil => []
  | text _ rest | cdata _ rest => rest.elements
  | empty tag rest => .empty tag :: rest.elements
  | element tag inside rest => .full tag inside :: rest.elements

/-- Each of the outermost elements is apart from what stands inside it. -/
def LeavesApart : Content → Prop
  | nil => True
  | text _ rest | cdata _ rest | empty _ rest => rest.LeavesApart
  | element tag inside rest => (Element.full tag inside).Apart ∧ rest.LeavesApart

theorem events_empty (tag : Tag) (rest : Content) :
    (empty tag rest).events = (Element.empty tag).events ++ rest.events :=
  rfl

theorem events_element (tag : Tag) (inside rest : Content) :
    (element tag inside rest).events = (Element.full tag inside).events ++ rest.events := by
  simp [events, Element.events]

end Content

end FirmwareGlue.Markup
