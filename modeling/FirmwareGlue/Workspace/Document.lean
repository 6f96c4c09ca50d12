import FirmwareGlue.Markup.Event
import FirmwareGlue.Workspace.Leaf

/-!
# Workspace documents

A document has a root element, packages and modules inside it, and leaves inside those. The loader
follows the events of the document with one scope and at most one pending leaf. A leaf is pending
from its tag until the next end of an element of its name; markup in between only contributes its
text. When no leaf is pending, the next end of an element closes the package or module, which is
registered then.

The first error in document order is reported, a fault of the markup included; what the document
lacks as a whole is judged at its end.
-/

namespace FirmwareGlue.Workspace

open Markup (Tag Event Transcript)

/-- What the loader is inside of. -/
inductive Scope where
  | outside
  | package (p : Package)
  | module (m : Module)

/-- How far a document has been loaded. -/
structure Loading where
  workspace : Workspace := .empty
  scope : Scope := .outside
  /-- The leaf whose end is awaited. -/
  leaf : Option Leaf := none
  /-- Whether the root element has been seen. -/
  rooted : Bool := false

namespace Loading

/-- The scope that a tag outside every package and module opens. -/
def openScope (l : Loading) (tag : Tag) : Except Error Loading :=
  match tag.name, l.rooted with
  | "Workspace", false => .ok { l with rooted := true }
  | "Package", true => do .ok { l with scope := .package (← packageOf tag) }
  | "Module", true => do .ok { l with scope := .module (← moduleOf tag) }
  | other, _ => .error (.malformed (.unexpectedElement other))

def openElement (l : Loading) (tag : Tag) : Except Error Loading :=
  match l.scope, l.leaf with
  | .outside, _ => l.openScope tag
  | _, none => .ok { l with leaf := some ⟨tag, ""⟩ }
  | _, some _ => .ok l

/-- Hands a leaf to the package or module that it stands in. -/
def applyLeaf (l : Loading) (leaf : Leaf) : Except Error Loading :=
  match l.scope with
  | .outside => .ok { l with leaf := none }
  | .package p => do .ok { l with scope := .package (← leaf.applyToPackage p), leaf := none }
  | .module m => do .ok { l with scope := .module (← leaf.applyToModule m), leaf := none }

/-- Registers the package or module that ends. -/
def closeScope (l : Loading) : Loading :=
  match l.scope with
  | .outside => l
  | .package p => { l with workspace := l.workspace.addPackage p, scope := .outside }
  | .module m => { l with workspace := l.workspace.addModule m, scope := .outside }

def closeElement (l : Loading) (name : String) : Except Error Loading :=
  match l.leaf with
  | some leaf => if leaf.tag.name = name then l.applyLeaf leaf else .ok l
  | none => .ok l.closeScope

def addText (l : Loading) (leaf : Leaf) (text : String) : Loading :=
  { l with leaf := some { leaf with text := leaf.text ++ text } }

def step (l : Loading) : Event → Except Error Loading
  | .opening tag => l.openElement tag
  | .empty tag => do (← l.openElement tag).closeElement tag.name
  | .closing name => l.closeElement name
  | .text raw =>
    match l.leaf with
    | some leaf => do
      let text ← (Markup.unescape raw).mapError Error.markup
      .ok (l.addText leaf text)
    | none => .ok l
  | .cdata content =>
    match l.leaf with
    | some leaf => .ok (l.addText leaf content)
    | none => .ok l

/-- The workspace, if the document may end here. -/
def finish (l : Loading) : Except Error Workspace :=
  if !l.rooted then .error (.malformed .noRoot)
  else match l.scope, l.leaf with
    | .outside, none => .ok l.workspace
    | _, _ => .error (.malformed .openElement)

end Loading

/-- The workspace that the events of a whole document describe. -/
def ofEvents (events : List Event) : Except Error Workspace := do
  (← events.foldlM Loading.step {}).finish

/-- The workspace that a document as it was read describes. A fault of the markup counts at the
place where reading stopped. -/
def ofTranscript (t : Transcript) : Except Error Workspace := do
  let loaded ← t.events.foldlM Loading.step {}
  match t.fault with
  | some fault => .error (.markup fault)
  | none => loaded.finish

def ofDocument (document : String) : Except Error Workspace :=
  ofTranscript (.ofText document)

theorem ofTranscript_of_no_fault (events : List Event) :
    ofTranscript ⟨events, none⟩ = ofEvents events := rfl

end FirmwareGlue.Workspace
