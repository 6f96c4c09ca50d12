import FirmwareGlue.Library.Reach
import FirmwareGlue.Library.Walk

/-!
# The order of construction

An instance depends on the instances it links, and on those that produce a library class it
consumes. What is depended on is constructed first and destroyed last. The order is a walk through
the reachable instances, from each in the order in which they were met, along the links of an
instance before its library classes; it depends on the declarations only. A class that an instance
both consumes and produces is no dependency on itself.
-/

namespace FirmwareGlue

/-- The library instances of a module, in the order in which they are constructed. -/
structure LibraryOrder where
  instances : List Module
  deriving DecidableEq

namespace Library

/-- The places of the instances that produce a library class, once for each time that it is
declared. -/
def producers (v : View) (nodes : List Module) (className : String) : List Nat :=
  nodes.zipIdx.flatMap fun entry =>
    (((v.scopedTo entry.1).libraryClasses .produced).filter (· = className)).map fun _ => entry.2

/-- The place of the instance that a reference is to. -/
def placeOf (ws : Workspace) (nodes : List Module) (r : Reference) : Except Error Nat :=
  let place := do
    let m ← ws.module? r
    nodes.findIdx? fun other => other.identity = m.identity
  match place with
  | some i => .ok i
  | none => .error (.libraryInstanceNotFound r none)

/-- The places that the instance at a place depends on, each once. -/
def targetsOf (ws : Workspace) (v : View) (nodes : List Module) (place : Nat) (m : Module) :
    Except Error (List Nat) := do
  let own := v.scopedTo m
  let linked ← own.libraryInstances.mapM (placeOf ws nodes)
  let consumed := (own.libraryClasses .consumed).flatMap (producers v nodes)
  .ok (FirstSeen.ofList (linked ++ consumed.filter (· ≠ place)))

/-- The dependencies among some instances: for each, the places of what it depends on. -/
def dependencies (ws : Workspace) (v : View) (nodes : List Module) :
    Except Error (List (List Nat)) :=
  nodes.zipIdx.mapM fun entry => targetsOf ws v nodes entry.2 entry.1

def namesAt (nodes : List Module) (places : List Nat) : List String :=
  places.filterMap fun i => (nodes[i]?).map Module.name

def haltError (nodes : List Module) : Halt → Error
  | .cycle places => .cyclicDependency (namesAt nodes places)
  | .depth => .cyclicDependency []

end Library

namespace LibraryOrder

open Library

/-- Orders the library instances of a module, direct and transitive ones. -/
def ofView (ws : Workspace) (v : View) : Except Error LibraryOrder := do
  let nodes ← reachable ws v
  let targets ← dependencies ws v nodes
  let places ← (sortNodes nodes.length fun i => targets.getD i []).mapError (haltError nodes)
  .ok ⟨places.filterMap fun i => nodes[i]?⟩

/-- The instances in the order in which they are destroyed. -/
def destruction (o : LibraryOrder) : List Module := o.instances.reverse

def names (o : LibraryOrder) : List String := o.instances.map Module.name

end LibraryOrder

end FirmwareGlue
