import FirmwareGlue.Library.Order

/-!
# Capability sets

A module needs what it declares itself and what its library instances declare. The set gathers
both: the instances in the order of construction, then the module, each read for the target
architecture. Keywords and packages are kept at their first place; notifications count as keywords
of their kind and follow the plain keywords of the same module. Callbacks are all kept.

Constructors are listed in the order of construction, destructors in the reverse order.
-/

namespace FirmwareGlue

/-- A library constructor or destructor, with the module type that its library declares. -/
structure LibraryHook where
  symbol : String
  type : ModuleType
  deriving DecidableEq

/-- What a module pulls in, by itself and through its library instances. -/
structure CapabilitySet where
  ppis : List String := []
  protocols : List String := []
  guids : List String := []
  packages : List Reference := []
  virtualAddressMapCallbacks : List String := []
  exitBootServicesCallbacks : List String := []
  constructors : List LibraryHook := []
  destructors : List LibraryHook := []
  deriving DecidableEq

namespace CapabilitySet

def keywords (set : CapabilitySet) : CapabilityKind → List String
  | .ppi => set.ppis
  | .protocol => set.protocols
  | .guid => set.guids

/-- The set with the declarations of one module added. -/
def absorb (set : CapabilitySet) (v : View) : CapabilitySet :=
  { set with
    ppis := FirstSeen.addAll set.ppis (v.ppis ++ v.ppiNotifies)
    protocols := FirstSeen.addAll set.protocols (v.protocols ++ v.protocolNotifies)
    guids := FirstSeen.addAll set.guids v.guids
    packages := FirstSeen.addAll set.packages v.packages
    virtualAddressMapCallbacks :=
      set.virtualAddressMapCallbacks ++ v.subject.virtualAddressMapCallbacks
    exitBootServicesCallbacks :=
      set.exitBootServicesCallbacks ++ v.subject.exitBootServicesCallbacks }

/-- The hook that a library instance provides, if any. -/
def hook (symbolOf : View → Option String) (v : View) : Option LibraryHook :=
  (symbolOf v).map fun symbol => ⟨symbol, v.type⟩

/-- The set of a module whose library instances are in order. -/
def ofOrder (v : View) (order : LibraryOrder) : CapabilitySet :=
  let hooks : CapabilitySet := {
    constructors := order.instances.filterMap fun m => hook View.constructor (v.scopedTo m)
    destructors := order.destruction.filterMap fun m => hook View.destructor (v.scopedTo m) }
  (order.instances.foldl (fun set m => set.absorb (v.scopedTo m)) hooks).absorb v

end CapabilitySet

end FirmwareGlue
