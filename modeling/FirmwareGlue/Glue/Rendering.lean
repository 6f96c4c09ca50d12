import FirmwareGlue.Glue.Header
import FirmwareGlue.Glue.Source

/-!
# Rendering a module

A module is rendered to a header and a source, for one architecture. The header comes first: when
both would fail, its error is reported. What is rendered depends on the workspace, the module, the
architecture, the configuration and the fragments, and on nothing else.
-/

namespace FirmwareGlue

structure Rendering where
  header : Header
  source : Source
  deriving DecidableEq

namespace Rendering

/-- The source of a module; that of a library instance is empty. -/
def sourceOf (ws : Workspace) (config : Config) (v : View) (fragment : String) :
    Except Error Source :=
  if v.isLibrary then .ok ⟨[], fragment⟩ else Source.ofView ws v config fragment

def ofView (ws : Workspace) (config : Config) (v : View) (fragments : PcdFragments) :
    Except Error Rendering := do
  let header ← Header.ofView ws v fragments.header
  let source ← sourceOf ws config v fragments.source
  .ok ⟨header, source⟩

end Rendering

namespace Glue

def orderRecord (v : View) (order : LibraryOrder) : Record :=
  ⟨.debug, v.name ++ ": library order [" ++ String.intercalate ", " order.names ++ "]"⟩

def capabilityRecord (v : View) (set : CapabilitySet) : Record :=
  ⟨.debug, v.name ++ ": " ++ toString set.ppis.length ++ " PPIs, "
    ++ toString set.protocols.length ++ " protocols, " ++ toString set.guids.length ++ " GUIDs, "
    ++ toString set.packages.length ++ " packages, " ++ toString set.constructors.length
    ++ " constructors, " ++ toString set.destructors.length ++ " destructors"⟩

/-- The records of keywords whose symbol an earlier keyword has, up to the first keyword that does
not resolve. -/
def repeatRecords (ws : Workspace) (packages : List Reference) :
    List String → List (CapabilityKind × String) → List Record
  | _, [] => []
  | symbols, (kind, keyword) :: rest =>
    match CapabilitySet.requireDeclaration ws packages kind keyword with
    | .error _ => []
    | .ok d =>
      if d.symbol ∈ symbols then
        ⟨.debug, kind.spelling ++ " " ++ keyword ++ " resolves to already emitted " ++ d.symbol⟩
          :: repeatRecords ws packages symbols rest
      else repeatRecords ws packages (d.symbol :: symbols) rest

/-- The warning about driver bindings that nothing will use. -/
def driverModelRecords (v : View) : List Record :=
  if !v.type.isDxe && !v.driverModel.isEmpty then
    [⟨.warn, v.name ++ ": " ++ v.type.spelling
      ++ " modules are not loaded by the driver model, driver bindings are inert"⟩]
  else []

/-- The warning about event callbacks that nothing will call. -/
def lifecycleRecords (v : View) (set : CapabilitySet) : List Record :=
  if !v.type.shape.hasLifecycleTables
      && !(set.virtualAddressMapCallbacks.isEmpty && set.exitBootServicesCallbacks.isEmpty) then
    [⟨.warn, v.name ++ ": " ++ v.type.spelling
      ++ " modules have no event tables, ignoring lifecycle callbacks"⟩]
  else []

def itemRecords (v : View) (config : Config) (set : CapabilitySet) : List Record :=
  driverModelRecords v ++
    match v.driverModel.check with
    | .error _ => []
    | .ok _ => lifecycleRecords v set ++ (entryPointsOf v config).records

def sourceRecords (ws : Workspace) (config : Config) (v : View) : List Record :=
  match LibraryOrder.ofView ws v with
  | .error _ => []
  | .ok order =>
    let set := CapabilitySet.ofOrder v order
    [orderRecord v order, capabilityRecord v set] ++
      repeatRecords ws set.packages [] set.requests ++
      match set.resolve ws with
      | .error _ => []
      | .ok _ => itemRecords v config set

end Glue

/-- The records of rendering a module, in order. -/
def Rendering.records (ws : Workspace) (config : Config) (v : View) : List Record :=
  match Glue.includes ws v with
  | .error _ => []
  | .ok _ => if v.isLibrary then [] else Glue.sourceRecords ws config v

end FirmwareGlue
