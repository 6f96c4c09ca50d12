import FirmwareGlue.Workspace.Attributes
import FirmwareGlue.Workspace.Basic

/-!
# Elements of a workspace document

The tag of a package or module gives it its identity. What it declares stands in leaves: elements
inside it, each with attributes and a text. A leaf adds to the lists of its parent or writes one
key of it; a later leaf for the same key replaces an earlier one. A leaf whose name is not known
says nothing.
-/

namespace FirmwareGlue.Workspace

open Markup (Tag)

structure Leaf where
  tag : Tag
  text : String
  deriving DecidableEq

def packageOf (tag : Tag) : Except Error Package := do
  let name ← required tag "Name"
  let guid ← requiredGuid tag "Guid"
  .ok { identity := ⟨name, guid, version tag⟩ }

def moduleOf (tag : Tag) : Except Error Module := do
  let name ← required tag "Name"
  let guid ← requiredGuid tag "Guid"
  let type ← requiredModuleType tag "ModuleType"
  let isLibrary ← flag tag "Library"
  let flashMap ← flag tag "FlashMap"
  let package ← (tag.get? "Package").mapM readGuid
  .ok { identity := ⟨name, guid, version tag⟩, type, isLibrary, flashMap, package }

namespace Leaf

/-- The text of a leaf that may not be empty. -/
def symbol (leaf : Leaf) : Except Error String :=
  if leaf.text = "" then .error (.malformed (.emptyElement leaf.tag.name)) else .ok leaf.text

/-- The text of a leaf, for the architectures that it names. -/
def scopedSymbol (leaf : Leaf) : Except Error (Scoped String) := do
  let value ← leaf.symbol
  .ok ⟨value, ← arches leaf.tag⟩

/-- A reference, for the architectures that the leaf names. -/
def scopedReference (leaf : Leaf) (guidKey versionKey : String) :
    Except Error (Scoped Reference) := do
  let guid ← requiredGuid leaf.tag guidKey
  .ok ⟨⟨guid, leaf.tag.get? versionKey⟩, ← arches leaf.tag⟩

def usage (leaf : Leaf) : Except Error ClassUsage :=
  match (leaf.tag.get? "Usage").getD "ALWAYS_CONSUMED" with
  | "ALWAYS_CONSUMED" | "SOMETIMES_CONSUMED" => .ok .consumed
  | "ALWAYS_PRODUCED" | "SOMETIMES_PRODUCED" => .ok .produced
  | other => .error (.malformed (.unknownUsage other))

/-- The library class that a leaf names, for the architectures that it names. -/
def scopedClass (leaf : Leaf) : Except Error (Scoped ClassUse) := do
  let usage ← leaf.usage
  let name ← leaf.symbol
  .ok ⟨⟨name, usage⟩, ← arches leaf.tag⟩

/-- Binds the keyword that a leaf names. -/
def declareIn (leaf : Leaf) (p : Package) (kind : CapabilityKind) : Except Error Package := do
  let keyword ← required leaf.tag "Name"
  let symbol ← required leaf.tag "CName"
  let guid ← requiredGuid leaf.tag "Guid"
  .ok (p.declare kind keyword ⟨symbol, guid⟩)

def applyToPackage (leaf : Leaf) (p : Package) : Except Error Package :=
  match leaf.tag.name with
  | "ModuleTypeHeader" => do
    let type ← requiredModuleType leaf.tag "ModuleType"
    .ok { p with typeHeaders := p.typeHeaders.insert type leaf.text }
  | "LibraryClass" => do
    let name ← required leaf.tag "Name"
    if leaf.text = "" then .error (.malformed (.classWithoutHeader name))
    else .ok { p with classHeaders := p.classHeaders.insert name leaf.text }
  | "Ppi" => leaf.declareIn p .ppi
  | "Protocol" => leaf.declareIn p .protocol
  | "Guid" => leaf.declareIn p .guid
  | _ => .ok p

/-- The driver model with what a leaf declares, if the leaf belongs to it. -/
def applyToDriverModel (leaf : Leaf) (model : DriverModel) : Except Error DriverModel :=
  match leaf.tag.name with
  | "DriverBinding" => do
    .ok { model with bindings := model.bindings ++ [← leaf.symbol] }
  | "ComponentName" => do
    .ok { model with componentNames := model.componentNames ++ [← leaf.symbol] }
  | "DriverConfiguration" => do
    .ok { model with configurations := model.configurations ++ [← leaf.symbol] }
  | "DriverDiagnostics" => do
    .ok { model with diagnostics := model.diagnostics ++ [← leaf.symbol] }
  | _ => .ok model

def applyToModule (leaf : Leaf) (m : Module) : Except Error Module :=
  match leaf.tag.name with
  | "Package" => do
    .ok { m with
      packages := m.packages ++ [← leaf.scopedReference "PackageGuid" "PackageVersion"] }
  | "LibraryClass" => do
    .ok { m with libraryClasses := m.libraryClasses ++ [← leaf.scopedClass] }
  | "LibraryInstance" => do
    .ok { m with
      libraryInstances :=
        m.libraryInstances ++ [← leaf.scopedReference "ModuleGuid" "ModuleVersion"] }
  | "Ppi" => do .ok { m with ppis := m.ppis ++ [← leaf.scopedSymbol] }
  | "PpiNotify" => do .ok { m with ppiNotifies := m.ppiNotifies ++ [← leaf.scopedSymbol] }
  | "Protocol" => do .ok { m with protocols := m.protocols ++ [← leaf.scopedSymbol] }
  | "ProtocolNotify" => do
    .ok { m with protocolNotifies := m.protocolNotifies ++ [← leaf.scopedSymbol] }
  | "Guid" => do .ok { m with guids := m.guids ++ [← leaf.scopedSymbol] }
  | "EntryPoint" => do .ok { m with entryPoints := m.entryPoints ++ [← leaf.symbol] }
  | "UnloadImage" => do .ok { m with unloadImages := m.unloadImages ++ [← leaf.symbol] }
  | "Constructor" => do .ok { m with constructor := some (← leaf.symbol) }
  | "Destructor" => do .ok { m with destructor := some (← leaf.symbol) }
  | "SetVirtualAddressMapCallBack" => do
    .ok { m with virtualAddressMapCallbacks := m.virtualAddressMapCallbacks ++ [← leaf.symbol] }
  | "ExitBootServicesCallBack" => do
    .ok { m with exitBootServicesCallbacks := m.exitBootServicesCallbacks ++ [← leaf.symbol] }
  | "SpecVersion" => do .ok { m with specVersions := m.specVersions ++ [← leaf.symbol] }
  | "Pcd" => do
    let name ← required leaf.tag "Name"
    .ok { m with pcds := m.pcds.insert name leaf.text }
  | _ => do .ok { m with driverModel := ← leaf.applyToDriverModel m.driverModel }

end Leaf

end FirmwareGlue.Workspace
