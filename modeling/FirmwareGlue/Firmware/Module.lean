import FirmwareGlue.Firmware.Arch
import FirmwareGlue.Firmware.Identity
import FirmwareGlue.Firmware.ModuleType
import FirmwareGlue.Table
import FirmwareGlue.Text.Blank

/-!
# Modules

A module declares what it needs and what it offers: packages, library classes and instances,
capabilities, and the symbols that generated code has to call. A library instance is a module with
`isLibrary` set. Descriptors are plain data: they are made once, and generation only reads them.
-/

namespace FirmwareGlue

/-- A declaration and the architectures it applies to. -/
structure Scoped (α : Type) where
  value : α
  arches : ArchSet := .every
  deriving DecidableEq

namespace Scoped

variable {α : Type}

/-- The values that apply to an architecture, in order. -/
def onArch (arch : Arch) (list : List (Scoped α)) : List α :=
  (list.filter fun entry => entry.arches.includes arch).map value

end Scoped

/-- Whether a module uses a library class or provides it. -/
inductive ClassUsage where
  | consumed
  | produced
  deriving DecidableEq

structure ClassUse where
  name : String
  usage : ClassUsage
  deriving DecidableEq

/-- The protocol instances that a driver registers with the driver model, by protocol. Row `i` of
the generated table takes entry `i` of every group, so a group that is not empty has to be as long
as `bindings`. -/
structure DriverModel where
  bindings : List String := []
  componentNames : List String := []
  configurations : List String := []
  diagnostics : List String := []
  deriving DecidableEq

def DriverModel.isEmpty (model : DriverModel) : Bool :=
  model.bindings.isEmpty && model.componentNames.isEmpty && model.configurations.isEmpty
    && model.diagnostics.isEmpty

structure Module where
  identity : Identity
  type : ModuleType
  isLibrary : Bool := false
  /-- The package that owns the module, if it is known. -/
  package : Option Guid := none
  packages : List (Scoped Reference) := []
  libraryClasses : List (Scoped ClassUse) := []
  libraryInstances : List (Scoped Reference) := []
  ppis : List (Scoped String) := []
  ppiNotifies : List (Scoped String) := []
  protocols : List (Scoped String) := []
  protocolNotifies : List (Scoped String) := []
  guids : List (Scoped String) := []
  entryPoints : List String := []
  unloadImages : List String := []
  constructor : Option String := none
  destructor : Option String := none
  virtualAddressMapCallbacks : List String := []
  exitBootServicesCallbacks : List String := []
  driverModel : DriverModel := {}
  /-- The bodies of the specification-version definitions. -/
  specVersions : List String := []
  /-- Whether the header of the legacy flash map is included. -/
  flashMap : Bool := false
  /-- The configuration values that the module fixes. -/
  pcds : Table String String := .empty
  deriving DecidableEq

instance : Identified Module := ⟨Module.identity⟩

namespace Module

def name (m : Module) : String := m.identity.name

/-- Whether a module fixes a configuration value to true. -/
def pcdEnabled (m : Module) (name : String) : Bool :=
  match m.pcds.find? name with
  | some value => Text.equalIgnoringCase value "TRUE" || value == "1"
  | none => false

end Module

end FirmwareGlue
