import FirmwareGlue.Glue.Convention

/-!
# Shapes of generated code

The type of a module decides what is generated for it: which dispatchers there are and how they
call the entry points, whether there are tables of event callbacks, and how libraries are called.
Types that are generated alike share a shape.
-/

namespace FirmwareGlue

/-- What is generated for a type of module. -/
inductive Shape where
  /-- Code for any phase: no dispatchers. -/
  | phaseless
  /-- The PEI foundation: exactly one entry point, to which control goes. -/
  | peiCore
  /-- The DXE foundation: exactly one entry point, to which control goes. -/
  | dxeCore
  /-- PEI modules: any number of entry points, and their statuses combined. -/
  | peim
  /-- Drivers and applications: any number of entry points and unload handlers. -/
  | driver
  /-- Drivers in system management mode: as drivers, but without a revision and callbacks. -/
  | smmDriver
  deriving DecidableEq

def ModuleType.shape : ModuleType → Shape
  | base => .phaseless
  | peiCore => .peiCore
  | dxeCore => .dxeCore
  | peim => .peim
  | dxeDriver | dxeRuntimeDriver | dxeSalDriver | uefiDriver | uefiApplication => .driver
  | dxeSmmDriver => .smmDriver

namespace Shape

/-- How library constructors and destructors are called. -/
def convention : Shape → LibraryConvention
  | phaseless => .base
  | peiCore | peim => .pei
  | dxeCore | driver | smmDriver => .dxe

def hasLifecycleTables : Shape → Bool
  | driver => true
  | _ => false

def hasDestructors (s : Shape) : Bool :=
  s.convention = .dxe

/-- The C type of the module's own identifier. -/
def callerIdType : Shape → String
  | phaseless => "GUID"
  | _ => "EFI_GUID"

end Shape

end FirmwareGlue
