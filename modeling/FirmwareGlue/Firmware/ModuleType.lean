/-!
# Module types

The type of a module says in which phase of the boot it runs and how its entry points are called.
The set is closed. A type is written in capitals with underscores, and read back from exactly that
spelling.
-/

namespace FirmwareGlue

/-- What kind of code a module is. -/
inductive ModuleType where
  | base
  | peiCore
  | peim
  | dxeCore
  | dxeDriver
  | dxeRuntimeDriver
  | dxeSalDriver
  | dxeSmmDriver
  | uefiDriver
  | uefiApplication
  deriving DecidableEq

namespace ModuleType

/-- All module types, the phases in the order in which they run. -/
def all : List ModuleType :=
  [.base, .peiCore, .peim, .dxeCore, .dxeDriver, .dxeRuntimeDriver, .dxeSalDriver, .dxeSmmDriver,
    .uefiDriver, .uefiApplication]

def spelling : ModuleType → String
  | base => "BASE"
  | peiCore => "PEI_CORE"
  | peim => "PEIM"
  | dxeCore => "DXE_CORE"
  | dxeDriver => "DXE_DRIVER"
  | dxeRuntimeDriver => "DXE_RUNTIME_DRIVER"
  | dxeSalDriver => "DXE_SAL_DRIVER"
  | dxeSmmDriver => "DXE_SMM_DRIVER"
  | uefiDriver => "UEFI_DRIVER"
  | uefiApplication => "UEFI_APPLICATION"

def ofSpelling? (s : String) : Option ModuleType :=
  all.find? fun type => type.spelling == s

/-- Whether modules of this type run before boot services exist. -/
def isPei : ModuleType → Bool
  | peiCore | peim => true
  | _ => false

/-- Whether modules of this type run once boot services exist. -/
def isDxe (type : ModuleType) : Bool :=
  !type.isPei && type != base

theorem mem_all (type : ModuleType) : type ∈ all := by
  cases type <;> decide

theorem ofSpelling?_spelling (type : ModuleType) : ofSpelling? type.spelling = some type := by
  cases type <;> decide

end ModuleType

end FirmwareGlue
