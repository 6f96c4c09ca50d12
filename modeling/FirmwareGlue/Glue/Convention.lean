import FirmwareGlue.Code.Function
import FirmwareGlue.Firmware.ModuleType

/-!
# Calling conventions

How the functions of a module are called depends on the phase it runs in. Library constructors and
destructors, and the dispatchers that call them, take what their phase has to offer: nothing, the
services of the PEI phase, or the handle and the system table. Libraries that are independent of
the phase take nothing wherever they are linked.
-/

namespace FirmwareGlue

open Code (Parameter ParameterList)

/-- How library constructors and destructors are called. -/
inductive LibraryConvention where
  | base
  | pei
  | dxe
  deriving DecidableEq

namespace Glue

def peiCoreParameters : ParameterList :=
  ⟨28, [⟨"EFI_PEI_STARTUP_DESCRIPTOR", 1, "PeiStartupDescriptor"⟩, ⟨"VOID", 1, "OldCoreData"⟩]⟩

def dxeCoreParameters : ParameterList :=
  ⟨6, [⟨"VOID", 1, "HobStart"⟩]⟩

/-- What a PEI module and its libraries are given. -/
def peiEntries : List Parameter :=
  [⟨"EFI_FFS_FILE_HEADER", 1, "FfsHeader"⟩, ⟨"EFI_PEI_SERVICES", 2, "PeiServices"⟩]

def peimParameters : ParameterList := ⟨21, peiEntries⟩

/-- The parameters of a library constructor in the PEI phase. -/
def peiLibraryParameters : ParameterList := ⟨26, peiEntries⟩

/-- The parameters of a driver or application, and of its library constructors. -/
def driverParameters : ParameterList :=
  ⟨18, [⟨"EFI_HANDLE", 0, "ImageHandle"⟩, ⟨"EFI_SYSTEM_TABLE", 1, "SystemTable"⟩]⟩

def unloadParameters : ParameterList := ⟨12, [⟨"EFI_HANDLE", 0, "ImageHandle"⟩]⟩

/-- The parameters of the function through which a driver is left. -/
def exitParameters : ParameterList := ⟨12, [⟨"EFI_STATUS", 0, "Status"⟩]⟩

def eventParameters : ParameterList := ⟨11, [⟨"EFI_EVENT", 0, "Event"⟩, ⟨"VOID", 1, "Context"⟩]⟩

end Glue

namespace LibraryConvention

def spelling : LibraryConvention → String
  | base => "Base"
  | pei => "Pei"
  | dxe => "Dxe"

def returns : LibraryConvention → String
  | base => "RETURN_STATUS"
  | pei | dxe => "EFI_STATUS"

def parameters : LibraryConvention → ParameterList
  | base => {}
  | pei => Glue.peiLibraryParameters
  | dxe => Glue.driverParameters

/-- The arguments that a dispatcher hands on, as text. -/
def argumentText (c : LibraryConvention) : String :=
  String.intercalate ", " c.parameters.names

/-- The convention of a library inside a module. -/
def ofLibrary (inside : LibraryConvention) (type : ModuleType) : LibraryConvention :=
  if type = .base then .base else inside

end LibraryConvention

end FirmwareGlue
