import FirmwareGlue.Firmware.Capability
import FirmwareGlue.Firmware.Identity
import FirmwareGlue.Firmware.ModuleType
import FirmwareGlue.Table

/-!
# Packages

A package declares headers, by module type and by library class, and binds the keywords of each
kind of capability to a C symbol with a GUID value.
-/

namespace FirmwareGlue

/-- A C symbol and the GUID it stands for. -/
structure Declaration where
  symbol : String
  guid : Guid
  deriving DecidableEq

structure Package where
  identity : Identity
  /-- The header for modules of each type; an empty path means that there is none. -/
  typeHeaders : Table ModuleType String := .empty
  /-- The header that declares each library class. -/
  classHeaders : Table String String := .empty
  ppis : Table String Declaration := .empty
  protocols : Table String Declaration := .empty
  guids : Table String Declaration := .empty
  deriving DecidableEq

instance : Identified Package := ⟨Package.identity⟩

namespace Package

/-- The declarations of one kind, by keyword. -/
def declarations (p : Package) : CapabilityKind → Table String Declaration
  | .ppi => p.ppis
  | .protocol => p.protocols
  | .guid => p.guids

/-- The package with one more keyword bound. -/
def declare (p : Package) (kind : CapabilityKind) (keyword : String) (d : Declaration) : Package :=
  match kind with
  | .ppi => { p with ppis := p.ppis.insert keyword d }
  | .protocol => { p with protocols := p.protocols.insert keyword d }
  | .guid => { p with guids := p.guids.insert keyword d }

end Package

end FirmwareGlue
