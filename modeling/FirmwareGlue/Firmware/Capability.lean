/-!
# Kinds of capability

A module asks for capabilities by keyword, in one of three name spaces. Each keyword is bound to a
GUID by a package, in the name space of its kind.
-/

namespace FirmwareGlue

/-- The name space of a capability: a PEIM-to-PEIM interface, a protocol, or a plain GUID. -/
inductive CapabilityKind where
  | ppi
  | protocol
  | guid
  deriving DecidableEq

namespace CapabilityKind

def all : List CapabilityKind := [.ppi, .protocol, .guid]

def spelling : CapabilityKind → String
  | ppi => "PPI"
  | protocol => "Protocol"
  | guid => "GUID"

def ofSpelling? (s : String) : Option CapabilityKind :=
  all.find? fun kind => kind.spelling == s

/-- The kinds in the order in which their globals are resolved and emitted. -/
def emissionOrder : List CapabilityKind := [.protocol, .ppi, .guid]

theorem ofSpelling?_spelling (kind : CapabilityKind) : ofSpelling? kind.spelling = some kind := by
  cases kind <;> decide

end CapabilityKind

end FirmwareGlue
