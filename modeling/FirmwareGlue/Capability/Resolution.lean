import FirmwareGlue.Capability.Set

/-!
# Resolution of capabilities

Every keyword of a capability set is resolved to a C symbol and a GUID: those of the declaration of
its kind in the first package of the set that has one. Protocols are resolved first, then
PEIM-to-PEIM interfaces, then plain GUIDs, and this is also the order of the globals. A symbol that
has been resolved already is not listed again, whatever its kind.
-/

namespace FirmwareGlue

/-- A keyword and the C global that it resolves to. -/
structure ResolvedGuid where
  keyword : String
  symbol : String
  guid : Guid
  deriving DecidableEq

def ResolvedGuid.initializer (r : ResolvedGuid) : String := r.guid.initializer

/-- The globals of a module, by kind. -/
structure Resolution where
  protocols : List ResolvedGuid := []
  ppis : List ResolvedGuid := []
  guids : List ResolvedGuid := []
  deriving DecidableEq

namespace Resolution

def ofKind (r : Resolution) : CapabilityKind → List ResolvedGuid
  | .ppi => r.ppis
  | .protocol => r.protocols
  | .guid => r.guids

/-- All globals, in the order of emission. -/
def toList (r : Resolution) : List ResolvedGuid :=
  CapabilityKind.emissionOrder.flatMap r.ofKind

def symbols (r : Resolution) : List String :=
  r.toList.map ResolvedGuid.symbol

def push (r : Resolution) (kind : CapabilityKind) (entry : ResolvedGuid) : Resolution :=
  match kind with
  | .ppi => { r with ppis := r.ppis ++ [entry] }
  | .protocol => { r with protocols := r.protocols ++ [entry] }
  | .guid => { r with guids := r.guids ++ [entry] }

/-- The resolution with one more global, unless its symbol is there already. -/
def add (r : Resolution) (kind : CapabilityKind) (entry : ResolvedGuid) : Resolution :=
  if entry.symbol ∈ r.symbols then r else r.push kind entry

end Resolution

namespace CapabilitySet

/-- Everything that has to be resolved, in order: each keyword with its kind. -/
def requests (set : CapabilitySet) : List (CapabilityKind × String) :=
  CapabilityKind.emissionOrder.flatMap fun kind => (set.keywords kind).map fun k => (kind, k)

/-- The declaration that a keyword resolves to, which has to exist. -/
def requireDeclaration (ws : Workspace) (packages : List Reference) (kind : CapabilityKind)
    (keyword : String) : Except Error Declaration := do
  match ← ws.lookup kind keyword packages with
  | some d => .ok d
  | none => .error (.declarationNotFound kind keyword)

def resolve (set : CapabilitySet) (ws : Workspace) : Except Error Resolution :=
  set.requests.foldlM (fun r request => do
    let d ← requireDeclaration ws set.packages request.1 request.2
    .ok (r.add request.1 ⟨request.2, d.symbol, d.guid⟩)) {}

end CapabilitySet

end FirmwareGlue
