import FirmwareGlue.Error
import FirmwareGlue.Firmware.Module
import FirmwareGlue.Firmware.Package
import FirmwareGlue.Workspace.Catalog

/-!
# Workspaces

A workspace is what a build knows: its packages and its modules, in the order in which they were
registered. It answers what generation asks about the world outside the module that is generated.
Where several candidates fit, the first one wins: the first registered one for a reference, and
the first listed package for a keyword or a library class.
-/

namespace FirmwareGlue

structure Workspace where
  packages : Catalog Package := .empty
  modules : Catalog Module := .empty

namespace Workspace

def empty : Workspace := {}

def addPackage (ws : Workspace) (p : Package) : Workspace :=
  { ws with packages := ws.packages.add p }

def addModule (ws : Workspace) (m : Module) : Workspace :=
  { ws with modules := ws.modules.add m }

/-- The first registered package that a reference is to. Unlike that of a module, its GUID is
compared once more behind the index. -/
def package? (ws : Workspace) (r : Reference) : Option Package :=
  (ws.packages.candidates r.guid).find? fun p => p.identity.answers r

/-- The first registered module that a reference accepts. -/
def module? (ws : Workspace) (r : Reference) : Option Module :=
  ws.modules.find? r

/-- The first registered module with a base name. -/
def moduleNamed? (ws : Workspace) (name : String) : Option Module :=
  ws.modules.toList.find? fun m => m.name = name

/-- The first registered module with a base name, which has to exist. -/
def requireModule (ws : Workspace) (name : String) : Except Error Module :=
  match ws.moduleNamed? name with
  | some m => .ok m
  | none => .error (.moduleNotFound name)

/-- The package that a reference accepts, which has to exist. -/
def requirePackage (ws : Workspace) (r : Reference) : Except Error Package :=
  match ws.package? r with
  | some p => .ok p
  | none => .error (.packageNotFound r)

/-- What the first of some packages that has an answer says. Every package up to that one has to
be registered. -/
def search {α : Type} (ws : Workspace) (answer : Package → Option α) :
    List Reference → Except Error (Option α)
  | [] => .ok none
  | r :: rest => do
    match answer (← ws.requirePackage r) with
    | some found => .ok (some found)
    | none => ws.search answer rest

/-- The declaration of a keyword in the first of some packages that declares it. -/
def lookup (ws : Workspace) (kind : CapabilityKind) (keyword : String)
    (packages : List Reference) : Except Error (Option Declaration) :=
  ws.search (fun p => (p.declarations kind).find? keyword) packages

/-- The header that declares a library class, from the first of some packages that has one. -/
def libraryClassHeader (ws : Workspace) (name : String) (packages : List Reference) :
    Except Error (Option String) :=
  ws.search (fun p => p.classHeaders.find? name) packages

/-- The header that a package has for modules of a type; an empty path is no header. -/
def packageHeader (ws : Workspace) (r : Reference) (type : ModuleType) :
    Except Error (Option String) := do
  let p ← ws.requirePackage r
  .ok ((p.typeHeaders.find? type).filter (· ≠ ""))

end Workspace

end FirmwareGlue
