import FirmwareGlue.Code.Function
import FirmwareGlue.Firmware.View
import FirmwareGlue.Glue.Notice
import FirmwareGlue.Workspace.Basic

/-!
# The generated header

The header has an include guard that is made from the GUID of the module, the definitions of
specification versions, and includes. A module includes the headers that its own packages have for
its type, and then the headers of the library classes it consumes and those it produces, each from
the first of its own packages that has one. A header is included once, at its first place.
-/

namespace FirmwareGlue

namespace Glue

/-- The include guard of a module: the digits of its GUID in capitals, grouped by underscores. -/
def includeGuard (m : Module) : String :=
  "_AUTOGENH_" ++ String.ofList
    (m.identity.guid.text.toList.map fun c => if c = '-' then '_' else c.toUpper)

/-- The header of a library class, which has to exist. -/
def requireClassHeader (ws : Workspace) (packages : List Reference) (name : String) :
    Except Error String := do
  match ← ws.libraryClassHeader name packages with
  | some header => .ok header
  | none => .error (.libraryClassNotFound name)

/-- The headers that a module includes, in order. -/
def includes (ws : Workspace) (v : View) : Except Error (List String) := do
  let typeHeaders ← v.packages.mapM fun r => ws.packageHeader r v.type
  let classes := v.libraryClasses .consumed ++ v.libraryClasses .produced
  let classHeaders ← classes.mapM (requireClassHeader ws v.packages)
  .ok (FirstSeen.ofList (typeHeaders.filterMap id ++ classHeaders))

end Glue

structure Header where
  includeGuard : String
  /-- The bodies of definitions. -/
  definitions : List String
  includes : List String
  /-- Whether the legacy flash map is included. -/
  flashMap : Bool
  /-- The text before the end of the guard. -/
  fragment : String
  deriving DecidableEq

namespace Header

def ofView (ws : Workspace) (v : View) (fragment : String) : Except Error Header := do
  .ok {
    includeGuard := Glue.includeGuard v.subject
    definitions := v.subject.specVersions
    includes := ← Glue.includes ws v
    flashMap := v.subject.flashMap
    fragment }

def text (h : Header) : String :=
  Glue.notice Glue.headerName
    ++ "#ifndef " ++ h.includeGuard ++ "\n#define " ++ h.includeGuard ++ "\n\n"
    ++ Code.concat (h.definitions.map fun d => "#define " ++ d ++ "\n")
    ++ Code.concat (h.includes.map fun file => "#include <" ++ file ++ ">\n")
    ++ "\n"
    ++ (if h.flashMap then "#include  <" ++ Glue.flashMapCopyName ++ ">\n" else "")
    ++ "\n" ++ h.fragment ++ "#endif\n"

end Header

end FirmwareGlue
