import FirmwareGlue.Guid

/-!
# Identities and references

Modules and packages are known by a name, a GUID and a version. They are referred to by GUID, with
or without a version; a reference without one accepts every version.
-/

namespace FirmwareGlue

structure Identity where
  name : String
  guid : Guid
  version : String
  deriving DecidableEq

structure Reference where
  guid : Guid
  version : Option String
  deriving DecidableEq

namespace Reference

def text (r : Reference) : String :=
  match r.version with
  | some version => r.guid.text ++ " v" ++ version
  | none => r.guid.text

/-- Whether a reference accepts a version. -/
def accepts (r : Reference) (version : String) : Bool :=
  r.version.all (· == version)

end Reference

namespace Identity

def text (i : Identity) : String :=
  i.name ++ " (" ++ i.guid.text ++ " v" ++ i.version ++ ")"

/-- The reference that accepts this GUID and version only. -/
def reference (i : Identity) : Reference :=
  ⟨i.guid, some i.version⟩

/-- Whether a reference is to this identity. -/
def answers (i : Identity) (r : Reference) : Bool :=
  i.guid == r.guid && r.accepts i.version

@[simp] theorem answers_reference (i : Identity) : i.answers i.reference = true := by
  simp [answers, reference, Reference.accepts]

end Identity

/-- Things that have an identity. -/
class Identified (α : Type) where
  identity : α → Identity

end FirmwareGlue
