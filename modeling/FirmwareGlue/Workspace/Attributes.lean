import FirmwareGlue.Error
import FirmwareGlue.Firmware.Arch
import FirmwareGlue.Markup.Tag
import FirmwareGlue.Text.Blank

/-!
# What attributes of a workspace document mean

GUIDs and module types may have blanks around them, flags are `true` or `false` in any case, and a
list of architectures is separated by blanks; without a list, a declaration applies to all of
them. An error quotes the attribute as it is written.
-/

namespace FirmwareGlue.Workspace

open Markup (Tag)

/-- The value of an attribute that has to be there. -/
def required (tag : Tag) (key : String) : Except Error String :=
  match tag.get? key with
  | some value => .ok value
  | none => .error (.malformed (.missingAttribute tag.name key))

def readGuid (value : String) : Except Error Guid :=
  match Guid.parse? (Text.trim value) with
  | some guid => .ok guid
  | none => .error (.invalidGuid value)

def readModuleType (value : String) : Except Error ModuleType :=
  match ModuleType.ofSpelling? (Text.trim value) with
  | some type => .ok type
  | none => .error (.unknownModuleType value)

def readArch (value : String) : Except Error Arch :=
  match Arch.ofSpelling? value with
  | some arch => .ok arch
  | none => .error (.unknownArch value)

/-- The GUID in an attribute that has to be there. -/
def requiredGuid (tag : Tag) (key : String) : Except Error Guid :=
  required tag key >>= readGuid

/-- The module type in an attribute that has to be there. -/
def requiredModuleType (tag : Tag) (key : String) : Except Error ModuleType :=
  required tag key >>= readModuleType

/-- The flag in an attribute; a flag that is not given is false. -/
def flag (tag : Tag) (key : String) : Except Error Bool :=
  match tag.get? key with
  | none => .ok false
  | some value =>
    if Text.equalIgnoringCase value "true" then .ok true
    else if Text.equalIgnoringCase value "false" then .ok false
    else .error (.malformed (.notAFlag tag.name key value))

/-- The architectures that a declaration applies to. -/
def arches (tag : Tag) : Except Error ArchSet :=
  match tag.get? "SupArchList" with
  | none => .ok .every
  | some list => do
    let named ← (Text.words list).mapM readArch
    .ok (.ofList named)

/-- The version in an attribute of an element that has one even if it does not say so. -/
def version (tag : Tag) : String :=
  (tag.get? "Version").getD "1.0"

end FirmwareGlue.Workspace
