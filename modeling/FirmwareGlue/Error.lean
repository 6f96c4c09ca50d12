import FirmwareGlue.Firmware.Capability
import FirmwareGlue.Firmware.Identity
import FirmwareGlue.Firmware.ModuleType
import FirmwareGlue.Markup.Fault
import FirmwareGlue.Storage.Fault

/-!
# Errors

Everything that can stop a workspace from being loaded or a module from being generated. An error
says what is wrong; its text is made from that in one place, and so is the class it belongs to.
-/

namespace FirmwareGlue

/-- A group of driver-model protocols that is optional. -/
inductive DriverModelGroup where
  | componentName
  | driverConfiguration
  | driverDiagnostics
  deriving DecidableEq

def DriverModelGroup.label : DriverModelGroup → String
  | componentName => "Component Name"
  | driverConfiguration => "Driver Configuration"
  | driverDiagnostics => "Driver Diagnostics"

/-- What is wrong with the structure of a workspace document. -/
inductive Defect where
  | missingAttribute (element key : String)
  | notAFlag (element key value : String)
  | classWithoutHeader (name : String)
  | emptyElement (element : String)
  | unknownUsage (usage : String)
  | unexpectedElement (element : String)
  | noRoot
  | openElement
  deriving DecidableEq

def Defect.message : Defect → String
  | missingAttribute element key =>
    "<" ++ element ++ "> is missing the required attribute '" ++ key ++ "'"
  | notAFlag element key value =>
    "<" ++ element ++ "> attribute '" ++ key ++ "' must be true or false, got '" ++ value ++ "'"
  | classWithoutHeader name => "library class " ++ name ++ " declares no header"
  | emptyElement element => "<" ++ element ++ "> must not be empty"
  | unknownUsage usage => "unknown library class usage '" ++ usage ++ "'"
  | unexpectedElement element => "unexpected element <" ++ element ++ ">"
  | noRoot => "document has no <Workspace> root"
  | openElement => "document ends inside an open element"

/-- The class of an error, as a build driver tells them apart. -/
inductive ErrorCategory where
  | configuration
  | resolution
  | io
  | workspace
  deriving DecidableEq

def ErrorCategory.spelling : ErrorCategory → String
  | configuration => "configuration"
  | resolution => "resolution"
  | io => "io"
  | workspace => "workspace"

/-- Why loading or generation failed. -/
inductive Error where
  /-- Library instances that depend on each other in a loop, the first one named again at the
  end. -/
  | cyclicDependency (names : List String)
  | entryPointCount (type : ModuleType) (found : Nat)
  | driverModelMismatch (group : DriverModelGroup) (expected found : Nat)
  /-- A reference to no registered module, with the name of the module that links it. -/
  | libraryInstanceNotFound (reference : Reference) (linkedBy : Option String)
  | moduleNotFound (name : String)
  | packageNotFound (reference : Reference)
  | libraryClassNotFound (name : String)
  | declarationNotFound (kind : CapabilityKind) (keyword : String)
  | flashMapMissing (path : String)
  | readFailed (path : String) (cause : Storage.Fault)
  | writeFailed (path : String) (cause : Storage.Fault)
  | fileError (cause : Storage.Fault)
  | malformed (defect : Defect)
  | markup (fault : Markup.Fault)
  | invalidGuid (text : String)
  | unknownModuleType (text : String)
  | unknownArch (text : String)
  deriving DecidableEq

namespace Error

def message : Error → String
  | cyclicDependency names =>
    "Cyclic library instance dependency: " ++ String.intercalate " -> " names
  | entryPointCount type found =>
    "Module type = '" ++ type.spelling ++ "', can have only one module entry point, found "
      ++ toString found
  | driverModelMismatch group expected found =>
    "Different number of Driver Binding and " ++ group.label ++ " protocols: expected "
      ++ toString expected ++ ", found " ++ toString found
  | libraryInstanceNotFound reference linkedBy =>
    "Library instance " ++ reference.text
      ++ (match linkedBy with
        | some name => " (linked by " ++ name ++ ")"
        | none => "")
      ++ " is not registered in the workspace"
  | moduleNotFound name => "Module " ++ name ++ " is not registered in the workspace"
  | packageNotFound reference =>
    "Package " ++ reference.text ++ " is not registered in the workspace"
  | libraryClassNotFound name =>
    "Can not find library class [" ++ name ++ "] declaration in any package"
  | declarationNotFound kind keyword =>
    "Can not find " ++ kind.spelling ++ " GUID [" ++ keyword
      ++ "] declaration in any dependent package"
  | flashMapMissing path => "Legacy flash map header " ++ path ++ " does not exist"
  | readFailed path cause => "Failed to read " ++ path ++ ": " ++ cause.message
  | writeFailed path cause => "Failed to write " ++ path ++ ": " ++ cause.message
  | fileError cause => cause.message
  | malformed defect => "Malformed workspace: " ++ defect.message
  | markup fault => fault.message
  | invalidGuid text => "Invalid GUID - " ++ text
  | unknownModuleType text => "Unknown module type - " ++ text
  | unknownArch text => "Unknown architecture - " ++ text

def category : Error → ErrorCategory
  | cyclicDependency .. | entryPointCount .. | driverModelMismatch .. | libraryInstanceNotFound ..
  | moduleNotFound .. | packageNotFound .. | libraryClassNotFound .. => .configuration
  | declarationNotFound .. => .resolution
  | flashMapMissing .. | readFailed .. | writeFailed .. | fileError .. => .io
  | malformed .. | markup .. | invalidGuid .. | unknownModuleType .. | unknownArch .. => .workspace

/-- The texts of what lies behind an error, the nearest first. -/
def causes : Error → List String
  | readFailed _ cause | writeFailed _ cause | fileError cause => [cause.message]
  | markup fault => fault.causes
  | _ => []

end Error

end FirmwareGlue
