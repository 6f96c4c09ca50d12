import FirmwareGlue.FirstSeen
import FirmwareGlue.Firmware.Module

/-!
# A module seen for one architecture

Generation reads a module through a view, which shows the declarations that apply to the target
architecture. Another module, such as a linked library instance, is looked at through a view of
its own for the same architecture.
-/

namespace FirmwareGlue

/-- A module and the architecture it is looked at for. -/
structure View where
  subject : Module
  arch : Arch
  deriving DecidableEq

namespace View

/-- Another module, looked at for the same architecture. -/
def scopedTo (v : View) (other : Module) : View := ⟨other, v.arch⟩

def name (v : View) : String := v.subject.name

def type (v : View) : ModuleType := v.subject.type

def isLibrary (v : View) : Bool := v.subject.isLibrary

def packages (v : View) : List Reference := Scoped.onArch v.arch v.subject.packages

def libraryInstances (v : View) : List Reference :=
  Scoped.onArch v.arch v.subject.libraryInstances

/-- The keywords of PEIM-to-PEIM interfaces. -/
def ppis (v : View) : List String := Scoped.onArch v.arch v.subject.ppis

/-- The keywords of PEIM-to-PEIM interfaces whose arrival the module is told of. -/
def ppiNotifies (v : View) : List String := Scoped.onArch v.arch v.subject.ppiNotifies

def protocols (v : View) : List String := Scoped.onArch v.arch v.subject.protocols

/-- The keywords of protocols whose arrival the module is told of. -/
def protocolNotifies (v : View) : List String := Scoped.onArch v.arch v.subject.protocolNotifies

def guids (v : View) : List String := Scoped.onArch v.arch v.subject.guids

/-- The library classes that the module uses in one way. -/
def libraryClasses (v : View) (usage : ClassUsage) : List String :=
  ((Scoped.onArch v.arch v.subject.libraryClasses).filter fun use => use.usage = usage).map
    ClassUse.name

/-- The symbols of a list that are not empty, each at its first place. -/
def symbols (list : List String) : List String :=
  FirstSeen.ofList (list.filter (· ≠ ""))

def entryPoints (v : View) : List String := symbols v.subject.entryPoints

def unloadImages (v : View) : List String := symbols v.subject.unloadImages

/-- The library constructor; an empty symbol counts as none. -/
def constructor (v : View) : Option String := v.subject.constructor.filter (· ≠ "")

/-- The library destructor; an empty symbol counts as none. -/
def destructor (v : View) : Option String := v.subject.destructor.filter (· ≠ "")

/-- What the driver registers with the driver model. -/
def driverModel (v : View) : DriverModel := v.subject.driverModel

def pcdEnabled (v : View) (name : String) : Bool := v.subject.pcdEnabled name

end View

end FirmwareGlue
