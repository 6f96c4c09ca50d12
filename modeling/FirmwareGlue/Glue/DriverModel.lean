import FirmwareGlue.Code.Item
import FirmwareGlue.Error
import FirmwareGlue.Firmware.View

/-!
# The driver-model table

A driver registers driver bindings, and with each of them up to three further protocols. The
generated table has a row per binding and a column per protocol; a bitmask says which columns are
in use. A group that declares anything has to be as long as the list of bindings, also when its
column is switched off by a configuration value.
-/

namespace FirmwareGlue

open Code (Item BindingRow)

namespace DriverModelGroup

/-- The optional groups, in the order of their columns. -/
def all : List DriverModelGroup := [.componentName, .driverConfiguration, .driverDiagnostics]

/-- The C type of the instances in a group. -/
def protocolType : DriverModelGroup → String
  | componentName => "EFI_COMPONENT_NAME_PROTOCOL"
  | driverConfiguration => "EFI_DRIVER_CONFIGURATION_PROTOCOL"
  | driverDiagnostics => "EFI_DRIVER_DIAGNOSTICS_PROTOCOL"

/-- The bit of a group in the bitmask. -/
def bit : DriverModelGroup → Nat
  | componentName => 1
  | driverConfiguration => 2
  | driverDiagnostics => 4

/-- The configuration value that switches the column of a group off. -/
def switch? : DriverModelGroup → Option String
  | componentName => some "PcdComponentNameDisable"
  | driverConfiguration => none
  | driverDiagnostics => some "PcdDriverDiagnosticsDisable"

end DriverModelGroup

namespace DriverModel

def group (model : DriverModel) : DriverModelGroup → List String
  | .componentName => model.componentNames
  | .driverConfiguration => model.configurations
  | .driverDiagnostics => model.diagnostics

/-- Whether a group lines up with the bindings. -/
def aligned (model : DriverModel) (g : DriverModelGroup) : Bool :=
  (model.group g).isEmpty || (model.group g).length == model.bindings.length

/-- The error of the first group that does not line up. -/
def check (model : DriverModel) : Except Error Unit :=
  match DriverModelGroup.all.find? fun g => !model.aligned g with
  | some g => .error (.driverModelMismatch g model.bindings.length (model.group g).length)
  | none => .ok ()

end DriverModel

namespace Glue

/-- Whether a group is switched off by a configuration value that is respected. -/
def switchedOff (v : View) (honorPcds : Bool) (g : DriverModelGroup) : Bool :=
  honorPcds && g.switch?.any v.pcdEnabled

/-- Whether a group has a column in use. -/
def present (v : View) (honorPcds : Bool) (g : DriverModelGroup) : Bool :=
  !(v.driverModel.group g).isEmpty && !switchedOff v honorPcds g

/-- The bits of the groups that have a column in use. -/
def bitmask (v : View) (honorPcds : Bool) : Nat :=
  ((DriverModelGroup.all.filter (present v honorPcds)).map DriverModelGroup.bit).foldl (· + ·) 0

def rowEntry (v : View) (honorPcds : Bool) (row : Nat) (g : DriverModelGroup) : Option String :=
  if present v honorPcds g then (v.driverModel.group g)[row]? else none

def bindingRows (v : View) (honorPcds : Bool) : List BindingRow :=
  v.driverModel.bindings.zipIdx.map fun entry =>
    ⟨entry.1, DriverModelGroup.all.map (rowEntry v honorPcds entry.2)⟩

/-- The objects that the table refers to. -/
def bindingExterns (v : View) (honorPcds : Bool) : List Item :=
  v.driverModel.bindings.map (.externObject "EFI_DRIVER_BINDING_PROTOCOL") ++
    (DriverModelGroup.all.filter (present v honorPcds)).flatMap fun g =>
      (v.driverModel.group g).map (.externObject g.protocolType)

/-- The items of the driver model: what the table refers to, the bitmask, the number of rows, and
the table if it has a row. -/
def driverModelItems (v : View) (honorPcds : Bool) : Except Error (List Item) := do
  v.driverModel.check
  let count := v.driverModel.bindings.length
  let whenBound (items : List Item) : List Item := if count = 0 then [] else items
  .ok (bindingExterns v honorPcds ++ whenBound [.blank] ++
    [.constant ⟨true, .uint8, 2, "_gDriverModelProtocolBitmask", bitmask v honorPcds⟩,
      .constant ⟨true, .uintn, 2, "_gDriverModelProtocolListEntries", count⟩,
      .blank] ++
    whenBound [.bindingTable (bindingRows v honorPcds)])

end Glue

end FirmwareGlue
