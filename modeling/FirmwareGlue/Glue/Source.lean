import FirmwareGlue.Capability.Resolution
import FirmwareGlue.Glue.DriverModel
import FirmwareGlue.Glue.EntryPoints
import FirmwareGlue.Glue.Notice

/-!
# The generated source

The source of a module holds, in this order: the driver-model table, the tables of event callbacks,
the module's own identifier, the GUID globals, the dispatchers of library constructors and
destructors, and what is generated for entry points and unload handlers. A library instance has an
empty source, since its glue is generated for the modules that link it.
-/

namespace FirmwareGlue

open Code (Item Statement Signature)

namespace Glue

/-- The table of the callbacks for one event, with the number of them and their prototypes. -/
def eventItems (table : String) (callbacks : List String) : List Item :=
  [.constant ⟨true, .uintn, 1, table ++ "Count", callbacks.length⟩, .blank] ++
    prototypes "VOID" eventParameters callbacks ++ [.callbackTable table callbacks]

/-- The tables of event callbacks, for the shapes that have them. -/
def lifecycleItems (shape : Shape) (set : CapabilitySet) : List Item :=
  if shape.hasLifecycleTables then
    eventItems "_gDriverSetVirtualAddressMapEvent" set.virtualAddressMapCallbacks ++
      eventItems "_gDriverExitBootServicesEvent" set.exitBootServicesCallbacks
  else []

def guidItems (resolution : Resolution) : List Item :=
  let globals := resolution.toList.map fun entry => Item.guidGlobal entry.symbol entry.guid
  if globals.isEmpty then [] else globals ++ [.blank]

/-- The prototype of a library hook inside a module. -/
def hookPrototype (inside : LibraryConvention) (hook : LibraryHook) : Item :=
  let convention := inside.ofLibrary hook.type
  .prototype ⟨convention.returns, hook.symbol, convention.parameters⟩

/-- The call of a library hook and the check of its status. -/
def hookStep (inside : LibraryConvention) (hook : LibraryHook) : List Statement :=
  [.act (.store "Status" (.call (forward hook.symbol (inside.ofLibrary hook.type).parameters))),
    .act (.perform (Code.callNames "ASSERT_EFI_ERROR" ["Status"]))]

def hookBody (inside : LibraryConvention) (hooks : List LibraryHook) : List Statement :=
  (if hooks.isEmpty then [] else [.declare "EFI_STATUS" "Status", .blank]) ++
    hooks.flatMap (hookStep inside)

/-- The library hooks of one kind and their dispatcher. -/
def hookItems (dispatcher : String) (inside : LibraryConvention) (hooks : List LibraryHook) :
    List Item :=
  hooks.map (hookPrototype inside) ++
    [.function ⟨"VOID", dispatcher, inside.parameters⟩ (hookBody inside hooks)]

/-- The dispatchers of library constructors and, where the shape has it, destructors. -/
def libraryItems (shape : Shape) (set : CapabilitySet) : List Item :=
  hookItems "ProcessLibraryConstructorList" shape.convention set.constructors ++
    if shape.hasDestructors then
      hookItems "ProcessLibraryDestructorList" shape.convention set.destructors
    else []

def entryPointsOf (v : View) (config : Config) : EntryPoints :=
  ⟨v.type, v.entryPoints, v.unloadImages, config.unloadPolicy⟩

def moduleItems (v : View) (config : Config) (set : CapabilitySet) (resolution : Resolution) :
    Except Error (List Item) := do
  let shape := v.type.shape
  let driverModel ← driverModelItems v config.honorDriverModelPcds
  let entryPoints ← (entryPointsOf v config).items
  .ok (driverModel ++ lifecycleItems shape set ++
    [.callerId shape.callerIdType v.subject.identity.guid, .blank] ++
    guidItems resolution ++ libraryItems shape set ++ entryPoints)

end Glue

structure Source where
  items : List Item
  /-- The text at the end. -/
  fragment : String
  deriving DecidableEq

namespace Source

/-- The source of a module that is no library instance. -/
def ofView (ws : Workspace) (v : View) (config : Config) (fragment : String) :
    Except Error Source := do
  let order ← LibraryOrder.ofView ws v
  let set := CapabilitySet.ofOrder v order
  let resolution ← set.resolve ws
  .ok ⟨← Glue.moduleItems v config set resolution, fragment⟩

def text (s : Source) : String :=
  Glue.notice Glue.sourceName ++ "#include <AutoGen.h>\n\n" ++ Code.itemsText s.items ++ s.fragment

end Source

end FirmwareGlue
