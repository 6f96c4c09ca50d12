import FirmwareGlue.Proofs.Capability.Collection
import FirmwareGlue.Proofs.Glue.Functions

/-!
# The tables of event callbacks

For each of two events a driver has a table of callbacks, which ends with a null entry, and next to
it the number of callbacks and their prototypes. The firmware walks the table by either the number
or the null entry, so these have to agree. All three are made from one list: what the library
instances declare for the event, in the order of construction, and then what the module declares.
Unlike keywords, callbacks are not collected at their first places; one that is declared twice is
called twice.

Modules of other shapes have no tables, whatever they and their library instances declare.
-/

namespace FirmwareGlue

open Code Glue

/-- What a driver may have callbacks for. -/
inductive LifecycleEvent where
  /-- The operating system assigns virtual addresses. -/
  | setVirtualAddressMap
  /-- The operating system takes over from the boot services. -/
  | exitBootServices
  deriving DecidableEq

namespace LifecycleEvent

/-- The events, in the order of their tables. -/
def all : List LifecycleEvent := [setVirtualAddressMap, exitBootServices]

def table : LifecycleEvent → String
  | setVirtualAddressMap => "_gDriverSetVirtualAddressMapEvent"
  | exitBootServices => "_gDriverExitBootServicesEvent"

def countName (event : LifecycleEvent) : String := event.table ++ "Count"

def declared (m : Module) : LifecycleEvent → List String
  | setVirtualAddressMap => m.virtualAddressMapCallbacks
  | exitBootServices => m.exitBootServicesCallbacks

def collected (set : CapabilitySet) : LifecycleEvent → List String
  | setVirtualAddressMap => set.virtualAddressMapCallbacks
  | exitBootServices => set.exitBootServicesCallbacks

/-- The callbacks of a module: those of its library instances, in the order of construction, and
then its own. -/
def callbacks (v : View) (order : LibraryOrder) (event : LifecycleEvent) : List String :=
  order.instances.flatMap (fun library => event.declared library) ++ event.declared v.subject

variable {v : View} {order : LibraryOrder}

theorem collected_absorb (set : CapabilitySet) (v : View) (event : LifecycleEvent) :
    event.collected (set.absorb v) = event.collected set ++ event.declared v.subject := by
  cases event <;> rfl

/-- Each instance adds its callbacks at the end, and nothing is dropped. -/
theorem collected_foldl_absorb (v : View) (instances : List Module) (set : CapabilitySet)
    (event : LifecycleEvent) :
    event.collected (instances.foldl (fun set m => set.absorb (v.scopedTo m)) set) =
      event.collected set ++ instances.flatMap fun library => event.declared library := by
  induction instances generalizing set with
  | nil => simp
  | cons m rest ih =>
      rw [List.foldl_cons, ih, collected_absorb, List.flatMap_cons, List.append_assoc]
      rfl

theorem collected_ofOrder (v : View) (order : LibraryOrder) (event : LifecycleEvent) :
    event.collected (.ofOrder v order) = event.callbacks v order := by
  rw [CapabilitySet.ofOrder, collected_absorb, collected_foldl_absorb, callbacks]
  cases event <;> rfl

end LifecycleEvent

/-- The items for an event: the number of its callbacks, their prototypes, and the table. -/
def eventSection (event : LifecycleEvent) (callbacks : List String) : List Item :=
  [.constant ⟨true, .uintn, 1, event.countName, callbacks.length⟩, .blank] ++
    callbacks.map (fun callback => .prototype ⟨"VOID", callback, eventParameters⟩) ++
    [.callbackTable event.table callbacks]

/-- The text for an event. The rows of the table are the callbacks, and after them a null entry. -/
def eventText (event : LifecycleEvent) (callbacks : List String) : String :=
  "GLOBAL_REMOVE_IF_UNREFERENCED const UINTN " ++ event.countName ++ " = "
    ++ toString callbacks.length ++ ";\n\n"
    ++ concat (callbacks.map fun callback => "VOID\nEFIAPI\n" ++ callback
      ++ " (\n  IN EFI_EVENT  Event,\n  IN VOID       *Context\n  );\n\n")
    ++ "GLOBAL_REMOVE_IF_UNREFERENCED const EFI_EVENT_NOTIFY " ++ event.table ++ "[] = \x7b\n"
    ++ String.intercalate ",\n" ((callbacks ++ ["NULL"]).map ("  " ++ ·)) ++ "\n\x7d;\n\n"

/-- Whether an item is a table of callbacks, the number of them, or a prototype of one. -/
@[simp] def Code.Item.concernsEvents : Item → Bool
  | callbackTable _ _ => true
  | constant c => c.name ∈ LifecycleEvent.all.map LifecycleEvent.countName
  | prototype head => head.parameters = eventParameters
  | _ => false

/-- Some items have nothing to do with event callbacks. -/
def NoEvents (items : List Item) : Prop :=
  ∀ item ∈ items, item.concernsEvents = false

/-- A source has the tables of all events, and nothing else for event callbacks. -/
structure Source.TabulatesEvents (source : Source) (callbacks : LifecycleEvent → List String) :
    Prop where
  items : ∃ before after,
    source.items =
      before ++ LifecycleEvent.all.flatMap (fun event => eventSection event (callbacks event)) ++
        after ∧
    NoEvents before ∧ NoEvents after
  text : ∃ front back,
    source.text =
      front ++ concat (LifecycleEvent.all.map fun event => eventText event (callbacks event)) ++
        back

theorem eventItems_eq (event : LifecycleEvent) (callbacks : List String) :
    eventItems event.table callbacks = eventSection event callbacks := by
  rw [eventItems, prototypes, eventSection, LifecycleEvent.countName]

theorem lifecycleItems_eq {shape : Shape} (set : CapabilitySet)
    (has : shape.hasLifecycleTables = true) :
    lifecycleItems shape set =
      LifecycleEvent.all.flatMap fun event => eventSection event (event.collected set) := by
  rw [lifecycleItems, if_pos has]
  simp [LifecycleEvent.all, ← eventItems_eq, LifecycleEvent.table, LifecycleEvent.collected]

theorem intercalate_rows (callbacks : List String) :
    String.intercalate ",\n" ((callbacks ++ ["NULL"]).map ("  " ++ ·)) =
      concat (callbacks.map fun callback => "  " ++ callback ++ ",\n") ++ "  NULL" := by
  induction callbacks with
  | nil => rfl
  | cons callback rest ih =>
      have more : (rest ++ ["NULL"]).map ("  " ++ ·) ≠ [] := by simp
      rw [List.cons_append, List.map_cons, String.intercalate_cons_of_ne_nil more, ih,
        List.map_cons, concat_cons]
      simp only [String.append_assoc]

theorem itemsText_eventCount (name : String) (count : Nat) :
    itemsText [.constant ⟨true, .uintn, 1, name, count⟩, .blank] =
      "GLOBAL_REMOVE_IF_UNREFERENCED const UINTN " ++ name ++ " = " ++ toString count
        ++ ";\n\n" := by
  have front : removableMark ++ "const " ++ "UINTN" ++ "".pushn ' ' 1 =
      "GLOBAL_REMOVE_IF_UNREFERENCED const UINTN " := rfl
  have close : ";\n" ++ itemsText [.blank] = ";\n\n" := rfl
  rw [itemsText_cons, Item.text, Constant.text, if_pos rfl, IntegerType.spelling, front,
    String.append_assoc, close]

theorem itemsText_eventPrototypes (callbacks : List String) :
    itemsText (callbacks.map fun callback => .prototype ⟨"VOID", callback, eventParameters⟩) =
      concat (callbacks.map fun callback => "VOID\nEFIAPI\n" ++ callback
        ++ " (\n  IN EFI_EVENT  Event,\n  IN VOID       *Context\n  );\n\n") := by
  have front : "VOID" ++ "\nEFIAPI\n" = "VOID\nEFIAPI\n" := rfl
  have back : " (\n  " ++ (String.intercalate ",\n  " eventParameters.lines
        ++ ("\n  )" ++ ";\n\n")) =
      " (\n  IN EFI_EVENT  Event,\n  IN VOID       *Context\n  );\n\n" := by
    decide +kernel
  rw [itemsText, List.map_map]
  congr 2
  funext callback
  simp only [Function.comp, Item.text, Signature.text, front, String.append_assoc, back]

theorem itemsText_callbackTable (name : String) (callbacks : List String) :
    itemsText [.callbackTable name callbacks] =
      "GLOBAL_REMOVE_IF_UNREFERENCED const EFI_EVENT_NOTIFY " ++ name ++ "[] = \x7b\n"
        ++ String.intercalate ",\n" ((callbacks ++ ["NULL"]).map ("  " ++ ·))
        ++ "\n\x7d;\n\n" := by
  have front : removableMark ++ "const EFI_EVENT_NOTIFY " =
      "GLOBAL_REMOVE_IF_UNREFERENCED const EFI_EVENT_NOTIFY " := rfl
  have close : "  NULL" ++ "\n\x7d;\n\n" = "  NULL\n\x7d;\n\n" := rfl
  rw [itemsText_cons, Item.text, front, itemsText_nil, String.append_empty, intercalate_rows]
  simp only [String.append_assoc, close]

theorem itemsText_eventSection (event : LifecycleEvent) (callbacks : List String) :
    itemsText (eventSection event callbacks) = eventText event callbacks := by
  unfold eventText
  simp only [eventSection, itemsText_append, itemsText_eventCount, itemsText_eventPrototypes,
    itemsText_callbackTable, String.append_assoc]

/-- Library hooks, like entry points, take other parameters than event callbacks. -/
theorem concernsEvents_hookPrototype (inside : LibraryConvention) (hook : LibraryHook) :
    (hookPrototype inside hook).concernsEvents = false := by
  have parameters (convention : LibraryConvention) : convention.parameters ≠ eventParameters := by
    cases convention <;> decide
  exact decide_eq_false (parameters _)

/-- What is made for entry points and unload handlers has nothing to do with event callbacks. -/
theorem noEvents_entryItems {e : EntryPoints} {items : List Item} (h : e.items = .ok items) :
    NoEvents items := by
  have constants : ∀ name ∈ entryConstants,
      name ∉ LifecycleEvent.all.map LifecycleEvent.countName := by decide
  have parameters : ∀ list ∈ entryParameters, list ≠ eventParameters := by decide
  apply forall_entryItems (p := (·.concernsEvents = false)) rfl ?_ (fun _ _ _ => rfl) ?_
    (fun _ _ _ => rfl) h
  · intro c named
    exact decide_eq_false (constants c.name named)
  · intro head known
    exact decide_eq_false (parameters head.parameters known)

theorem noEvents_driverModelItems {v : View} {honorPcds : Bool} {items : List Item}
    (h : driverModelItems v honorPcds = .ok items) : NoEvents items := by
  have constants : ∀ name ∈ driverModelConstants,
      name ∉ LifecycleEvent.all.map LifecycleEvent.countName := by decide
  apply forall_driverModelItems (p := (·.concernsEvents = false)) h rfl (fun _ _ => rfl) ?_
    (fun _ => rfl)
  intro c named
  exact decide_eq_false (constants c.name named)

namespace Rendering

variable {ws : Workspace} {config : Config} {v : View} {fragments : PcdFragments} {r : Rendering}

/-- Around what is made for the events nothing has to do with their callbacks. -/
theorem source_around_events (rendered : ofView ws config v fragments = .ok r)
    (image : v.isLibrary = false) :
    ∃ order before after, LibraryOrder.ofView ws v = .ok order ∧
      r.source.items = before ++ lifecycleItems v.type.shape (.ofOrder v order) ++ after ∧
      NoEvents before ∧ NoEvents after := by
  obtain ⟨order, resolution, model, entries, ordered, modelMade, entriesMade, items⟩ :=
    source_eq rendered image
  refine ⟨order, model, [.callerId v.type.shape.callerIdType v.subject.identity.guid, .blank] ++
    guidItems resolution ++ libraryItems v.type.shape (.ofOrder v order) ++ entries, ordered, ?_,
    noEvents_driverModelItems modelMade, ?_⟩
  · rw [items]
    simp only [List.append_assoc]
  · have globals : NoEvents (guidItems resolution) :=
      forall_guidItems (p := (·.concernsEvents = false)) rfl (fun _ _ => rfl) resolution
    have libraries : NoEvents (libraryItems v.type.shape (.ofOrder v order)) :=
      forall_libraryItems concernsEvents_hookPrototype (fun _ _ => rfl) _ _
    have own : NoEvents [.callerId v.type.shape.callerIdType v.subject.identity.guid, .blank] := by
      simp [NoEvents]
    simp only [NoEvents, List.forall_mem_append]
    exact ⟨⟨⟨own, globals⟩, libraries⟩, noEvents_entryItems entriesMade⟩

theorem tabulatesEvents (rendered : ofView ws config v fragments = .ok r)
    (image : v.isLibrary = false) (has : v.type.shape.hasLifecycleTables = true) :
    ∃ order, LibraryOrder.ofView ws v = .ok order ∧
      r.source.TabulatesEvents (LifecycleEvent.callbacks v order) := by
  obtain ⟨order, before, after, ordered, items, first, last⟩ := source_around_events rendered image
  simp only [lifecycleItems_eq _ has, LifecycleEvent.collected_ofOrder] at items
  refine ⟨order, ordered, ⟨before, after, items, first, last⟩, ?_⟩
  refine ⟨notice sourceName ++ "#include <AutoGen.h>\n\n" ++ itemsText before,
    itemsText after ++ r.source.fragment, ?_⟩
  have tables (events : List LifecycleEvent) (callbacks : LifecycleEvent → List String) :
      itemsText (events.flatMap fun event => eventSection event (callbacks event)) =
        concat (events.map fun event => eventText event (callbacks event)) := by
    induction events with
    | nil => rfl
    | cons event rest ih =>
        rw [List.flatMap_cons, itemsText_append, itemsText_eventSection, ih, List.map_cons,
          concat_cons]
  rw [Source.text, items]
  simp only [itemsText_append, tables, String.append_assoc]

/-- The tables of a driver have all callbacks that its library instances declare, in the order of
construction, and then its own, each with the number of them and their prototypes in front. A
module of another shape, or a library instance, has nothing of this. -/
theorem events_tabulated (rendered : ofView ws config v fragments = .ok r) :
    (v.isLibrary = false → v.type.shape.hasLifecycleTables = true →
      ∃ order, LibraryOrder.ofView ws v = .ok order ∧
        r.source.TabulatesEvents (LifecycleEvent.callbacks v order)) ∧
      (v.isLibrary = true ∨ v.type.shape.hasLifecycleTables = false → NoEvents r.source.items) := by
  refine ⟨tabulatesEvents rendered, ?_⟩
  intro without
  cases image : v.isLibrary with
  | true =>
      obtain ⟨_, _, rest⟩ := bind_ok_iff.1 rendered
      obtain ⟨source, made, result⟩ := bind_ok_iff.1 rest
      rw [sourceOf, if_pos image] at made
      cases made
      cases result
      simp [NoEvents]
  | false =>
      have none : v.type.shape.hasLifecycleTables = false := without.resolve_left (by simp [image])
      obtain ⟨order, before, after, _, items, first, last⟩ := source_around_events rendered image
      rw [lifecycleItems, if_neg (by simp [none]), List.append_nil] at items
      rw [items]
      exact List.forall_mem_append.2 ⟨first, last⟩

/-- A library instance with a callback. -/
def notifiedLibrary : Module where
  identity := ⟨"RuntimeLib", ⟨Vector.replicate 16 1⟩, "1.0"⟩
  type := .base
  isLibrary := true
  virtualAddressMapCallbacks := ["Convert"]

/-- A module that links it and has the same callback again, behind another one. -/
def notifiedModule (type : ModuleType) : View where
  subject :=
    { identity := ⟨"Driver", ⟨Vector.replicate 16 0⟩, "1.0"⟩
      type
      libraryInstances := [⟨⟨⟨Vector.replicate 16 1⟩, none⟩, .every⟩]
      virtualAddressMapCallbacks := ["Notify", "Convert"] }
  arch := .x64

/-- The callbacks of a driver for one event, none of them dropped, and the empty table of the other
event. As a PEI module it has no tables. -/
theorem repeated_callback_tabulated :
    (∃ r, ofView (.addModule .empty notifiedLibrary) {} (notifiedModule .dxeDriver) {} = .ok r ∧
      r.source.TabulatesEvents fun
        | .setVirtualAddressMap => ["Convert", "Notify", "Convert"]
        | .exitBootServices => []) ∧
      ∃ r, ofView (.addModule .empty notifiedLibrary) {} (notifiedModule .peim) {} = .ok r ∧
        NoEvents r.source.items := by
  constructor
  · obtain ⟨r, rendered⟩ : ∃ r, ofView (.addModule .empty notifiedLibrary) {}
        (notifiedModule .dxeDriver) {} = .ok r := ⟨_, rfl⟩
    obtain ⟨order, ordered, tabulates⟩ := (events_tabulated rendered).1 rfl rfl
    obtain rfl : ⟨[notifiedLibrary]⟩ = order := Except.ok.inj ordered
    refine ⟨r, rendered, ?_⟩
    convert tabulates using 1
    funext event
    cases event <;> rfl
  · obtain ⟨r, rendered⟩ : ∃ r, ofView (.addModule .empty notifiedLibrary) {}
        (notifiedModule .peim) {} = .ok r := ⟨_, rfl⟩
    exact ⟨r, rendered, (events_tabulated rendered).2 (.inr rfl)⟩

end Rendering

end FirmwareGlue
