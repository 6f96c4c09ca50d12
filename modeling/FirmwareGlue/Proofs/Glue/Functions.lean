import FirmwareGlue.Glue.Rendering
import FirmwareGlue.Proofs.Code.Calls
import FirmwareGlue.Proofs.FirstError

/-!
# The functions of a generated source

The source of a module is made of parts, one for each thing that is generated. Two of them define
functions: the dispatchers of library hooks, and what is made for entry points and unload handlers.
Besides what the descriptors name, these functions call what the firmware provides, and each other.
-/

namespace FirmwareGlue

open Code

namespace Glue

/-- The assertion that this point is not reached. -/
def unreachedAssertion : Call := callNames "ASSERT" ["FALSE"]

/-- The assertion that the status in hand is no error. -/
def statusAssertion : Call := callNames "ASSERT_EFI_ERROR" ["Status"]

/-- The call that destroys the libraries before the image exits. -/
def destroyLibraries : Call :=
  callNames "ProcessLibraryDestructorList" ["gImageHandle", "gST"]

/-- The call by which the image exits with the status in hand. -/
def imageExit : Call :=
  ⟨"gBS->Exit", [.symbol "gImageHandle", .symbol "Status", .number 0, .symbol "NULL"]⟩

/-- The jump back into the dispatcher of a driver. -/
def jumpBack : Call := ⟨"LongJump", [.address jumpBuffer, .greatest]⟩

/-- The calls to what the firmware provides. -/
def firmwareCalls : List Call :=
  [unreachedAssertion, statusAssertion, jumpBack, imageExit]

/-- The calls that are no calls of symbols from descriptors: to the firmware, and to a dispatcher of
the same source. No symbol of a descriptor is called with these arguments. -/
def ownCalls : List Call :=
  destroyLibraries :: firmwareCalls

variable {v : View} {items : List Item}

section

/-! A part of a source is made of items of few forms. What holds for these holds for the part. -/

variable {p : Item → Prop}

theorem forall_prototypes {returns : String} {parameters : ParameterList}
    (prototype : ∀ symbol, p (.prototype ⟨returns, symbol, parameters⟩)) (symbols : List String) :
    ∀ item ∈ prototypes returns parameters symbols, p item := by
  intro item member
  obtain ⟨_, _, rfl⟩ := List.mem_map.1 member
  exact prototype _

theorem forall_bindingExterns (object : ∀ type name, p (.externObject type name)) (v : View)
    (honorPcds : Bool) : ∀ item ∈ bindingExterns v honorPcds, p item := by
  intro item member
  simp only [bindingExterns, List.mem_append, List.mem_map, List.mem_flatMap] at member
  rcases member with ⟨_, _, rfl⟩ | ⟨_, _, _, _, rfl⟩
  · exact object _ _
  · exact object _ _

/-- The constants that describe the driver-model table. -/
def driverModelConstants : List String :=
  ["_gDriverModelProtocolBitmask", "_gDriverModelProtocolListEntries"]

theorem forall_driverModelItems {honorPcds : Bool} (h : driverModelItems v honorPcds = .ok items)
    (blank : p .blank) (object : ∀ type name, p (.externObject type name))
    (constant : ∀ c : Constant, c.name ∈ driverModelConstants → p (.constant c))
    (table : ∀ rows, p (.bindingTable rows)) : ∀ item ∈ items, p item := by
  obtain ⟨_, _, made⟩ := bind_ok_iff.1 h
  cases made
  simp only [List.forall_mem_append]
  refine ⟨⟨⟨forall_bindingExterns object v honorPcds, ?_⟩, ?_⟩, ?_⟩
  · split <;> simp [blank]
  · simp only [List.forall_mem_cons]
    exact ⟨constant _ (by simp [driverModelConstants]),
      constant _ (by simp [driverModelConstants]), blank, by simp⟩
  · split <;> simp [table]

theorem forall_lifecycleItems (blank : p .blank) (constant : ∀ c, p (.constant c))
    (prototype : ∀ head, p (.prototype head))
    (table : ∀ name callbacks, p (.callbackTable name callbacks)) (shape : Shape)
    (set : CapabilitySet) : ∀ item ∈ lifecycleItems shape set, p item := by
  have events (name : String) (callbacks : List String) :
      ∀ item ∈ eventItems name callbacks, p item := by
    simp only [eventItems, List.forall_mem_append]
    exact ⟨⟨by simp [constant, blank], forall_prototypes (fun _ => prototype _) _⟩, by simp [table]⟩
  unfold lifecycleItems
  split
  · exact List.forall_mem_append.2 ⟨events _ _, events _ _⟩
  · simp

theorem forall_guidItems (blank : p .blank)
    (global : ∀ symbol value, p (.guidGlobal symbol value)) (resolution : Resolution) :
    ∀ item ∈ guidItems resolution, p item := by
  intro item member
  simp only [guidItems] at member
  split at member
  · cases member
  · rcases List.mem_append.1 member with inGlobals | last
    · obtain ⟨_, _, rfl⟩ := List.mem_map.1 inGlobals
      exact global _ _
    · cases List.mem_singleton.1 last
      exact blank

theorem forall_libraryItems
    (prototype : ∀ convention hook, p (hookPrototype convention hook))
    (function : ∀ head body, p (.function head body)) (shape : Shape) (set : CapabilitySet) :
    ∀ item ∈ libraryItems shape set, p item := by
  have hooks (dispatcher : String) (list : List LibraryHook) :
      ∀ item ∈ hookItems dispatcher shape.convention list, p item := by
    intro item member
    rcases List.mem_append.1 member with declared | defined
    · obtain ⟨_, _, rfl⟩ := List.mem_map.1 declared
      exact prototype _ _
    · cases List.mem_singleton.1 defined
      exact function _ _
  refine List.forall_mem_append.2 ⟨hooks _ _, ?_⟩
  split
  · exact hooks _ _
  · simp

/-- The constants of what is made for entry points and unload handlers. -/
def entryConstants : List String :=
  ["_gUefiDriverRevision", "_gPeimRevision", "_gDriverEntryPointCount",
    "_gDriverUnloadImageCount"]

/-- The parameters of entry points and unload handlers. -/
def entryParameters : List ParameterList :=
  [peiCoreParameters, dxeCoreParameters, peimParameters, driverParameters, unloadParameters]

section

variable (blank : p .blank)
  (constant : ∀ c : Constant, c.name ∈ entryConstants → p (.constant c))
include blank constant

theorem forall_entryConstant (c : Constant) (named : c.name ∈ entryConstants) :
    ∀ item ∈ [.constant c, .blank], p item := by
  simp [blank, constant c named]

variable (static : ∀ type name first, p (.staticVariable type name first))
  (prototype : ∀ head : Signature, head.parameters ∈ entryParameters → p (.prototype head))
  (function : ∀ (head : Signature) (body : List Statement),
    head.name ∈ [entryDispatcher, exitFunction, unloadDispatcher] → p (.function head body))
include static prototype function

theorem forall_driverItems (entries : List String) (policy : UnloadPolicy)
    (unloads : List String) :
    ∀ item ∈ driverItems entries ++ unloadItems policy unloads, p item := by
  have kept : ∀ item ∈ driverVariables entries, p item := by
    unfold driverVariables
    split <;> simp [static, blank]
  have exit : ∀ item ∈ exitItems entries, p item := by
    unfold exitItems
    split <;> simp [function]
  simp only [driverItems, unloadItems, List.forall_mem_append]
  refine ⟨⟨⟨⟨⟨?_, ?_⟩, kept⟩, ?_⟩, exit⟩, ?_, ?_⟩
  · exact forall_prototypes (fun _ => prototype _ (by simp [entryParameters])) _
  · exact forall_entryConstant blank constant _ (by simp [entryConstants])
  · simp [function]
  · exact forall_prototypes (fun _ => prototype _ (by simp [entryParameters])) _
  · have counted := constant ⟨true, .uint8, 2, "_gDriverUnloadImageCount", unloads.length⟩
      (by simp [entryConstants])
    simp [blank, counted, function]

theorem forall_entryItems {e : EntryPoints} (h : e.items = .ok items) : ∀ item ∈ items, p item := by
  have driver := forall_driverItems blank constant static prototype function e.entries e.policy
    e.unloads
  have revision := forall_entryConstant blank constant
  unfold EntryPoints.items at h
  split at h
  case h_1 =>
    cases h
    simp
  case h_2 =>
    obtain ⟨entry, _, made⟩ := bind_ok_iff.1 h
    cases made
    refine List.forall_mem_append.2 ⟨?_, by simp [function]⟩
    exact forall_prototypes (fun _ => prototype _ (by simp [entryParameters])) _
  case h_3 =>
    obtain ⟨entry, _, made⟩ := bind_ok_iff.1 h
    cases made
    simp only [dxeCoreItems, List.forall_mem_append]
    refine ⟨⟨revision _ (by simp [entryConstants]), ?_⟩, by simp [function]⟩
    exact forall_prototypes (fun _ => prototype _ (by simp [entryParameters])) _
  case h_4 =>
    cases h
    simp only [peimItems, List.forall_mem_append]
    refine ⟨⟨revision _ (by simp [entryConstants]), ?_⟩, by simp [function]⟩
    exact forall_prototypes (fun _ => prototype _ (by simp [entryParameters])) _
  case h_5 =>
    cases h
    rw [List.append_assoc]
    exact List.forall_mem_append.2 ⟨revision _ (by simp [entryConstants]), driver⟩
  case h_6 =>
    cases h
    exact driver

end

end

theorem bare_prototypes (returns : String) (parameters : ParameterList) (symbols : List String) :
    Bare (prototypes returns parameters symbols) :=
  forall_prototypes (fun _ => rfl) symbols

theorem bare_driverModelItems {honorPcds : Bool}
    (h : driverModelItems v honorPcds = .ok items) : Bare items :=
  forall_driverModelItems h rfl (fun _ _ => rfl) (fun _ _ => rfl) (fun _ => rfl)

theorem bare_lifecycleItems (shape : Shape) (set : CapabilitySet) :
    Bare (lifecycleItems shape set) :=
  forall_lifecycleItems (p := (·.isBare = true)) rfl (fun _ => rfl) (fun _ => rfl)
    (fun _ _ => rfl) shape set

theorem bare_guidItems (resolution : Resolution) : Bare (guidItems resolution) :=
  forall_guidItems (p := (·.isBare = true)) rfl (fun _ _ => rfl) resolution

@[simp] theorem definitions_prototypes (returns : String) (parameters : ParameterList)
    (symbols : List String) : definitions (prototypes returns parameters symbols) = [] :=
  (bare_prototypes returns parameters symbols).definitions

@[simp] theorem definitions_hookItems (dispatcher : String) (inside : LibraryConvention)
    (hooks : List LibraryHook) :
    definitions (hookItems dispatcher inside hooks) =
      [⟨⟨"VOID", dispatcher, inside.parameters⟩, hookBody inside hooks⟩] := by
  have declared : Bare (hooks.map (hookPrototype inside)) := by
    simp [Bare, hookPrototype]
  rw [hookItems, definitions_append, declared.definitions]
  rfl

/-- The dispatchers of library hooks. -/
@[simp] theorem definitions_libraryItems (shape : Shape) (set : CapabilitySet) :
    definitions (libraryItems shape set) =
      ⟨⟨"VOID", "ProcessLibraryConstructorList", shape.convention.parameters⟩,
        hookBody shape.convention set.constructors⟩ ::
        if shape.hasDestructors then
          [⟨⟨"VOID", "ProcessLibraryDestructorList", shape.convention.parameters⟩,
            hookBody shape.convention set.destructors⟩]
        else [] := by
  rw [libraryItems, definitions_append, definitions_hookItems]
  split
  · simp
  · rfl

/-- The function that calls the entry points of a driver, and the one through which it is left. -/
@[simp] theorem definitions_driverItems (entries : List String) :
    definitions (driverItems entries) =
      ⟨⟨"EFI_STATUS", entryDispatcher, driverParameters⟩, driverBody entries⟩ ::
        if entries.isEmpty then []
        else [⟨⟨"VOID", exitFunction, exitParameters⟩, exitBody entries⟩] := by
  have kept : definitions (driverVariables entries) = [] := by
    unfold driverVariables
    split
    · rfl
    · rfl
  have exit : definitions (exitItems entries) =
      if entries.isEmpty then []
      else [⟨⟨"VOID", exitFunction, exitParameters⟩, exitBody entries⟩] := by
    unfold exitItems
    split
    · rfl
    · rfl
  simp [driverItems, kept, exit]

@[simp] theorem definitions_unloadItems (policy : UnloadPolicy) (handlers : List String) :
    definitions (unloadItems policy handlers) =
      [⟨⟨"EFI_STATUS", unloadDispatcher, unloadParameters⟩, unloadBody policy handlers⟩] := by
  simp [unloadItems]

/-- What is made for entry points and unload handlers defines the functions that call them, and
the one through which a driver is left. -/
theorem definitions_entryItems {e : EntryPoints} (h : e.items = .ok items) :
    ∀ d ∈ definitions items, d.head.name ∈ [entryDispatcher, exitFunction, unloadDispatcher] := by
  have named : ∀ item ∈ items, ∀ d, item.definition? = some d →
      d.head.name ∈ [entryDispatcher, exitFunction, unloadDispatcher] := by
    refine forall_entryItems (p := fun item => ∀ d, item.definition? = some d → _) ?_ ?_ ?_ ?_ ?_ h
    iterate 4 simp
    intro head body known d defined
    cases defined
    exact known
  rintro ⟨head, body⟩ member
  exact named _ (mem_definitions_iff.1 member) _ rfl

end Glue

namespace Rendering

variable {ws : Workspace} {config : Config} {v : View} {fragments : PcdFragments} {r : Rendering}

/-- The source of a module that is no library instance, part by part, with what it is made from. -/
theorem source_made (rendered : ofView ws config v fragments = .ok r)
    (image : v.isLibrary = false) :
    ∃ order resolution model entries, LibraryOrder.ofView ws v = .ok order ∧
      (CapabilitySet.ofOrder v order).resolve ws = .ok resolution ∧
      Glue.driverModelItems v config.honorDriverModelPcds = .ok model ∧
      (Glue.entryPointsOf v config).items = .ok entries ∧
      r.source.items = model ++ Glue.lifecycleItems v.type.shape (.ofOrder v order) ++
        [.callerId v.type.shape.callerIdType v.subject.identity.guid, .blank] ++
        Glue.guidItems resolution ++ Glue.libraryItems v.type.shape (.ofOrder v order) ++
        entries := by
  obtain ⟨_, _, rest⟩ := bind_ok_iff.1 rendered
  obtain ⟨source, made, result⟩ := bind_ok_iff.1 rest
  cases result
  rw [sourceOf, image, if_neg Bool.false_ne_true] at made
  obtain ⟨order, ordered, rest⟩ := bind_ok_iff.1 made
  obtain ⟨resolution, resolved, rest⟩ := bind_ok_iff.1 rest
  obtain ⟨items, itemsMade, result⟩ := bind_ok_iff.1 rest
  cases result
  obtain ⟨model, modelMade, rest⟩ := bind_ok_iff.1 itemsMade
  obtain ⟨entries, entriesMade, result⟩ := bind_ok_iff.1 rest
  cases result
  exact ⟨order, resolution, model, entries, ordered, resolved, modelMade, entriesMade, rfl⟩

/-- The source of a module that is no library instance, part by part. -/
theorem source_eq (rendered : ofView ws config v fragments = .ok r)
    (image : v.isLibrary = false) :
    ∃ order resolution model entries, LibraryOrder.ofView ws v = .ok order ∧
      Glue.driverModelItems v config.honorDriverModelPcds = .ok model ∧
      (Glue.entryPointsOf v config).items = .ok entries ∧
      r.source.items = model ++ Glue.lifecycleItems v.type.shape (.ofOrder v order) ++
        [.callerId v.type.shape.callerIdType v.subject.identity.guid, .blank] ++
        Glue.guidItems resolution ++ Glue.libraryItems v.type.shape (.ofOrder v order) ++
        entries := by
  obtain ⟨order, resolution, model, entries, ordered, _, made⟩ := source_made rendered image
  exact ⟨order, resolution, model, entries, ordered, made⟩

end Rendering

end FirmwareGlue
