import FirmwareGlue.Proofs.Glue.Functions
import FirmwareGlue.Proofs.Library.Order

/-!
# The dispatchers of library hooks

A rendered source calls the constructors of the library instances in the order of construction, and
where libraries are destroyed, their destructors in the reverse order. An instance without a hook
is passed over, so what stands in the text is the order of the instances that have one: the
constructor of an instance stands behind those of everything the instance depends on, and its
destructor before them. The lines of a dispatcher are written out here for each convention.
-/

namespace FirmwareGlue

open Code Library

namespace Glue

variable {inside : LibraryConvention} {symbolOf : Module → Option String}

/-- The hook of a library instance: its symbol, if it has one that is not empty. -/
def hookOf (symbolOf : Module → Option String) (m : Module) : Option LibraryHook :=
  ((symbolOf m).filter (· ≠ "")).map fun symbol => ⟨symbol, m.type⟩

def hooksOf (symbolOf : Module → Option String) (instances : List Module) : List LibraryHook :=
  instances.filterMap (hookOf symbolOf)

/-- The call of a hook, with what the convention of its library hands on. -/
def hookCall (inside : LibraryConvention) (h : LibraryHook) : Call :=
  callNames h.symbol (inside.ofLibrary h.type).parameters.names

/-- What a dispatcher hands to a hook, as it stands in a call. -/
def handedText : LibraryConvention → String
  | .base => ""
  | .pei => "FfsHeader, PeiServices"
  | .dxe => "ImageHandle, SystemTable"

/-- The lines of a dispatcher for one hook. A library for any phase is handed nothing. -/
def hookLines (inside : LibraryConvention) (h : LibraryHook) : String :=
  "  Status = " ++ h.symbol ++ " (" ++ (if h.type = .base then "" else handedText inside)
    ++ ");\n  ASSERT_EFI_ERROR (Status);\n"

def hooksText (inside : LibraryConvention) (hooks : List LibraryHook) : String :=
  concat (hooks.map (hookLines inside))

/-- What a dispatcher is given, as it stands in its head. -/
def parameterLines : LibraryConvention → String
  | .base => "  VOID\n"
  | .pei => "  IN EFI_FFS_FILE_HEADER       *FfsHeader,\n" ++
      "  IN EFI_PEI_SERVICES          **PeiServices\n"
  | .dxe => "  IN EFI_HANDLE        ImageHandle,\n" ++
      "  IN EFI_SYSTEM_TABLE  *SystemTable\n"

/-- The text of a dispatcher up to the first hook. -/
def dispatcherOpening (dispatcher : String) (inside : LibraryConvention)
    (hooks : List LibraryHook) : String :=
  "VOID\nEFIAPI\n" ++ dispatcher ++ " (\n" ++ parameterLines inside ++ "  )\n\x7b\n" ++
    if hooks.isEmpty then "" else "  EFI_STATUS  Status;\n\n"

/-- The text of a dispatcher behind the last hook. -/
def dispatcherClosing : String := "\x7d\n\n"

@[simp] theorem hooksOf_append (first second : List Module) :
    hooksOf symbolOf (first ++ second) = hooksOf symbolOf first ++ hooksOf symbolOf second :=
  List.filterMap_append

theorem hooksOf_cons {m : Module} {h : LibraryHook} (has : hookOf symbolOf m = some h)
    (rest : List Module) : hooksOf symbolOf (m :: rest) = h :: hooksOf symbolOf rest :=
  List.filterMap_cons_some has

@[simp] theorem hooksText_cons (h : LibraryHook) (rest : List LibraryHook) :
    hooksText inside (h :: rest) = hookLines inside h ++ hooksText inside rest := by
  rw [hooksText, List.map_cons, concat_cons, hooksText]

@[simp] theorem hooksText_append (first second : List LibraryHook) :
    hooksText inside (first ++ second) = hooksText inside first ++ hooksText inside second := by
  rw [hooksText, List.map_append, concat_append, hooksText, hooksText]

theorem argumentText_eq (inside : LibraryConvention) :
    inside.argumentText = handedText inside := by
  cases inside
  all_goals rfl

/-- The call of a hook is written with what is handed to it. -/
theorem hookCall_text (inside : LibraryConvention) (h : LibraryHook) :
    (hookCall inside h).text =
      h.symbol ++ " (" ++ (if h.type = .base then "" else handedText inside) ++ ")" := by
  have names : ((hookCall inside h).arguments.map Argument.text) =
      (inside.ofLibrary h.type).parameters.names := by
    rw [hookCall, callNames, List.map_map]
    exact List.map_id _
  have handed : String.intercalate ", " (inside.ofLibrary h.type).parameters.names =
      if h.type = .base then "" else handedText inside := by
    rw [LibraryConvention.ofLibrary, ← argumentText_eq]
    split
    · rfl
    · rfl
  rw [Call.text, names, handed]
  rfl

theorem hookStep_text (inside : LibraryConvention) (h : LibraryHook) :
    concat ((hookStep inside h).map Statement.text) = hookLines inside h := by
  have call : (Statement.act (.store "Status" (.call (hookCall inside h)))).text =
      "  Status = " ++ ((hookCall inside h).text ++ ";\n") := by
    have store (rest : String) : "  " ++ ("Status = " ++ rest) = "  Status = " ++ rest :=
      (String.append_assoc ..).symm
    simp [Statement.text, Action.text, Value.text, String.append_assoc, store]
  have assertion : (Statement.act (.perform statusAssertion)).text =
      "  ASSERT_EFI_ERROR (Status);\n" := rfl
  have close : ")" ++ (";\n" ++ "  ASSERT_EFI_ERROR (Status);\n") =
      ");\n  ASSERT_EFI_ERROR (Status);\n" := rfl
  have step : hookStep inside h =
      [.act (.store "Status" (.call (hookCall inside h))), .act (.perform statusAssertion)] := rfl
  -- The equation of a definition with a long text takes seconds to derive.
  delta hookLines
  simp only [step, List.map_cons, List.map_nil, concat_cons, concat_nil, call, assertion,
    hookCall_text, String.append_assoc, String.append_empty, close]

theorem hookSteps_text (inside : LibraryConvention) (hooks : List LibraryHook) :
    concat ((hooks.flatMap (hookStep inside)).map Statement.text) = hooksText inside hooks := by
  induction hooks with
  | nil => rfl
  | cons h rest ih =>
      rw [List.flatMap_cons, List.map_append, concat_append, ih, hookStep_text, hooksText_cons]

/-- The head of a dispatcher is written with what it is given. -/
theorem dispatcherHead_text (dispatcher : String) (inside : LibraryConvention) :
    (Signature.mk "VOID" dispatcher inside.parameters).text =
      "VOID\nEFIAPI\n" ++ dispatcher ++ " (\n" ++ parameterLines inside ++ "  )" := by
  have lines : "  " ++ String.intercalate ",\n  " inside.parameters.lines ++ "\n" =
      parameterLines inside := by
    cases inside
    all_goals rfl
  rw [Signature.text, ← lines]
  have front (rest : String) : " (\n" ++ ("  " ++ rest) = " (\n  " ++ rest :=
    (String.append_assoc ..).symm
  have back : "\n" ++ "  )" = "\n  )" := rfl
  have returns (rest : String) : "VOID" ++ ("\nEFIAPI\n" ++ rest) = "VOID\nEFIAPI\n" ++ rest :=
    (String.append_assoc ..).symm
  simp only [String.append_assoc, front, back, returns]

theorem hookBody_text (inside : LibraryConvention) (hooks : List LibraryHook) :
    concat ((hookBody inside hooks).map Statement.text) =
      (if hooks.isEmpty then "" else "  EFI_STATUS  Status;\n\n") ++ hooksText inside hooks := by
  rw [hookBody, List.map_append, concat_append, hookSteps_text]
  split
  · rfl
  · rfl

theorem hookFunction_text (dispatcher : String) (inside : LibraryConvention)
    (hooks : List LibraryHook) :
    (Item.function ⟨"VOID", dispatcher, inside.parameters⟩ (hookBody inside hooks)).text =
      dispatcherOpening dispatcher inside hooks ++ hooksText inside hooks ++ dispatcherClosing := by
  have brace (rest : String) : "  )" ++ ("\n\x7b\n" ++ rest) = "  )\n\x7b\n" ++ rest :=
    (String.append_assoc ..).symm
  delta dispatcherOpening dispatcherClosing
  simp only [Item.text, dispatcherHead_text, hookBody_text, String.append_assoc, brace]

theorem hookBody_calls (inside : LibraryConvention) (hooks : List LibraryHook) :
    (hookBody inside hooks).flatMap Statement.calls =
      hooks.flatMap fun h => [hookCall inside h, statusAssertion] := by
  have steps : (hooks.flatMap (hookStep inside)).flatMap Statement.calls =
      hooks.flatMap fun h => [hookCall inside h, statusAssertion] := by
    rw [List.flatMap_assoc]
    rfl
  rw [hookBody, List.flatMap_append, steps]
  split
  · rfl
  · rfl

end Glue

open Glue

namespace CapabilitySet

/-- What is absorbed adds no hooks. -/
theorem foldl_absorb_hooks (v : View) (instances : List Module) (set : CapabilitySet) :
    (instances.foldl (fun set m => set.absorb (v.scopedTo m)) set).constructors =
        set.constructors ∧
      (instances.foldl (fun set m => set.absorb (v.scopedTo m)) set).destructors =
        set.destructors := by
  induction instances generalizing set with
  | nil => exact ⟨rfl, rfl⟩
  | cons m rest ih => exact ih (set.absorb (v.scopedTo m))

theorem constructors_ofOrder (v : View) (order : LibraryOrder) :
    (ofOrder v order).constructors = hooksOf Module.constructor order.instances :=
  (foldl_absorb_hooks v order.instances _).1

theorem destructors_ofOrder (v : View) (order : LibraryOrder) :
    (ofOrder v order).destructors = hooksOf Module.destructor order.destruction :=
  (foldl_absorb_hooks v order.instances _).2

end CapabilitySet

namespace Source

/-- A source has one dispatcher of a name, which calls some hooks: each of them once and in this
order, followed by the assertion about its status, and nothing else. -/
structure Dispatches (source : Source) (dispatcher : String) (inside : LibraryConvention)
    (hooks : List LibraryHook) : Prop where
  calls : ∃ body, definitionsOf source.items dispatcher =
      [⟨⟨"VOID", dispatcher, inside.parameters⟩, body⟩] ∧
    body.flatMap Statement.calls = hooks.flatMap fun h => [hookCall inside h, statusAssertion]
  text : Within
    (dispatcherOpening dispatcher inside hooks ++ hooksText inside hooks ++ dispatcherClosing)
    source.text

variable {source : Source} {dispatcher : String} {inside : LibraryConvention}
  {symbolOf : Module → Option String} {instances : List Module} {x y : Module}

/-- The text of an item stands in the text of the source. -/
theorem item_within {item : Item} (member : item ∈ source.items) :
    Within item.text source.text :=
  ((Within.concat (List.mem_map_of_mem (f := Item.text) member)).behind _).before _

theorem Dispatches.of_definition {hooks : List LibraryHook}
    (only : definitionsOf source.items dispatcher =
      [⟨⟨"VOID", dispatcher, inside.parameters⟩, hookBody inside hooks⟩]) :
    source.Dispatches dispatcher inside hooks where
  calls := ⟨_, only, hookBody_calls inside hooks⟩
  text := by
    have defined : Item.function ⟨"VOID", dispatcher, inside.parameters⟩ (hookBody inside hooks) ∈
        source.items := by
      apply mem_definitions_iff.1
      apply List.mem_of_mem_filter
      show _ ∈ definitionsOf source.items dispatcher
      rw [only]
      exact List.mem_singleton_self _
    rw [← hookFunction_text]
    exact source.item_within defined

/-- In the dispatcher of the hooks of some instances, the lines that call the hook of one instance
stand before those of another: each has its place in the list of instances, and the text follows
the list. -/
def CallsBefore (source : Source) (dispatcher : String) (inside : LibraryConvention)
    (symbolOf : Module → Option String) (instances : List Module)
    (first second : Module × LibraryHook) : Prop :=
  ∃ xs ys zs, instances = xs ++ first.1 :: (ys ++ second.1 :: zs) ∧
    Within
      (dispatcherOpening dispatcher inside (hooksOf symbolOf instances) ++
        (hooksText inside (hooksOf symbolOf xs) ++ hookLines inside first.2 ++
          hooksText inside (hooksOf symbolOf ys) ++ hookLines inside second.2 ++
          hooksText inside (hooksOf symbolOf zs)) ++ dispatcherClosing)
      source.text

theorem Dispatches.callsBefore {first second : LibraryHook}
    (h : source.Dispatches dispatcher inside (hooksOf symbolOf instances))
    (ordered : Precedes instances x y) (hx : hookOf symbolOf x = some first)
    (hy : hookOf symbolOf y = some second) :
    source.CallsBefore dispatcher inside symbolOf instances (x, first) (y, second) := by
  obtain ⟨xs, ys, zs, split⟩ := ordered.exists_split
  refine ⟨xs, ys, zs, split, ?_⟩
  have hooks : hooksText inside (hooksOf symbolOf instances) =
      hooksText inside (hooksOf symbolOf xs) ++ hookLines inside first ++
        hooksText inside (hooksOf symbolOf ys) ++ hookLines inside second ++
        hooksText inside (hooksOf symbolOf zs) := by
    rw [split, hooksOf_append, hooksOf_cons hx, hooksOf_append, hooksOf_cons hy, hooksText_append,
      hooksText_cons, hooksText_append, hooksText_cons]
    simp only [String.append_assoc]
  rw [← hooks]
  exact h.text

end Source

namespace Rendering

variable {ws : Workspace} {config : Config} {v : View} {fragments : PcdFragments} {r : Rendering}

/-- The dispatchers of library hooks in a rendered source, and no other function of their names. -/
theorem libraryFunctions (rendered : ofView ws config v fragments = .ok r)
    (image : v.isLibrary = false) :
    ∃ order, LibraryOrder.ofView ws v = .ok order ∧
      definitionsOf r.source.items "ProcessLibraryConstructorList" =
        [⟨⟨"VOID", "ProcessLibraryConstructorList", v.type.shape.convention.parameters⟩,
          hookBody v.type.shape.convention (hooksOf Module.constructor order.instances)⟩] ∧
      definitionsOf r.source.items "ProcessLibraryDestructorList" =
        if v.type.shape.convention = .dxe then
          [⟨⟨"VOID", "ProcessLibraryDestructorList", v.type.shape.convention.parameters⟩,
            hookBody v.type.shape.convention (hooksOf Module.destructor order.destruction)⟩]
        else [] := by
  obtain ⟨order, resolution, model, entries, ordered, modelMade, entriesMade, items⟩ :=
    source_eq rendered image
  have only (name : String) (other : name ∉ [entryDispatcher, exitFunction, unloadDispatcher]) :
      definitionsOf r.source.items name =
        definitionsOf (libraryItems v.type.shape (.ofOrder v order)) name := by
    have elsewhere : (definitions entries).filter (fun d => d.head.name = name) = [] := by
      rw [List.filter_eq_nil_iff]
      intro d member same
      rw [decide_eq_true_eq] at same
      exact other (same ▸ definitions_entryItems entriesMade d member)
    simp only [definitionsOf, items, definitions_append,
      (bare_driverModelItems modelMade).definitions, (bare_lifecycleItems _ _).definitions,
      (bare_guidItems _).definitions, List.filter_append, elsewhere]
    simp
  refine ⟨order, ordered, ?_, ?_⟩
  · rw [only _ (by decide), definitionsOf, definitions_libraryItems,
      CapabilitySet.constructors_ofOrder]
    split
    · rfl
    · rfl
  · rw [only _ (by decide), definitionsOf, definitions_libraryItems,
      CapabilitySet.destructors_ofOrder, Shape.hasDestructors]
    by_cases dxe : v.type.shape.convention = .dxe
    · simp [dxe]
    · simp [dxe]

/-- A rendered source calls the constructors of the library instances in the order of construction,
each once and followed by the assertion about its status. It has a dispatcher of destructors
exactly where libraries are called by the DXE convention, and that calls them in the reverse order.
So the lines that call the constructor of an instance stand behind those of all that it depends on,
and the lines that call its destructor before them. -/
theorem libraries_dispatched (rendered : ofView ws config v fragments = .ok r)
    (image : v.isLibrary = false) :
    ∃ order, LibraryOrder.ofView ws v = .ok order ∧
      r.source.Dispatches "ProcessLibraryConstructorList" v.type.shape.convention
        (hooksOf Module.constructor order.instances) ∧
      (definitionsOf r.source.items "ProcessLibraryDestructorList" ≠ [] ↔
        v.type.shape.convention = .dxe) ∧
      (v.type.shape.convention = .dxe →
        r.source.Dispatches "ProcessLibraryDestructorList" .dxe
          (hooksOf Module.destructor order.instances.reverse)) ∧
      ∀ a b, Relation.TransGen (Dependency ws v) a b →
        (∀ ofA ofB, hookOf Module.constructor a = some ofA →
          hookOf Module.constructor b = some ofB →
          r.source.CallsBefore "ProcessLibraryConstructorList" v.type.shape.convention
            Module.constructor order.instances (b, ofB) (a, ofA)) ∧
        (∀ ofA ofB, v.type.shape.convention = .dxe → hookOf Module.destructor a = some ofA →
          hookOf Module.destructor b = some ofB →
          r.source.CallsBefore "ProcessLibraryDestructorList" .dxe
            Module.destructor order.instances.reverse (a, ofA) (b, ofB)) := by
  obtain ⟨order, ordered, constructing, destroying⟩ := libraryFunctions rendered image
  have constructors : r.source.Dispatches "ProcessLibraryConstructorList" v.type.shape.convention
      (hooksOf Module.constructor order.instances) := .of_definition constructing
  have present : definitionsOf r.source.items "ProcessLibraryDestructorList" ≠ [] ↔
      v.type.shape.convention = .dxe := by
    rw [destroying]
    split
    case isTrue dxe => simp [dxe]
    case isFalse other => simp [other]
  have destructors (dxe : v.type.shape.convention = .dxe) :
      r.source.Dispatches "ProcessLibraryDestructorList" .dxe
        (hooksOf Module.destructor order.instances.reverse) := by
    apply Source.Dispatches.of_definition
    rw [destroying, if_pos dxe, dxe]
    rfl
  refine ⟨order, ordered, constructors, present, destructors, ?_⟩
  intro a b depends
  have first := (isConstructionOrder_of_ok ordered).precedes depends
  constructor
  · intro ofA ofB hasA hasB
    exact constructors.callsBefore first hasB hasA
  · intro ofA ofB dxe hasA hasB
    exact (destructors dxe).callsBefore first.reverse hasA hasB

/-- A library instance with both hooks, for small workspaces. -/
def hookedInstance (name : String) (byte : UInt8) (links : List UInt8) : Module :=
  { LibraryOrder.sampleInstance name byte links [] with
    constructor := some (name ++ "Constructor")
    destructor := some (name ++ "Destructor") }

/-- Two instances, the first of which links the second. -/
def hookedPair : Workspace :=
  [hookedInstance "Debug" 1 [2], hookedInstance "Print" 2 []].foldl Workspace.addModule .empty

def hookedDriver : View where
  subject := { LibraryOrder.sampleInstance "Driver" 0 [1] [] with
    type := .dxeDriver
    isLibrary := false }
  arch := .x64

theorem hookedPair_depends : Relation.TransGen (Dependency hookedPair hookedDriver)
    (hookedInstance "Debug" 1 [2]) (hookedInstance "Print" 2 []) := by
  have direct : Reaches hookedPair hookedDriver (hookedInstance "Debug" 1 [2]) :=
    .direct (r := ⟨⟨Vector.replicate 16 1⟩, none⟩) (by decide) rfl
  have linked : Links hookedPair hookedDriver (hookedInstance "Debug" 1 [2])
      (hookedInstance "Print" 2 []) := ⟨⟨⟨Vector.replicate 16 2⟩, none⟩, by decide, rfl⟩
  exact .single ⟨direct, .step direct linked, .inl linked⟩

theorem hookedDriver_dispatched : ∃ r order, ofView hookedPair {} hookedDriver {} = .ok r ∧
    LibraryOrder.ofView hookedPair hookedDriver = .ok order ∧
    order.names = ["Print", "Debug"] ∧
    r.source.Dispatches "ProcessLibraryConstructorList" .dxe
      [⟨"PrintConstructor", .base⟩, ⟨"DebugConstructor", .base⟩] ∧
    r.source.Dispatches "ProcessLibraryDestructorList" .dxe
      [⟨"DebugDestructor", .base⟩, ⟨"PrintDestructor", .base⟩] ∧
    r.source.CallsBefore "ProcessLibraryConstructorList" .dxe Module.constructor order.instances
      (hookedInstance "Print" 2 [], ⟨"PrintConstructor", .base⟩)
      (hookedInstance "Debug" 1 [2], ⟨"DebugConstructor", .base⟩) := by
  obtain ⟨r, rendered⟩ : ∃ r, ofView hookedPair {} hookedDriver {} = .ok r := by
    rw [exists_ok_iff_isSome]
    decide +kernel
  obtain ⟨order, ordered, constructors, _, destructors, calls⟩ :=
    libraries_dispatched rendered rfl
  have known : LibraryOrder.ofView hookedPair hookedDriver =
      .ok ⟨[hookedInstance "Print" 2 [], hookedInstance "Debug" 1 [2]]⟩ := rfl
  cases ordered.symm.trans known
  exact ⟨r, _, rendered, ordered, rfl, constructors, destructors rfl,
    (calls _ _ hookedPair_depends).1 _ _ rfl rfl⟩

end Rendering

end FirmwareGlue
