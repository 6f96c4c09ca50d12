import FirmwareGlue.Proofs.Glue.EntryExecution
import FirmwareGlue.Proofs.Glue.Linkage
import Mathlib.Data.Finset.Card

/-!
# The numbers of entry points and unload handlers

The source of a driver or application tells the loader how many entry points and unload handlers
there are, in two constants that are octets. What is written is the number of distinct symbols, and
these are the ones that the dispatchers call. The program has that number too as long as it fits an
octet. Nothing keeps a module from declaring more, and then only the remainder is left of it.
-/

namespace FirmwareGlue

open Code

namespace Code

/-- The number of bits of an integer type, where the native word has a given number of them. -/
def IntegerType.width (word : Nat) : IntegerType → Nat
  | uint8 => 8
  | uint32 => 32
  | uintn => word

/-- The value that a constant has in the program: of what is written, as much as fits its type. -/
def Constant.read (word : Nat) (c : Constant) : Nat :=
  (BitVec.ofNat (c.type.width word) c.value).toNat

@[simp] def Item.constant? : Item → Option Constant
  | constant c => some c
  | _ => none

def constants (items : List Item) : List Constant :=
  items.filterMap Item.constant?

/-- The constants of one name among some items. -/
def constantsOf (items : List Item) (name : String) : List Constant :=
  (constants items).filter fun c => c.name = name

@[simp] theorem constants_append (first second : List Item) :
    constants (first ++ second) = constants first ++ constants second :=
  List.filterMap_append

@[simp] theorem constants_nil : constants [] = [] := rfl

@[simp] theorem constants_cons (item : Item) (rest : List Item) :
    constants (item :: rest) = item.constant?.toList ++ constants rest := by
  cases h : item.constant? with
  | none => exact List.filterMap_cons_none h
  | some c => exact List.filterMap_cons_some h

theorem constants_eq_nil {items : List Item} (h : ∀ item ∈ items, item.constant? = none) :
    constants items = [] :=
  List.filterMap_eq_nil_iff.2 h

theorem mem_constants {items : List Item} {c : Constant} :
    c ∈ constants items ↔ .constant c ∈ items := by
  rw [constants, List.mem_filterMap]
  constructor
  · rintro ⟨item, member, same⟩
    cases item <;> cases same
    exact member
  · intro member
    exact ⟨_, member, rfl⟩

/-- An octet has the number that is written modulo 256. -/
theorem Constant.read_uint8 {c : Constant} (octet : c.type = .uint8) (word : Nat) :
    c.read word = c.value % 256 := by
  rw [read, octet]
  exact BitVec.toNat_ofNat _ _

/-- The text of an octet. -/
theorem Constant.text_uint8 (name : String) (value : Nat) :
    (Constant.mk true .uint8 2 name value).text =
      "GLOBAL_REMOVE_IF_UNREFERENCED const UINT8  " ++ name ++ " = " ++ toString value
        ++ ";\n" := by
  have front : removableMark ++ "const " ++ "UINT8" ++ "".pushn ' ' 2 =
      "GLOBAL_REMOVE_IF_UNREFERENCED const UINT8  " := rfl
  rw [text, if_pos rfl, IntegerType.spelling, front]

end Code

namespace Glue

/-- The functions of other files that the functions of a name call. -/
def calledBy (items : List Item) (name : String) : List String :=
  (definitionsOf items name).flatMap fun d => (externalCalls d.body).map Call.callee

theorem Preamble.definitionsOf_append {items : List Item} (h : Preamble items) {name : String}
    (known : name ∈ [entryDispatcher, exitFunction, unloadDispatcher]) (more : List Item) :
    definitionsOf (items ++ more) name = definitionsOf more name := by
  have absent : (definitions items).filter (fun d => d.head.name = name) = [] := by
    rw [List.filter_eq_nil_iff]
    intro d member
    rw [decide_eq_true_iff]
    rintro rfl
    exact h.noFunction d member known
  rw [definitionsOf, definitions_append, List.filter_append, absent, List.nil_append, definitionsOf]

@[simp] theorem constants_prototypes (returns : String) (parameters : ParameterList)
    (symbols : List String) : constants (prototypes returns parameters symbols) = [] :=
  constants_eq_nil (forall_prototypes (fun _ => rfl) symbols)

@[simp] theorem constants_eventItems (table : String) (callbacks : List String) :
    constants (eventItems table callbacks) =
      [⟨true, .uintn, 1, table ++ "Count", callbacks.length⟩] := by
  simp [eventItems]

@[simp] theorem constants_guidItems (resolution : Resolution) :
    constants (guidItems resolution) = [] :=
  constants_eq_nil (forall_guidItems (p := (·.constant? = none)) rfl (fun _ _ => rfl) resolution)

@[simp] theorem constants_libraryItems (shape : Shape) (set : CapabilitySet) :
    constants (libraryItems shape set) = [] :=
  constants_eq_nil (forall_libraryItems (fun _ _ => rfl) (fun _ _ => rfl) shape set)

@[simp] theorem constants_driverItems (entries : List String) :
    constants (driverItems entries) =
      [⟨true, .uint8, 2, "_gDriverEntryPointCount", entries.length⟩] := by
  have kept : constants (driverVariables entries) = [] := by
    unfold driverVariables
    split <;> rfl
  have exit : constants (exitItems entries) = [] := by
    unfold exitItems
    split <;> rfl
  simp [driverItems, kept, exit]

@[simp] theorem constants_unloadItems (policy : UnloadPolicy) (handlers : List String) :
    constants (unloadItems policy handlers) =
      [⟨true, .uint8, 2, "_gDriverUnloadImageCount", handlers.length⟩] := by
  simp [unloadItems]

theorem constants_driverModelItems {v : View} {honorPcds : Bool} {items : List Item}
    (h : driverModelItems v honorPcds = .ok items) :
    constants items =
      [⟨true, .uint8, 2, "_gDriverModelProtocolBitmask", bitmask v honorPcds⟩,
        ⟨true, .uintn, 2, "_gDriverModelProtocolListEntries", v.driverModel.bindings.length⟩] := by
  obtain ⟨_, _, made⟩ := bind_ok_iff.1 h
  cases made
  have externs : constants (bindingExterns v honorPcds) = [] :=
    constants_eq_nil (forall_bindingExterns (fun _ _ => rfl) _ _)
  by_cases unbound : v.driverModel.bindings.length = 0
  · simp [externs, unbound]
  · simp [externs, unbound]

end Glue

open Glue

/-- What the source of a driver or application counts. -/
inductive Counted where
  | entryPoints
  | unloadImages
  deriving DecidableEq

namespace Counted

def constantName : Counted → String
  | entryPoints => "_gDriverEntryPointCount"
  | unloadImages => "_gDriverUnloadImageCount"

def dispatcher : Counted → String
  | entryPoints => entryDispatcher
  | unloadImages => unloadDispatcher

/-- What a module declares, in the order of the declarations. -/
def declared (m : Module) : Counted → List String
  | entryPoints => m.entryPoints
  | unloadImages => m.unloadImages

/-- The symbols that a module declares. An empty one counts as none. -/
def distinct (m : Module) (what : Counted) : Finset String :=
  ((what.declared m).filter (· ≠ "")).toFinset

/-- The symbols as they are handed to the dispatcher. -/
def symbols (v : View) : Counted → List String
  | entryPoints => v.entryPoints
  | unloadImages => v.unloadImages

end Counted

theorem View.nodup_symbols (list : List String) : (symbols list).Nodup :=
  FirstSeen.nodup_addAll List.nodup_nil _

theorem View.toFinset_symbols (list : List String) :
    (symbols list).toFinset = (list.filter (· ≠ "")).toFinset := by
  ext symbol
  simp only [List.mem_toFinset, symbols, FirstSeen.mem_ofList]

namespace Counted

variable {v : View} {what : Counted}

theorem toFinset_symbols : (what.symbols v).toFinset = what.distinct v.subject := by
  cases what
  · exact View.toFinset_symbols v.subject.entryPoints
  · exact View.toFinset_symbols v.subject.unloadImages

theorem length_symbols : (what.symbols v).length = (what.distinct v.subject).card := by
  have once : (what.symbols v).Nodup := by
    cases what
    · exact View.nodup_symbols v.subject.entryPoints
    · exact View.nodup_symbols v.subject.unloadImages
  rw [← toFinset_symbols, List.toFinset_card_of_nodup once]

end Counted

namespace Glue

theorem callees_driverBody (entries : List String) :
    (externalCalls (driverBody entries)).map Call.callee = entries := by
  rw [externalCalls_driverBody, List.map_map]
  exact List.map_id _

/-- Under either policy, the handlers are what is called; a handler may stand in two branches. -/
theorem callees_unloadBody (policy : UnloadPolicy) (handlers : List String) :
    ((externalCalls (unloadBody policy handlers)).map Call.callee).toFinset =
      handlers.toFinset := by
  ext symbol
  simp only [List.mem_toFinset]
  match handlers, policy with
  | handlers, .stopOnError =>
      have callees : (externalCalls (unloadBody .stopOnError handlers)).map Call.callee =
          handlers := by
        rw [externalCalls_unloadBody_stopOnError, List.map_map]
        exact List.map_id _
      rw [callees]
  | [], .runAll => rfl
  | first :: rest, .runAll =>
      rw [externalCalls_unloadBody_runAll]
      simp [unloadCall, forward, callNames]

/-- The two dispatchers are the only functions of their names. -/
theorem definitionsOf_driver (entries : List String) (policy : UnloadPolicy)
    (handlers : List String) :
    definitionsOf (driverItems entries ++ unloadItems policy handlers) entryDispatcher =
        [⟨⟨"EFI_STATUS", entryDispatcher, driverParameters⟩, driverBody entries⟩] ∧
      definitionsOf (driverItems entries ++ unloadItems policy handlers) unloadDispatcher =
        [⟨⟨"EFI_STATUS", unloadDispatcher, unloadParameters⟩, unloadBody policy handlers⟩] := by
  rw [definitionsOf, definitionsOf, definitions_append, definitions_driverItems,
    definitions_unloadItems]
  split <;> simp [entryDispatcher, exitFunction, unloadDispatcher]

theorem constants_entryItems {e : EntryPoints}
    (driver : e.type.shape = .driver ∨ e.type.shape = .smmDriver) {items : List Item}
    (made : e.items = .ok items) :
    constants items =
      (if e.type.shape = .driver then [⟨true, .uint32, 1, "_gUefiDriverRevision", 0⟩] else []) ++
        [⟨true, .uint8, 2, "_gDriverEntryPointCount", e.entries.length⟩,
          ⟨true, .uint8, 2, "_gDriverUnloadImageCount", e.unloads.length⟩] := by
  rcases driver with shape | shape
  · rw [EntryPoints.items, shape] at made
    cases made
    simp [shape]
  · rw [EntryPoints.items, shape] at made
    cases made
    simp [shape]

end Glue

/-- A source has the number of some functions in a constant, and these are the functions that the
dispatcher calls. -/
structure Source.HasCount (source : Source) (what : Counted) (functions : Finset String) :
    Prop where
  called : (calledBy source.items what.dispatcher).toFinset = functions
  constant : constantsOf source.items what.constantName =
    [⟨true, .uint8, 2, what.constantName, functions.card⟩]
  text : Within ("GLOBAL_REMOVE_IF_UNREFERENCED const UINT8  " ++ what.constantName ++ " = "
    ++ toString functions.card ++ ";\n") source.text

namespace Rendering

variable {ws : Workspace} {config : Config} {v : View} {fragments : PcdFragments} {r : Rendering}

/-- All constants of a driver's source, in order. -/
theorem constants_source (rendered : ofView ws config v fragments = .ok r)
    (image : v.isLibrary = false) (driver : v.type.shape = .driver ∨ v.type.shape = .smmDriver) :
    ∃ events, (∀ c ∈ events, c.name = "_gDriverSetVirtualAddressMapEventCount" ∨
        c.name = "_gDriverExitBootServicesEventCount") ∧
      constants r.source.items =
        [⟨true, .uint8, 2, "_gDriverModelProtocolBitmask", bitmask v config.honorDriverModelPcds⟩,
          ⟨true, .uintn, 2, "_gDriverModelProtocolListEntries", v.driverModel.bindings.length⟩] ++
        events ++
        (if v.type.shape = .driver then [⟨true, .uint32, 1, "_gUefiDriverRevision", 0⟩] else []) ++
        [⟨true, .uint8, 2, "_gDriverEntryPointCount", v.entryPoints.length⟩,
          ⟨true, .uint8, 2, "_gDriverUnloadImageCount", v.unloadImages.length⟩] := by
  obtain ⟨order, resolution, model, entries, _, modelMade, entriesMade, items⟩ :=
    source_eq rendered image
  refine ⟨constants (lifecycleItems v.type.shape (.ofOrder v order)), ?_, ?_⟩
  · unfold lifecycleItems
    split
    · simp
    · simp
  · have caller : constants [.callerId v.type.shape.callerIdType v.subject.identity.guid, .blank] =
        [] := rfl
    simp only [items, constants_append, constants_driverModelItems modelMade, caller,
      constants_guidItems, constants_libraryItems, constants_entryItems driver entriesMade,
      List.append_assoc]
    rfl

theorem definitionsOf_source (rendered : ofView ws config v fragments = .ok r)
    (image : v.isLibrary = false) (driver : v.type.shape = .driver ∨ v.type.shape = .smmDriver)
    {name : String} (known : name ∈ [entryDispatcher, exitFunction, unloadDispatcher]) :
    definitionsOf r.source.items name =
      definitionsOf (driverItems v.entryPoints ++ unloadItems config.unloadPolicy v.unloadImages)
        name := by
  obtain ⟨start, bare, made⟩ := items_driver (e := entryPointsOf v config) driver
  obtain ⟨before, entries, preamble, entriesMade, items⟩ := source_ends rendered image
  cases made.symm.trans entriesMade
  rw [items, List.append_assoc start, ← List.append_assoc before]
  exact (preamble.append (.of_bare bare)).definitionsOf_append known _

theorem constantsOf_source (rendered : ofView ws config v fragments = .ok r)
    (image : v.isLibrary = false) (driver : v.type.shape = .driver ∨ v.type.shape = .smmDriver)
    (what : Counted) : constantsOf r.source.items what.constantName =
      [⟨true, .uint8, 2, what.constantName, (what.symbols v).length⟩] := by
  obtain ⟨events, named, all⟩ := constants_source rendered image driver
  have noEvent : events.filter (fun c => c.name = what.constantName) = [] := by
    rw [List.filter_eq_nil_iff]
    intro c member
    rcases named c member with name | name
    · rw [name]
      cases what <;> decide
    · rw [name]
      cases what <;> decide
  rw [constantsOf, all, List.filter_append, List.filter_append, List.filter_append, noEvent]
  split
  · cases what <;> rfl
  · cases what <;> rfl

theorem calledBy_source (rendered : ofView ws config v fragments = .ok r)
    (image : v.isLibrary = false) (driver : v.type.shape = .driver ∨ v.type.shape = .smmDriver)
    (what : Counted) :
    (calledBy r.source.items what.dispatcher).toFinset = (what.symbols v).toFinset := by
  rw [calledBy]
  cases what with
  | entryPoints =>
      rw [Counted.dispatcher, definitionsOf_source rendered image driver (by decide),
        (definitionsOf_driver _ _ _).1, List.flatMap_singleton, callees_driverBody]
      rfl
  | unloadImages =>
      rw [Counted.dispatcher, definitionsOf_source rendered image driver (by decide),
        (definitionsOf_driver _ _ _).2, List.flatMap_singleton, callees_unloadBody]
      rfl

theorem hasCount (rendered : ofView ws config v fragments = .ok r)
    (image : v.isLibrary = false) (driver : v.type.shape = .driver ∨ v.type.shape = .smmDriver)
    (what : Counted) : r.source.HasCount what (what.distinct v.subject) := by
  have constant := constantsOf_source rendered image driver what
  rw [Counted.length_symbols] at constant
  have item : Item.constant ⟨true, .uint8, 2, what.constantName,
      (what.distinct v.subject).card⟩ ∈ r.source.items := by
    rw [← mem_constants]
    apply List.mem_of_mem_filter
    show _ ∈ constantsOf r.source.items what.constantName
    rw [constant]
    exact List.mem_singleton_self _
  have written := Source.item_within item
  rw [Item.text, Constant.text_uint8] at written
  exact {
    called := (calledBy_source rendered image driver what).trans Counted.toFinset_symbols
    constant := constant
    text := written }

/-- The number of entry points or unload handlers, as a driver or application has it, is that of the
distinct symbols that the module declares, which are what the dispatcher calls, modulo 256. So it is
exact up to 255. -/
theorem counts_modulo (rendered : ofView ws config v fragments = .ok r)
    (image : v.isLibrary = false) (driver : v.type.shape = .driver ∨ v.type.shape = .smmDriver)
    (what : Counted) (word : Nat) :
    r.source.HasCount what (what.distinct v.subject) ∧
      ∀ c ∈ constantsOf r.source.items what.constantName,
        c.read word = (what.distinct v.subject).card % 256 ∧
        (c.read word = (what.distinct v.subject).card ↔ (what.distinct v.subject).card < 256) := by
  have count := hasCount rendered image driver what
  refine ⟨count, ?_⟩
  rw [count.constant]
  intro c only
  cases List.mem_singleton.1 only
  rw [Constant.read_uint8 rfl]
  exact ⟨rfl, Nat.mod_eq_iff_lt (by decide)⟩

/-- A driver with nothing but entry points and unload handlers. -/
def bareDriver (entries unloads : List String) : View where
  subject := {
    identity := ⟨"Driver", ⟨Vector.replicate 16 0⟩, "1.0"⟩
    type := .dxeDriver
    entryPoints := entries
    unloadImages := unloads }
  arch := .x64

theorem bareDriver_rendered (entries unloads : List String) :
    ∃ r, ofView .empty {} (bareDriver entries unloads) {} = .ok r :=
  ⟨_, rfl⟩

/-- An entry point that is declared twice is called once and counts once. -/
theorem repeated_counted_once :
    ∃ r, ofView .empty {} (bareDriver ["Start", "", "Resume", "Start"] ["Stop"]) {} = .ok r ∧
      r.source.HasCount .entryPoints {"Start", "Resume"} ∧
      ∀ c ∈ constantsOf r.source.items "_gDriverEntryPointCount", c.read 64 = 2 := by
  obtain ⟨r, rendered⟩ := bareDriver_rendered ["Start", "", "Resume", "Start"] ["Stop"]
  have counted := counts_modulo rendered rfl (.inl rfl) .entryPoints 64
  have distinct : Counted.distinct (bareDriver ["Start", "", "Resume", "Start"] ["Stop"]).subject
      .entryPoints = {"Start", "Resume"} := by
    decide
  have two : Finset.card {"Start", "Resume"} = 2 := by decide
  rw [distinct] at counted
  refine ⟨r, rendered, counted.1, fun c member => ?_⟩
  rw [(counted.2 c member).1, two]

/-- As many different names as are asked for, each longer than the one before. -/
def entryNames (count : Nat) : List String :=
  (List.range count).map fun i => "Entry".pushn '_' i

theorem card_entryNames (count : Nat) (unloads : List String) :
    (Counted.distinct (bareDriver (entryNames count) unloads).subject .entryPoints).card =
      count := by
  have length (i : Nat) : ("Entry".pushn '_' i).length = 5 + i := String.length_pushn _ _
  have named : (entryNames count).filter (· ≠ "") = entryNames count := by
    rw [List.filter_eq_self]
    intro name member
    obtain ⟨i, _, rfl⟩ := List.mem_map.1 member
    rw [decide_eq_true_iff]
    intro none
    have long := length i
    rw [none, String.length_empty] at long
    omega
  have once : (entryNames count).Nodup := by
    apply List.Nodup.map _ List.nodup_range
    intro i j same
    have lengths := congrArg String.length same
    rw [length, length] at lengths
    omega
  have all : Counted.distinct (bareDriver (entryNames count) unloads).subject .entryPoints =
      (entryNames count).toFinset := congrArg List.toFinset named
  rw [all, List.toFinset_card_of_nodup once, entryNames, List.length_map, List.length_range]

/-- A driver has 256 entry points, all of which the dispatcher calls, and the number of them is 256
in the text and zero in the program. -/
theorem octet_overflows :
    ∃ r, ofView .empty {} (bareDriver (entryNames 256) []) {} = .ok r ∧
      (calledBy r.source.items entryDispatcher).toFinset.card = 256 ∧
      constantsOf r.source.items "_gDriverEntryPointCount" =
        [⟨true, .uint8, 2, "_gDriverEntryPointCount", 256⟩] ∧
      ∀ word, ∀ c ∈ constantsOf r.source.items "_gDriverEntryPointCount",
        c.read word = 0 := by
  obtain ⟨r, rendered⟩ := bareDriver_rendered (entryNames 256) []
  have count := hasCount rendered rfl (.inl rfl) .entryPoints
  have constant := count.constant
  rw [card_entryNames] at constant
  refine ⟨r, rendered, ?_, constant, ?_⟩
  · rw [show (calledBy r.source.items entryDispatcher).toFinset = _ from count.called,
      card_entryNames]
  · intro word c member
    rw [show constantsOf r.source.items "_gDriverEntryPointCount" = _ from constant] at member
    cases List.mem_singleton.1 member
    exact Constant.read_uint8 rfl word

end Rendering

end FirmwareGlue
