import FirmwareGlue.Proofs.Workspace.Section

/-!
# What a document describes

A document with one root and sections below it describes packages and modules: each section the one
that its tag identifies, with what the leaves inside it say. Such a document loads exactly if every
section and every known leaf is valid by itself; the packages and modules are then those of the
document, in its order. Otherwise the first thing that is not valid is reported, where a section is
judged at its tag and a leaf at its end.
-/

namespace FirmwareGlue.Workspace

open Markup (Tag Event Content Element Transcript)

/-- The value of the last leaf for a key. -/
def lastFor {κ ν : Type} [DecidableEq κ] (key : Leaf → κ) (value : Leaf → ν) (leaves : List Leaf)
    (wanted : κ) : Option ν :=
  (leaves.filter fun leaf => key leaf = wanted).getLast?.map value

/-- A section describes a package. -/
structure DescribesPackage (e : Element) (p : Package) : Prop where
  identity : p.identity = identityAt e.tag
  typeHeaders : ∀ type, p.typeHeaders.find? type =
    lastFor (fun leaf => moduleTypeAt leaf.tag "ModuleType") Leaf.text
      (named "ModuleTypeHeader" (leavesOf e)) type
  classHeaders : ∀ name, p.classHeaders.find? name =
    lastFor (fun leaf => textAt leaf.tag "Name") Leaf.text (named "LibraryClass" (leavesOf e)) name
  ppis : ∀ keyword, p.ppis.find? keyword =
    lastFor (fun leaf => textAt leaf.tag "Name") Leaf.declaration (named "Ppi" (leavesOf e)) keyword
  protocols : ∀ keyword, p.protocols.find? keyword =
    lastFor (fun leaf => textAt leaf.tag "Name") Leaf.declaration (named "Protocol" (leavesOf e))
      keyword
  guids : ∀ keyword, p.guids.find? keyword =
    lastFor (fun leaf => textAt leaf.tag "Name") Leaf.declaration (named "Guid" (leavesOf e))
      keyword

/-- A section describes a module. -/
structure DescribesModule (e : Element) (m : Module) : Prop where
  identity : m.identity = identityAt e.tag
  type : m.type = moduleTypeAt e.tag "ModuleType"
  isLibrary : m.isLibrary = flagAt e.tag "Library"
  flashMap : m.flashMap = flagAt e.tag "FlashMap"
  package : m.package = (e.tag.get? "Package").bind guidIn?
  packages : m.packages =
    (named "Package" (leavesOf e)).map (Leaf.referenceAt · "PackageGuid" "PackageVersion")
  libraryClasses : m.libraryClasses = (named "LibraryClass" (leavesOf e)).map Leaf.classUse
  libraryInstances : m.libraryInstances =
    (named "LibraryInstance" (leavesOf e)).map (Leaf.referenceAt · "ModuleGuid" "ModuleVersion")
  ppis : m.ppis = (named "Ppi" (leavesOf e)).map Leaf.scopedText
  ppiNotifies : m.ppiNotifies = (named "PpiNotify" (leavesOf e)).map Leaf.scopedText
  protocols : m.protocols = (named "Protocol" (leavesOf e)).map Leaf.scopedText
  protocolNotifies : m.protocolNotifies =
    (named "ProtocolNotify" (leavesOf e)).map Leaf.scopedText
  guids : m.guids = (named "Guid" (leavesOf e)).map Leaf.scopedText
  entryPoints : m.entryPoints = (named "EntryPoint" (leavesOf e)).map Leaf.text
  unloadImages : m.unloadImages = (named "UnloadImage" (leavesOf e)).map Leaf.text
  constructor : m.constructor = (named "Constructor" (leavesOf e)).getLast?.map Leaf.text
  destructor : m.destructor = (named "Destructor" (leavesOf e)).getLast?.map Leaf.text
  virtualAddressMapCallbacks : m.virtualAddressMapCallbacks =
    (named "SetVirtualAddressMapCallBack" (leavesOf e)).map Leaf.text
  exitBootServicesCallbacks : m.exitBootServicesCallbacks =
    (named "ExitBootServicesCallBack" (leavesOf e)).map Leaf.text
  bindings : m.driverModel.bindings = (named "DriverBinding" (leavesOf e)).map Leaf.text
  componentNames : m.driverModel.componentNames =
    (named "ComponentName" (leavesOf e)).map Leaf.text
  configurations : m.driverModel.configurations =
    (named "DriverConfiguration" (leavesOf e)).map Leaf.text
  diagnostics : m.driverModel.diagnostics = (named "DriverDiagnostics" (leavesOf e)).map Leaf.text
  specVersions : m.specVersions = (named "SpecVersion" (leavesOf e)).map Leaf.text
  pcds : ∀ name, m.pcds.find? name =
    lastFor (fun leaf => textAt leaf.tag "Name") Leaf.text (named "Pcd" (leavesOf e)) name

/-- The tag of a section is valid by itself, and so is every known leaf inside. -/
structure ValidSection (parent : Parent) (e : Element) : Prop where
  tag : ∀ demand ∈ parent.demands, demand.Met ⟨e.tag, ""⟩
  leaves : ∀ leaf ∈ e.inside.elements, leaf.tag.name ∈ parent.leafNames →
    ∀ demand ∈ parent.leafDemands leaf.tag.name, demand.Met (leafOf leaf)

/-- Every reference in the text of the leaves of a section can be read. -/
def ReadableSection (e : Element) : Prop :=
  ∀ leaf ∈ e.inside.elements, ∃ text, leaf.inside.reading = .ok text

variable {e root : Element} {document : String}

theorem find?_empty_insertAll {κ ν : Type} [DecidableEq κ] (key : Leaf → κ) (value : Leaf → ν)
    (leaves : List Leaf) (wanted : κ) :
    (Table.empty.insertAll (leaves.map fun leaf => (key leaf, value leaf))).find? wanted =
      lastFor key value leaves wanted := by
  rw [Table.find?_insertAll, List.filter_map, List.getLast?_map, Option.map_map,
    Table.find?_empty, Option.or_none]
  rfl

def describedPackage (e : Element) : Package :=
  (packageAt e.tag).extend (leavesOf e)

def describedModule (e : Element) : Module :=
  (moduleAt e.tag).extend (leavesOf e)

theorem describesPackage (e : Element) : DescribesPackage e (describedPackage e) where
  identity := rfl
  typeHeaders := find?_empty_insertAll _ _ _
  classHeaders := find?_empty_insertAll _ _ _
  ppis := find?_empty_insertAll _ _ _
  protocols := find?_empty_insertAll _ _ _
  guids := find?_empty_insertAll _ _ _

theorem describesModule (e : Element) : DescribesModule e (describedModule e) where
  identity := rfl
  type := rfl
  isLibrary := rfl
  flashMap := rfl
  package := rfl
  packages := rfl
  libraryClasses := rfl
  libraryInstances := rfl
  ppis := rfl
  ppiNotifies := rfl
  protocols := rfl
  protocolNotifies := rfl
  guids := rfl
  entryPoints := rfl
  unloadImages := rfl
  constructor := Option.or_none
  destructor := Option.or_none
  virtualAddressMapCallbacks := rfl
  exitBootServicesCallbacks := rfl
  bindings := rfl
  componentNames := rfl
  configurations := rfl
  diagnostics := rfl
  specVersions := rfl
  pcds := find?_empty_insertAll _ _ _

def elementsNamed (name : String) (elements : List Element) : List Element :=
  elements.filter fun e => e.tag.name = name

/-! ### What is registered -/

theorem scopeOf_package (here : e.tag.name = "Package") :
    scopeOf e = .package (describedPackage e) := by
  rw [scopeOf, here]
  rfl

theorem scopeOf_module (here : e.tag.name = "Module") :
    scopeOf e = .module (describedModule e) := by
  rw [scopeOf, here]
  rfl

theorem scopeOf_other (package : e.tag.name ≠ "Package") (module : e.tag.name ≠ "Module") :
    scopeOf e = .outside := by
  rw [scopeOf]
  simp only [Parent.ofName?]

theorem registered_packages (elements : List Element) (ws : Workspace) :
    ((elements.map scopeOf).foldl register ws).packages.toList =
      ws.packages.toList ++ (elementsNamed "Package" elements).map describedPackage := by
  induction elements generalizing ws with
  | nil => simp [elementsNamed]
  | cons e rest ih =>
      rw [List.map_cons, List.foldl_cons, ih]
      by_cases package : e.tag.name = "Package"
      · simp [scopeOf_package package, register, addPackage, elementsNamed, package]
      · by_cases module : e.tag.name = "Module"
        · simp [scopeOf_module module, register, addModule, elementsNamed, package]
        · simp [scopeOf_other package module, register, elementsNamed, package]

theorem registered_modules (elements : List Element) (ws : Workspace) :
    ((elements.map scopeOf).foldl register ws).modules.toList =
      ws.modules.toList ++ (elementsNamed "Module" elements).map describedModule := by
  induction elements generalizing ws with
  | nil => simp [elementsNamed]
  | cons e rest ih =>
      rw [List.map_cons, List.foldl_cons, ih]
      by_cases module : e.tag.name = "Module"
      · simp [scopeOf_module module, register, addModule, elementsNamed, module]
      · by_cases package : e.tag.name = "Package"
        · simp [scopeOf_package package, register, addPackage, elementsNamed, module]
        · simp [scopeOf_other package module, register, elementsNamed, module]

/-! ### What is checked -/

theorem leafDemands_of_unknown {parent : Parent} {name : String}
    (unknown : name ∉ parent.leafNames) : parent.leafDemands name = [] := by
  cases parent with
  | package =>
      simp only [Parent.leafNames, List.mem_cons, not_or] at unknown
      simp [Parent.leafDemands, packageDemands, unknown]
  | module =>
      simp only [Parent.leafNames, List.mem_cons, not_or] at unknown
      simp [Parent.leafDemands, moduleDemands, unknown]

theorem Station.check_start_ok_iff {parent : Parent} {tag : Tag} :
    (Station.start parent tag).check = .ok () ↔
      ∀ demand ∈ parent.demands, demand.Met ⟨tag, ""⟩ :=
  Leaf.ask_ok_iff

theorem Station.check_leaf_ok_iff {parent : Parent} :
    (Station.leaf parent e).check = .ok () ↔ (∃ text, e.inside.reading = .ok text) ∧
      ∀ demand ∈ parent.leafDemands e.tag.name, demand.Met (leafOf e) := by
  rw [Station.check, leafOf]
  cases e.inside.reading with
  | error fault => simp [Except.mapError, bind, Except.bind]
  | ok text => simp [Except.mapError, ok_bind, Leaf.ask_ok_iff]

/-- The stations of a section have no error exactly if the section is valid and readable. -/
theorem stations_ok_iff {parent : Parent} (known : Parent.ofName? e.tag.name = some parent) :
    (∀ station ∈ Station.ofElement e, station.check = .ok ()) ↔
      ReadableSection e ∧ ValidSection parent e := by
  simp only [Station.ofElement, known, List.forall_mem_cons, List.forall_mem_map,
    Station.check_start_ok_iff, Station.check_leaf_ok_iff]
  constructor
  · rintro ⟨tag, leaves⟩
    exact ⟨fun leaf member => (leaves leaf member).1, tag,
      fun leaf member _ => (leaves leaf member).2⟩
  · rintro ⟨readable, valid⟩
    refine ⟨valid.tag, fun leaf member => ⟨readable leaf member, ?_⟩⟩
    by_cases known : leaf.tag.name ∈ parent.leafNames
    · exact valid.leaves leaf member known
    · simp [leafDemands_of_unknown known]

theorem sections_ok_iff {elements : List Element}
    (sections : ∀ e ∈ elements, e.tag.name = "Package" ∨ e.tag.name = "Module") :
    (∀ station ∈ elements.flatMap Station.ofElement, station.check = .ok ()) ↔
      (∀ e ∈ elements, ReadableSection e) ∧
      (∀ e ∈ elementsNamed "Package" elements, ValidSection .package e) ∧
      ∀ e ∈ elementsNamed "Module" elements, ValidSection .module e := by
  have package {e : Element} (here : e.tag.name = "Package") :
      (∀ station ∈ Station.ofElement e, station.check = .ok ()) ↔
        ReadableSection e ∧ ValidSection .package e :=
    stations_ok_iff (by rw [here]; rfl)
  have module {e : Element} (here : e.tag.name = "Module") :
      (∀ station ∈ Station.ofElement e, station.check = .ok ()) ↔
        ReadableSection e ∧ ValidSection .module e :=
    stations_ok_iff (by rw [here]; rfl)
  simp only [List.mem_flatMap, forall_exists_index, and_imp, elementsNamed, List.mem_filter,
    decide_eq_true_eq]
  constructor
  · intro fine
    have readable (e : Element) (member : e ∈ elements) : ReadableSection e := by
      rcases sections e member with here | here
      · exact ((package here).1 fun station => fine station e member).1
      · exact ((module here).1 fun station => fine station e member).1
    exact ⟨readable, fun e member here => ((package here).1 fun station => fine station e member).2,
      fun e member here => ((module here).1 fun station => fine station e member).2⟩
  · rintro ⟨readable, packages, modules⟩ station e member
    rcases sections e member with here | here
    · exact (package here).2 ⟨readable e member, packages e member here⟩ station
    · exact (module here).2 ⟨readable e member, modules e member here⟩ station

/-- A document with one root loads by checking all sections and then registering them. -/
theorem ofDocument_eq (reads : Transcript.ofText document = ⟨root.events, none⟩)
    (named : root.tag.name = "Workspace")
    (apart : ∀ e ∈ root.inside.elements, e.inside.LeavesApart) :
    ofDocument document =
      forM (root.inside.elements.flatMap Station.ofElement) Station.check >>= fun _ =>
        .ok ((root.inside.elements.map scopeOf).foldl register .empty) := by
  rw [ofDocument, reads, ofTranscript_of_no_fault, ofEvents,
    Loading.root_eq named fun e member _ => apart e member, bind_assoc]
  rfl

/-- A document with one root and sections below it loads exactly if every section and every known
leaf is valid by itself and every text can be read. What is loaded then is what the sections
describe, in order. What is reported otherwise is the error of the first section, at its tag, or
leaf, at its end, that has one. -/
theorem ofDocument_describes (reads : Transcript.ofText document = ⟨root.events, none⟩)
    (named : root.tag.name = "Workspace")
    (sections : ∀ e ∈ root.inside.elements, e.tag.name = "Package" ∨ e.tag.name = "Module")
    (apart : ∀ e ∈ root.inside.elements, e.inside.LeavesApart) :
    ((∃ ws, ofDocument document = .ok ws) ↔
      (∀ e ∈ root.inside.elements, ReadableSection e) ∧
      (∀ e ∈ elementsNamed "Package" root.inside.elements, ValidSection .package e) ∧
      ∀ e ∈ elementsNamed "Module" root.inside.elements, ValidSection .module e) ∧
    (∀ ws, ofDocument document = .ok ws →
      List.Forall₂ DescribesPackage (elementsNamed "Package" root.inside.elements)
        ws.packages.toList ∧
      List.Forall₂ DescribesModule (elementsNamed "Module" root.inside.elements)
        ws.modules.toList) ∧
    ∀ error, ofDocument document = .error error ↔
      FirstError Station.check (root.inside.elements.flatMap Station.ofElement) error := by
  rw [ofDocument_eq reads named apart]
  refine ⟨?_, ?_, ?_⟩
  · rw [← sections_ok_iff sections, ← forM_ok_iff]
    constructor
    · rintro ⟨ws, loads⟩
      exact (bind_ok_iff.1 loads).choose_spec.1
    · intro fine
      exact ⟨_, bind_ok_iff.2 ⟨(), fine, rfl⟩⟩
  · intro ws loads
    obtain ⟨_, _, made⟩ := bind_ok_iff.1 loads
    cases made
    rw [registered_packages, registered_modules]
    simp only [Workspace.empty, Catalog.toList_empty, List.nil_append,
      List.forall₂_map_right_iff, List.forall₂_same]
    exact ⟨fun e _ => describesPackage e, fun e _ => describesModule e⟩
  · intro error
    simp only [bind_error_iff, forM_error_iff]
    simp

/-- A module with an element that is not known and an entry point. -/
def entryPointSection : Element :=
  .full (sampleTag .module)
    (.empty ⟨"Extra", []⟩ (.element ⟨"EntryPoint", []⟩ (.text "Start" .nil) .nil))

theorem entry_point_loads : ∃ ws, ofDocument (entryPointDocument "<Extra/>") = .ok ws ∧
    List.Forall₂ DescribesPackage [] ws.packages.toList ∧
    List.Forall₂ DescribesModule [entryPointSection] ws.modules.toList := by
  let root : Element := .full ⟨"Workspace", []⟩
    (.element (sampleTag .module) entryPointSection.inside .nil)
  have reads : Transcript.ofText (entryPointDocument "<Extra/>") = ⟨root.events, none⟩ := by
    decide +kernel
  have only : root.inside.elements = [entryPointSection] := rfl
  have spec := ofDocument_describes reads rfl
    (by rw [only, List.forall_mem_singleton]; exact .inr rfl)
    (by rw [only, List.forall_mem_singleton]; exact ⟨by decide, trivial⟩)
  have packages : elementsNamed "Package" [entryPointSection] = [] := rfl
  have modules : elementsNamed "Module" [entryPointSection] = [entryPointSection] := rfl
  have fine : forM (Station.ofElement entryPointSection) Station.check = .ok () := by
    decide +kernel
  obtain ⟨readable, valid⟩ := (stations_ok_iff rfl).1 (forM_ok_iff.1 fine)
  rw [only, packages, modules] at spec
  obtain ⟨ws, loads⟩ := spec.1.2 ⟨by simpa using readable, by simp, by simpa using valid⟩
  exact ⟨ws, loads, spec.2.1 ws loads⟩

/-- A module with an element that is not known, the text of which names no character. -/
def unreadableSection : Element :=
  .full (sampleTag .module)
    (.element ⟨"Unknown", []⟩ (.text "&bogus;" .nil)
      (.element ⟨"EntryPoint", []⟩ (.text "Start" .nil) .nil))

/-- The root with this module only. -/
def unreadableRoot : Element :=
  .full ⟨"Workspace", []⟩ (.element (sampleTag .module) unreadableSection.inside .nil)

theorem unreadableSection_valid : ValidSection .module unreadableSection where
  tag := by
    have fine : (Station.start .module (sampleTag .module)).check = .ok () := by decide +kernel
    exact Station.check_start_ok_iff.1 fine
  leaves := by
    let entry : Element := .full ⟨"EntryPoint", []⟩ (.text "Start" .nil)
    have fine : (Station.leaf .module entry).check = .ok () := by decide +kernel
    have leaves : unreadableSection.inside.elements =
        [.full ⟨"Unknown", []⟩ (.text "&bogus;" .nil), entry] := rfl
    intro leaf member known
    rw [leaves] at member
    rcases List.mem_pair.1 member with rfl | rfl
    · exact absurd known (by decide)
    · exact (Station.check_leaf_ok_iff.1 fine).2

/-- All sections and known leaves of a document may be valid by themselves, and yet it is refused for
the text of an element that is not known. -/
theorem unreadable_unknown_refused :
    Transcript.ofText (entryPointDocument "<Unknown>&bogus;</Unknown>") =
        ⟨unreadableRoot.events, none⟩ ∧
      unreadableRoot.tag.name = "Workspace" ∧
      unreadableRoot.inside.elements = [unreadableSection] ∧
      unreadableSection.tag.name = "Module" ∧
      unreadableSection.inside.LeavesApart ∧
      ValidSection .module unreadableSection ∧
      ofDocument (entryPointDocument "<Unknown>&bogus;</Unknown>") =
        .error (.markup (.unknownEntity 1 "bogus")) := by
  have reads : Transcript.ofText (entryPointDocument "<Unknown>&bogus;</Unknown>") =
      ⟨unreadableRoot.events, none⟩ := by
    decide +kernel
  have apart : unreadableSection.inside.LeavesApart := ⟨by decide, by decide, trivial⟩
  have refused : forM (Station.ofElement unreadableSection) Station.check =
      .error (.markup (.unknownEntity 1 "bogus")) := by
    decide +kernel
  refine ⟨reads, rfl, rfl, rfl, apart, unreadableSection_valid, ?_⟩
  have only : unreadableRoot.inside.elements = [unreadableSection] := rfl
  rw [ofDocument_eq reads rfl (by rw [only, List.forall_mem_singleton]; exact apart), only,
    List.flatMap_singleton, refused]
  rfl

end FirmwareGlue.Workspace
