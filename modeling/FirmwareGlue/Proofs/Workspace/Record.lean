import FirmwareGlue.Proofs.Workspace.Demand
import FirmwareGlue.Proofs.Workspace.Insertion

/-!
# What leaves leave behind

The leaves of a package or module are applied one after the other. All together they extend it:
every list is longer by what the leaves of its name say, in order, and a key is written by the last
leaf that is for it. Applying a leaf is to ask what leaves of its name are asked for, and then to
extend by this one leaf; so applying many is to ask each in turn, and to extend by all of them.
-/

namespace FirmwareGlue

namespace Table

variable {κ ν : Type} [DecidableEq κ]

def insertAll (t : Table κ ν) (pairs : List (κ × ν)) : Table κ ν :=
  pairs.foldl (fun t pair => t.insert pair.1 pair.2) t

@[simp] theorem insertAll_nil (t : Table κ ν) : t.insertAll [] = t := rfl

theorem insertAll_append (t : Table κ ν) (first second : List (κ × ν)) :
    t.insertAll (first ++ second) = (t.insertAll first).insertAll second :=
  List.foldl_append

/-- A key has the value of the last pair with it, if there is one. -/
theorem find?_insertAll (t : Table κ ν) (pairs : List (κ × ν)) (key : κ) :
    (t.insertAll pairs).find? key =
      ((pairs.filter fun pair => pair.1 = key).getLast?.map Prod.snd).or (t.find? key) := by
  induction pairs generalizing t with
  | nil => rfl
  | cons pair rest ih =>
      change ((t.insert pair.1 pair.2).insertAll rest).find? key = _
      rw [ih, find?_insert]
      by_cases here : pair.1 = key
      · rw [List.filter_cons_of_pos (by simpa using here), List.getLast?_cons, if_pos here.symm]
        cases (rest.filter fun pair => pair.1 = key).getLast? <;> rfl
      · rw [List.filter_cons_of_neg (by simpa using here), if_neg (Ne.symm here)]

end Table

namespace Workspace

open Markup (Tag)

def named (name : String) (leaves : List Leaf) : List Leaf :=
  leaves.filter fun leaf => leaf.tag.name = name

@[simp] theorem named_nil (name : String) : named name [] = [] := rfl

theorem named_append (name : String) (first second : List Leaf) :
    named name (first ++ second) = named name first ++ named name second :=
  List.filter_append ..

/-- The last of some leaves' texts, or else what was there before. -/
def lastText (before : Option String) (leaves : List Leaf) : Option String :=
  (leaves.getLast?.map Leaf.text).or before

theorem lastText_append (before : Option String) (first second : List Leaf) :
    lastText before (first ++ second) = lastText (lastText before first) second := by
  simp only [lastText, List.getLast?_append]
  cases second.getLast? <;> simp

/-- What leaves of a package are asked for, by name. -/
def packageDemands : String → List Demand
  | "ModuleTypeHeader" => [.moduleType "ModuleType"]
  | "LibraryClass" => [.given "Name", .header]
  | "Ppi" | "Protocol" | "Guid" => [.given "Name", .given "CName", .guid "Guid"]
  | _ => []

/-- What leaves of a module are asked for, by name. -/
def moduleDemands : String → List Demand
  | "Package" => [.guid "PackageGuid", .arches]
  | "LibraryClass" => [.usage, .text, .arches]
  | "LibraryInstance" => [.guid "ModuleGuid", .arches]
  | "Ppi" | "PpiNotify" | "Protocol" | "ProtocolNotify" | "Guid" => [.text, .arches]
  | "EntryPoint" | "UnloadImage" | "Constructor" | "Destructor" | "SetVirtualAddressMapCallBack"
  | "ExitBootServicesCallBack" | "SpecVersion" | "DriverBinding" | "ComponentName"
  | "DriverConfiguration" | "DriverDiagnostics" => [.text]
  | "Pcd" => [.given "Name"]
  | _ => []

def declared (name : String) (leaves : List Leaf) : List (String × Declaration) :=
  (named name leaves).map fun leaf => (textAt leaf.tag "Name", leaf.declaration)

end Workspace

open Workspace

def Package.extend (p : Package) (leaves : List Leaf) : Package where
  identity := p.identity
  typeHeaders := p.typeHeaders.insertAll ((named "ModuleTypeHeader" leaves).map fun leaf =>
    (moduleTypeAt leaf.tag "ModuleType", leaf.text))
  classHeaders := p.classHeaders.insertAll ((named "LibraryClass" leaves).map fun leaf =>
    (textAt leaf.tag "Name", leaf.text))
  ppis := p.ppis.insertAll (declared "Ppi" leaves)
  protocols := p.protocols.insertAll (declared "Protocol" leaves)
  guids := p.guids.insertAll (declared "Guid" leaves)

def Module.extend (m : Module) (leaves : List Leaf) : Module where
  identity := m.identity
  type := m.type
  isLibrary := m.isLibrary
  package := m.package
  packages := m.packages ++ (named "Package" leaves).map
    (Leaf.referenceAt · "PackageGuid" "PackageVersion")
  libraryClasses := m.libraryClasses ++ (named "LibraryClass" leaves).map Leaf.classUse
  libraryInstances := m.libraryInstances ++ (named "LibraryInstance" leaves).map
    (Leaf.referenceAt · "ModuleGuid" "ModuleVersion")
  ppis := m.ppis ++ (named "Ppi" leaves).map Leaf.scopedText
  ppiNotifies := m.ppiNotifies ++ (named "PpiNotify" leaves).map Leaf.scopedText
  protocols := m.protocols ++ (named "Protocol" leaves).map Leaf.scopedText
  protocolNotifies := m.protocolNotifies ++ (named "ProtocolNotify" leaves).map Leaf.scopedText
  guids := m.guids ++ (named "Guid" leaves).map Leaf.scopedText
  entryPoints := m.entryPoints ++ (named "EntryPoint" leaves).map Leaf.text
  unloadImages := m.unloadImages ++ (named "UnloadImage" leaves).map Leaf.text
  constructor := lastText m.constructor (named "Constructor" leaves)
  destructor := lastText m.destructor (named "Destructor" leaves)
  virtualAddressMapCallbacks := m.virtualAddressMapCallbacks ++
    (named "SetVirtualAddressMapCallBack" leaves).map Leaf.text
  exitBootServicesCallbacks := m.exitBootServicesCallbacks ++
    (named "ExitBootServicesCallBack" leaves).map Leaf.text
  driverModel :=
    { bindings := m.driverModel.bindings ++ (named "DriverBinding" leaves).map Leaf.text
      componentNames := m.driverModel.componentNames ++
        (named "ComponentName" leaves).map Leaf.text
      configurations := m.driverModel.configurations ++
        (named "DriverConfiguration" leaves).map Leaf.text
      diagnostics := m.driverModel.diagnostics ++
        (named "DriverDiagnostics" leaves).map Leaf.text }
  specVersions := m.specVersions ++ (named "SpecVersion" leaves).map Leaf.text
  flashMap := m.flashMap
  pcds := m.pcds.insertAll ((named "Pcd" leaves).map fun leaf =>
    (textAt leaf.tag "Name", leaf.text))

@[simp] theorem Package.extend_nil (p : Package) : p.extend [] = p := rfl

@[simp] theorem Module.extend_nil (m : Module) : m.extend [] = m := by
  simp [Module.extend, lastText]

theorem Package.extend_append (p : Package) (first second : List Leaf) :
    p.extend (first ++ second) = (p.extend first).extend second := by
  simp [Package.extend, declared, named_append, Table.insertAll_append]

theorem Module.extend_append (m : Module) (first second : List Leaf) :
    m.extend (first ++ second) = (m.extend first).extend second := by
  simp [Module.extend, named_append, lastText_append, Table.insertAll_append]

namespace Workspace.Leaf

variable {leaf : Leaf}

theorem applyToPackage_eq (leaf : Leaf) (p : Package) : leaf.applyToPackage p =
    leaf.ask (packageDemands leaf.tag.name) >>= fun _ => .ok (p.extend [leaf]) := by
  rw [applyToPackage]
  split
  case h_1 here =>
    simp [here, packageDemands, Package.extend, declared, named, requiredModuleType_eq, Leaf.ask,
      ok_bind, Table.insertAll]
  case h_2 here =>
    simp only [here, packageDemands, required_eq, Leaf.ask, List.forM_cons, List.forM_nil,
      bind_assoc, ok_bind, Demand.check_header]
    by_cases empty : leaf.text = ""
    · simp [empty]
      rfl
    · simp [here, empty, Package.extend, declared, named, Table.insertAll, ok_bind, pure_bind]
  case h_6 =>
    simp_all [packageDemands, Package.extend, declared, named, Leaf.ask, pure_bind]
  all_goals
    next here =>
      simp [here, packageDemands, Package.extend, declared, named, declareIn_eq, Package.declare,
        Table.insertAll]

theorem applyToModule_eq (leaf : Leaf) (m : Module) : leaf.applyToModule m =
    leaf.ask (moduleDemands leaf.tag.name) >>= fun _ => .ok (m.extend [leaf]) := by
  rw [applyToModule]
  split
  case h_17 =>
    rw [applyToDriverModel]
    split
    case h_5 =>
      simp_all [moduleDemands, Module.extend, named, Leaf.ask, ok_bind, pure_bind, lastText]
    all_goals
      next here =>
        simp [here, moduleDemands, Module.extend, named, symbol_eq, Leaf.ask, ok_bind, lastText]
  all_goals
    next here =>
      simp [here, moduleDemands, Module.extend, named, scopedReference_eq, scopedClass_eq,
        scopedSymbol_eq, symbol_eq, required_eq, Leaf.ask, ok_bind, lastText, Table.insertAll]

end Workspace.Leaf

end FirmwareGlue
