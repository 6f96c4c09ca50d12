import FirmwareGlue.Proofs.FirstPlaces
import FirmwareGlue.Proofs.Glue.Header

/-!
# What a header includes

The includes of a header come from three places: the headers that the module's own packages have for
its type, those of the library classes it consumes, and those of the classes it produces. They are
described here without the searches that find them, and each file stands where it is met first. An
empty path is no header of a package for a type; for a library class it is one like any other.

Only the packages that the module itself lists are asked. They are all registered once the headers
for its type have been found, so that a search for a library class cannot run into a missing one.
-/

namespace FirmwareGlue

namespace Workspace

variable {α : Type} {ws other : Workspace} {packages : List Reference}

/-- A search asks no package but those it goes through. -/
theorem search_congr {answer : Package → Option α}
    (same : ∀ r ∈ packages, other.package? r = ws.package? r) :
    other.search answer packages = ws.search answer packages := by
  induction packages with
  | nil => rfl
  | cons r rest ih =>
      rw [List.forall_mem_cons] at same
      rw [search, search, requirePackage, requirePackage, same.1, ih same.2]

theorem packageHeader_ok_iff {r : Reference} {type : ModuleType} {header : Option String} :
    ws.packageHeader r type = .ok header ↔
      ∃ p, ws.package? r = some p ∧ header = (p.typeHeaders.find? type).filter (· ≠ "") := by
  simp only [packageHeader, bind_ok_iff, requirePackage_ok_iff, Except.ok.injEq,
    @eq_comm _ header]

end Workspace

namespace Glue

variable {ws other : Workspace} {v v' : View} {files : List String}

/-- The header that a package has for modules of the module's type, if it has one. -/
def typeHeader? (ws : Workspace) (v : View) (r : Reference) : Option String :=
  (ws.package? r).bind fun p => (p.typeHeaders.find? v.type).filter (· ≠ "")

/-- The headers of the library classes that a module uses in one way: for each class the one of the
first listed package that declares it. -/
def ClassHeaders (ws : Workspace) (v : View) (usage : ClassUsage) (headers : List String) : Prop :=
  List.Forall₂
    (fun name header => ws.FirstAnswer (fun p => p.classHeaders.find? name) v.packages header)
    (v.libraryClasses usage) headers

/-- The files that a module includes, said without a search. -/
def HasIncludes (ws : Workspace) (v : View) (files : List String) : Prop :=
  ∃ consumed produced, ClassHeaders ws v .consumed consumed ∧ ClassHeaders ws v .produced produced ∧
    files = FirstSeen.firstsBy id (v.packages.filterMap (typeHeader? ws v) ++ consumed ++ produced)

/-- The headers for the module's type are found exactly if all listed packages are registered. -/
theorem mapM_packageHeader_ok_iff {headers : List (Option String)} :
    v.packages.mapM (fun r => ws.packageHeader r v.type) = .ok headers ↔
      (∀ r ∈ v.packages, ws.Registered r) ∧ headers = v.packages.map (typeHeader? ws v) := by
  have each (r : Reference) (header : Option String) :
      ws.packageHeader r v.type = .ok header ↔
        ws.Registered r ∧ typeHeader? ws v r = header := by
    rw [Workspace.packageHeader_ok_iff, Workspace.Registered, typeHeader?]
    cases ws.package? r with
    | none => simp
    | some p => simp [eq_comm]
  simp only [mapM_ok_iff, each, List.forall₂_and_left]
  rw [← List.forall₂_map_left_iff (R := Eq), List.forall₂_eq_eq_eq, @eq_comm _ headers]

theorem mapM_requireClassHeader_ok_iff {usage : ClassUsage} {headers : List String} :
    (v.libraryClasses usage).mapM (requireClassHeader ws v.packages) = .ok headers ↔
      ClassHeaders ws v usage headers := by
  simp only [mapM_ok_iff, requireClassHeader_eq, Workspace.searchOr_ok_iff, ClassHeaders]

/-- The includes are found exactly if the listed packages are registered and every class has a
header, and they are the described ones. -/
theorem includes_ok_iff : includes ws v = .ok files ↔
    (∀ r ∈ v.packages, ws.Registered r) ∧ HasIncludes ws v files := by
  simp only [includes, bind_ok_iff, mapM_packageHeader_ok_iff, List.mapM_append,
    mapM_requireClassHeader_ok_iff, FirstSeen.ofList_eq_firstsBy, HasIncludes]
  constructor
  · rintro ⟨_, ⟨registered, rfl⟩, _, ⟨consumed, uses, produced, provides, same⟩, result⟩
    cases same
    cases result
    refine ⟨registered, consumed, produced, uses, provides, ?_⟩
    rw [List.filterMap_map, List.append_assoc]
    rfl
  · rintro ⟨registered, consumed, produced, uses, provides, rfl⟩
    refine ⟨_, ⟨registered, rfl⟩, consumed ++ produced,
      ⟨consumed, uses, produced, provides, rfl⟩, ?_⟩
    rw [List.filterMap_map, List.append_assoc]
    rfl

/-- Where the headers for the module's type have been found, a search for a library class ends
without an error. -/
theorem exists_libraryClassHeader {headers : List (Option String)}
    (found : v.packages.mapM (fun r => ws.packageHeader r v.type) = .ok headers) (name : String) :
    ∃ header, ws.libraryClassHeader name v.packages = .ok header := by
  have registered := (mapM_packageHeader_ok_iff.1 found).1
  rw [Workspace.libraryClassHeader, exists_ok_iff]
  intro e failed
  have missing := Workspace.search_spec ws (fun p => p.classHeaders.find? name) v.packages
  rw [failed] at missing
  exact missing.not_registered registered

/-- Modules of one type that list the same packages and use the same library classes have the same
includes, in all workspaces that know these packages alike. -/
theorem includes_congr (type : v'.type = v.type) (packages : v'.packages = v.packages)
    (classes : v'.libraryClasses = v.libraryClasses)
    (known : ∀ r ∈ v.packages, other.package? r = ws.package? r) :
    includes other v' = includes ws v := by
  have headers : v.packages.mapM (fun r => other.packageHeader r v.type) =
      v.packages.mapM fun r => ws.packageHeader r v.type := by
    apply mapM_congr
    intro r listed
    rw [Workspace.packageHeader, Workspace.packageHeader, Workspace.requirePackage,
      Workspace.requirePackage, known r listed]
  have search : requireClassHeader other v.packages = requireClassHeader ws v.packages := by
    funext name
    rw [requireClassHeader, requireClassHeader, Workspace.libraryClassHeader,
      Workspace.libraryClassHeader, Workspace.search_congr known]
  simp only [includes, type, packages, classes, headers, search]

/-- What the includes of a module are, and what they depend on. -/
structure IncludesMeaning (ws : Workspace) (v : View) : Prop where
  /-- There are includes exactly if the listed packages are registered and every library class has
  a header in one of them. -/
  found : (∃ files, includes ws v = .ok files) ↔ (∀ r ∈ v.packages, ws.Registered r) ∧
    ∀ usage, ∀ name ∈ v.libraryClasses usage, HasHeader ws v name
  /-- The files are the described ones. -/
  files : ∀ files, includes ws v = .ok files → HasIncludes ws v files
  /-- The error is that of the first package that is not registered or, where all are, that of the
  first library class without a header. -/
  failed : ∀ e, includes ws v = .error e → UnregisteredPackage ws v e ∨
    (∀ r ∈ v.packages, ws.Registered r) ∧ UndeclaredClass ws v e
  /-- Once the headers for the module's type have been found, no package is missing any more. -/
  search : ∀ headers, v.packages.mapM (fun r => ws.packageHeader r v.type) = .ok headers →
    ∀ name e, ws.libraryClassHeader name v.packages ≠ .error e
  /-- Nothing is asked but the listed packages: neither other ones nor any module. -/
  asked : ∀ other v', v'.type = v.type → v'.packages = v.packages →
    v'.libraryClasses = v.libraryClasses →
    (∀ r ∈ v.packages, other.package? r = ws.package? r) → includes other v' = includes ws v

/-- The includes of a module are the headers of its own packages and of its library classes, each
at its first place, and they depend on the packages that it lists and on nothing else. -/
theorem includes_described (ws : Workspace) (v : View) : IncludesMeaning ws v where
  found := by
    rw [exists_includes_iff]
    apply and_congr_right
    intro _
    simp only [classNames, List.forall_mem_append]
    constructor
    · rintro ⟨consumed, produced⟩ usage
      cases usage with
      | consumed => exact consumed
      | produced => exact produced
    · intro all
      exact ⟨all .consumed, all .produced⟩
  files := fun _ made => (includes_ok_iff.1 made).2
  failed := fun _ => includes_error
  search := by
    intro headers found name
    exact exists_ok_iff.1 (exists_libraryClassHeader found name)
  asked := fun _ _ => includes_congr

end Glue

end FirmwareGlue
