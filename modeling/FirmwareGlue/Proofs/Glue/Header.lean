import FirmwareGlue.Glue.Header
import FirmwareGlue.Proofs.Workspace.Search

/-!
# When a header is made

A header needs two things: that the module's own packages are registered, and that each library
class it consumes or produces has a header in one of them. The packages are checked first, so a
library class is only ever missing from packages that exist.
-/

namespace FirmwareGlue

variable {ws : Workspace} {v : View} {e : Error}

namespace Glue

variable {name : String} {files : List String}

/-- The library classes that need a header, in order. -/
def classNames (v : View) : List String :=
  v.libraryClasses .consumed ++ v.libraryClasses .produced

/-- One of a module's own packages has a header for a library class. -/
def HasHeader (ws : Workspace) (v : View) (name : String) : Prop :=
  ∃ r ∈ v.packages, ∃ header, ws.Answers (fun p => p.classHeaders.find? name) r header

theorem exists_packageHeader_iff {r : Reference} {type : ModuleType} :
    (∃ header, ws.packageHeader r type = .ok header) ↔ ws.Registered r := by
  simp only [Workspace.packageHeader, bind_ok_iff, Workspace.requirePackage_ok_iff]
  constructor
  · rintro ⟨_, p, found, _⟩
    exact ⟨p, found⟩
  · rintro ⟨p, found⟩
    exact ⟨_, p, found, rfl⟩

theorem packageHeader_error {r : Reference} {type : ModuleType}
    (h : ws.packageHeader r type = .error e) : ws.package? r = none ∧ e = .packageNotFound r := by
  rw [Workspace.packageHeader, bind_error_iff, Workspace.requirePackage_error_iff] at h
  rcases h with missing | ⟨_, _, h⟩
  · exact missing
  · cases h

theorem requireClassHeader_eq (ws : Workspace) (packages : List Reference) (name : String) :
    requireClassHeader ws packages name =
      ws.searchOr (fun p => p.classHeaders.find? name) packages (.libraryClassNotFound name) :=
  Workspace.search_bind_eq (fun _ => rfl) rfl

theorem exists_requireClassHeader_iff (registered : ∀ r ∈ v.packages, ws.Registered r) :
    (∃ header, requireClassHeader ws v.packages name = .ok header) ↔ HasHeader ws v name := by
  rw [requireClassHeader_eq, Workspace.exists_searchOr_iff,
    Workspace.exists_firstAnswer_iff registered, HasHeader]

theorem exists_includes_iff : (∃ files, includes ws v = .ok files) ↔
    (∀ r ∈ v.packages, ws.Registered r) ∧ ∀ name ∈ classNames v, HasHeader ws v name := by
  have types : (∃ headers, v.packages.mapM (fun r => ws.packageHeader r v.type) = .ok headers) ↔
      ∀ r ∈ v.packages, ws.Registered r := by
    simp only [exists_mapM_ok_iff, exists_packageHeader_iff]
  have classes (registered : ∀ r ∈ v.packages, ws.Registered r) :
      (∃ headers, (classNames v).mapM (requireClassHeader ws v.packages) = .ok headers) ↔
        ∀ name ∈ classNames v, HasHeader ws v name := by
    simp only [exists_mapM_ok_iff, exists_requireClassHeader_iff registered]
  simp only [includes, bind_ok_iff]
  constructor
  · rintro ⟨_, typeHeaders, htypes, classHeaders, hclasses, _⟩
    have registered := types.1 ⟨_, htypes⟩
    exact ⟨registered, (classes registered).1 ⟨_, hclasses⟩⟩
  · rintro ⟨registered, headed⟩
    obtain ⟨typeHeaders, htypes⟩ := types.2 registered
    obtain ⟨classHeaders, hclasses⟩ := (classes registered).2 headed
    exact ⟨_, typeHeaders, htypes, classHeaders, hclasses, rfl⟩

/-- The error of the first package that is not registered. -/
def UnregisteredPackage (ws : Workspace) (v : View) (e : Error) : Prop :=
  ∃ before r after, v.packages = before ++ r :: after ∧
    (∀ other ∈ before, ws.Registered other) ∧ ws.package? r = none ∧ e = .packageNotFound r

/-- The error of the first library class without a header. -/
def UndeclaredClass (ws : Workspace) (v : View) (e : Error) : Prop :=
  ∃ before name after, classNames v = before ++ name :: after ∧
    (∀ other ∈ before, HasHeader ws v other) ∧ ¬ HasHeader ws v name ∧
      e = .libraryClassNotFound name

theorem includes_error (h : includes ws v = .error e) :
    UnregisteredPackage ws v e ∨
      (∀ r ∈ v.packages, ws.Registered r) ∧ UndeclaredClass ws v e := by
  simp only [includes, bind_error_iff] at h
  rcases h with h | ⟨typeHeaders, htypes, h⟩
  · obtain ⟨before, r, after, split, earlier, failure⟩ := mapM_error_iff.1 h
    refine .inl ⟨before, r, after, split, ?_, packageHeader_error failure⟩
    intro other member
    exact exists_packageHeader_iff.1 (earlier other member)
  · have registered : ∀ r ∈ v.packages, ws.Registered r := by
      intro r listed
      exact exists_packageHeader_iff.1 (exists_mapM_ok_iff.1 ⟨_, htypes⟩ r listed)
    rcases h with h | ⟨_, _, h⟩
    · obtain ⟨before, name, after, split, earlier, failure⟩ := mapM_error_iff.1 h
      refine .inr ⟨registered, before, name, after, split, ?_, ?_, ?_⟩
      · intro other member
        exact (exists_requireClassHeader_iff registered).1 (earlier other member)
      · rw [← exists_requireClassHeader_iff registered, failure]
        simp
      · rw [requireClassHeader_eq] at failure
        rcases Workspace.searchOr_error_iff.1 failure with missing | ⟨_, absent⟩
        · exact absurd registered missing.not_registered
        · exact absent
    · cases h

end Glue

namespace Header

theorem includeGuard_of_ofView {fragment : String} {h : Header}
    (made : ofView ws v fragment = .ok h) : h.includeGuard = Glue.includeGuard v.subject := by
  obtain ⟨files, _, same⟩ := bind_ok_iff.1 made
  cases same
  rfl

/-- Headers with one text have one include guard, if their guards have one length. -/
theorem includeGuard_eq_of_text_eq {first second : Header} (same : first.text = second.text)
    (length : first.includeGuard.length = second.includeGuard.length) :
    first.includeGuard = second.includeGuard := by
  have letters := congrArg String.toList same
  simp only [text, String.toList_append, List.append_assoc] at letters
  have behind := List.append_cancel_left (List.append_cancel_left letters)
  have counted : first.includeGuard.toList.length = second.includeGuard.toList.length := length
  exact String.toList_injective (List.append_inj_left behind counted)

end Header

end FirmwareGlue
