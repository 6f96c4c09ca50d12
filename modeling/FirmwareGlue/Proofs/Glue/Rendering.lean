import FirmwareGlue.Glue.Rendering
import FirmwareGlue.Proofs.Capability.Resolution
import FirmwareGlue.Proofs.Glue.Header
import FirmwareGlue.Proofs.Library.Order

/-!
# When a module is rendered

Rendering has seven requirements, and they are checked in a fixed order: the packages and library
classes of the header first, and then, unless the module is a library instance, those of the source.
A module is rendered if all of them hold. Otherwise the error is the one of the first requirement
that does not hold; within a requirement that is checked entry by entry, of the first such entry.
There is no other error. The configuration and the fragments have no part in this.
-/

namespace FirmwareGlue

open Library

variable {ws : Workspace} {config : Config} {v : View} {e : Error}

namespace DriverModel

variable {model : DriverModel} {g : DriverModelGroup}

theorem mem_groups (g : DriverModelGroup) : g ∈ DriverModelGroup.all := by
  cases g <;> decide

/-- The error of the first group that does not line up. -/
def Misaligned (model : DriverModel) (e : Error) : Prop :=
  ∃ before g after, DriverModelGroup.all = before ++ g :: after ∧
    (∀ other ∈ before, model.aligned other) ∧ ¬ model.aligned g ∧
      e = .driverModelMismatch g model.bindings.length (model.group g).length

theorem aligned_iff : model.aligned g ↔
    model.group g = [] ∨ (model.group g).length = model.bindings.length := by
  simp [aligned]

theorem check_ok_iff : model.check = .ok () ↔ ∀ g, model.aligned g := by
  rw [check]
  cases found : DriverModelGroup.all.find? fun g => !model.aligned g with
  | none =>
      rw [List.find?_eq_none] at found
      simpa using fun g => found g (mem_groups g)
  | some g =>
      have wrong := List.find?_some found
      simp only [reduceCtorEq, false_iff]
      intro all
      simp [all g] at wrong

theorem check_error (h : model.check = .error e) : model.Misaligned e := by
  rw [check] at h
  cases found : DriverModelGroup.all.find? fun g => !model.aligned g with
  | none =>
      rw [found] at h
      cases h
  | some g =>
      rw [found] at h
      cases h
      obtain ⟨wrong, before, after, split, earlier⟩ := List.find?_eq_some_iff_append.1 found
      exact ⟨before, g, after, split, by simpa using earlier, by simpa using wrong, rfl⟩

end DriverModel

/-- The foundations of the PEI and DXE phases have exactly one entry point. -/
def ModuleType.IsFoundation (type : ModuleType) : Prop :=
  type = .peiCore ∨ type = .dxeCore

namespace EntryPoints

variable {entry : EntryPoints}

theorem exists_only_iff : (∃ symbol, entry.only = .ok symbol) ↔ entry.entries.length = 1 := by
  rw [only]
  match entry.entries with
  | [] => simp
  | [symbol] => simp
  | _ :: _ :: _ => simp

theorem only_error (h : entry.only = .error e) :
    e = .entryPointCount entry.type entry.entries.length := by
  rw [only] at h
  split at h
  · cases h
  · cases h
    rfl

theorem exists_items_iff : (∃ items, entry.items = .ok items) ↔
    (entry.type.IsFoundation → entry.entries.length = 1) := by
  rw [← exists_only_iff, ModuleType.IsFoundation]
  cases h : entry.type with
  | peiCore | dxeCore => simp [items, h, ModuleType.shape, bind_ok_iff]
  | _ => simp [items, h, ModuleType.shape]

theorem items_error (h : entry.items = .error e) :
    e = .entryPointCount entry.type entry.entries.length := by
  rw [items] at h
  split at h
  all_goals first
    | cases h
    | rcases bind_error_iff.1 h with h | ⟨_, _, h⟩
      · exact only_error h
      · cases h

end EntryPoints

/-- What a module has to fulfil to be rendered. All but the first two concern the source, which a
library instance does not have. -/
inductive Requirement where
  /-- The module's own packages are registered. -/
  | packages
  /-- Its library classes have a header in one of them. -/
  | classHeaders
  /-- Every reference to a library instance, direct or transitive, is to a registered one. -/
  | links
  /-- No library instance depends on itself. -/
  | acyclic
  /-- Every aggregated keyword is declared in an aggregated package. -/
  | declarations
  /-- The groups of the driver model line up with the bindings. -/
  | driverModel
  /-- A foundation has exactly one entry point. -/
  | entryPoint
  deriving DecidableEq

namespace Requirement

/-- All requirements, in the order in which they are checked. -/
def all : List Requirement :=
  [.packages, .classHeaders, .links, .acyclic, .declarations, .driverModel, .entryPoint]

/-- A module fulfils a requirement. The aggregated keywords and packages are those of the order of
construction, if there is one. -/
def Holds (ws : Workspace) (v : View) : Requirement → Prop
  | packages => ∀ r ∈ v.packages, ws.Registered r
  | classHeaders => ∀ name ∈ Glue.classNames v, Glue.HasHeader ws v name
  | links => v.isLibrary = false → LinksResolve ws v
  | acyclic => v.isLibrary = false → ∀ a, ¬ Relation.TransGen (Dependency ws v) a a
  | declarations => v.isLibrary = false → ∀ order, LibraryOrder.ofView ws v = .ok order →
      let set := CapabilitySet.ofOrder v order
      ∀ request ∈ set.requests, CapabilitySet.Declared ws set.packages request
  | driverModel => v.isLibrary = false → ∀ g,
      v.driverModel.group g = [] ∨
        (v.driverModel.group g).length = v.driverModel.bindings.length
  | entryPoint => v.isLibrary = false → v.type.IsFoundation → v.entryPoints.length = 1

/-- An error says what is wrong with a requirement. -/
def Blames (ws : Workspace) (v : View) : Requirement → Error → Prop
  | packages, e => Glue.UnregisteredPackage ws v e
  | classHeaders, e => Glue.UndeclaredClass ws v e
  | links, e => Dangling ws v e
  | acyclic, e => ∃ cycle, IsDependencyCycle ws v cycle ∧
      e = .cyclicDependency (cycle.map Module.name)
  | declarations, e => ∃ order, LibraryOrder.ofView ws v = .ok order ∧
      CapabilitySet.FirstUndeclared ws (CapabilitySet.ofOrder v order) e
  | driverModel, e => v.driverModel.Misaligned e
  | entryPoint, e => e = .entryPointCount v.type v.entryPoints.length

/-- A requirement is the first that does not hold, and the error is about it. -/
def FirstViolated (ws : Workspace) (v : View) (e : Error) : Prop :=
  ∃ before q after, all = before ++ q :: after ∧ (∀ earlier ∈ before, Holds ws v earlier) ∧
    ¬ Holds ws v q ∧ Blames ws v q e

end Requirement

namespace Glue

variable {set : CapabilitySet} {resolution : Resolution}

theorem exists_moduleItems_iff :
    (∃ items, moduleItems v config set resolution = .ok items) ↔
      (∀ g, v.driverModel.aligned g) ∧ (v.type.IsFoundation → v.entryPoints.length = 1) := by
  have entries := @EntryPoints.exists_items_iff (entryPointsOf v config)
  rw [← DriverModel.check_ok_iff]
  simp only [moduleItems, driverModelItems, bind_ok_iff]
  constructor
  · rintro ⟨_, _, ⟨_, checked, _⟩, items, made, _⟩
    exact ⟨checked, entries.1 ⟨items, made⟩⟩
  · rintro ⟨checked, single⟩
    obtain ⟨items, made⟩ := entries.2 single
    exact ⟨_, _, ⟨(), checked, rfl⟩, items, made, rfl⟩

theorem moduleItems_error (h : moduleItems v config set resolution = .error e) :
    v.driverModel.Misaligned e ∨
      (∀ g, v.driverModel.aligned g) ∧ ¬ (v.type.IsFoundation → v.entryPoints.length = 1) ∧
        e = .entryPointCount v.type v.entryPoints.length := by
  have entries := @EntryPoints.exists_items_iff (entryPointsOf v config)
  simp only [moduleItems, driverModelItems, bind_error_iff, bind_ok_iff] at h
  rcases h with (h | ⟨_, _, h⟩) | ⟨_, ⟨_, checked, _⟩, h | ⟨_, _, h⟩⟩
  · exact .inl (DriverModel.check_error h)
  · cases h
  · refine .inr ⟨DriverModel.check_ok_iff.1 checked, ?_, EntryPoints.items_error h⟩
    intro single
    obtain ⟨items, made⟩ := entries.2 single
    rw [h] at made
    cases made
  · cases h

end Glue

namespace Source

variable {fragment : String}

theorem declarations_of_resolve {order : LibraryOrder} {resolution : Resolution}
    (ordered : LibraryOrder.ofView ws v = .ok order)
    (resolved : (CapabilitySet.ofOrder v order).resolve ws = .ok resolution) :
    Requirement.Holds ws v .declarations := by
  intro _ other same
  cases ordered.symm.trans same
  exact CapabilitySet.exists_resolve_iff.1 ⟨resolution, resolved⟩

theorem requirements_of_ok {source : Source} (h : ofView ws v config fragment = .ok source) :
    LinksResolve ws v ∧ (∀ a, ¬ Relation.TransGen (Dependency ws v) a a) ∧
      Requirement.Holds ws v .declarations ∧ Requirement.Holds ws v .driverModel ∧
      Requirement.Holds ws v .entryPoint := by
  simp only [ofView, bind_ok_iff] at h
  obtain ⟨order, ordered, resolution, resolved, items, made, _⟩ := h
  obtain ⟨resolves, acyclic⟩ := exists_ofView_iff.1 ⟨order, ordered⟩
  obtain ⟨aligned, single⟩ := Glue.exists_moduleItems_iff.1 ⟨items, made⟩
  refine ⟨resolves, acyclic, declarations_of_resolve ordered resolved, ?_, ?_⟩
  · exact fun _ g => DriverModel.aligned_iff.1 (aligned g)
  · exact fun _ => single

/-- Where the header is made and there is no order, the links or the dependencies are to blame. -/
theorem firstViolated_of_order_error (own : v.isLibrary = false)
    (packages : Requirement.Holds ws v .packages)
    (headers : Requirement.Holds ws v .classHeaders)
    (h : LibraryOrder.ofView ws v = .error e) : Requirement.FirstViolated ws v e := by
  rcases ofView_error h with dangling | ⟨resolves, cycle⟩
  · refine ⟨[.packages, .classHeaders], .links, _, rfl, by simp [packages, headers], ?_, dangling⟩
    exact fun holds => dangling.not_resolves (holds own)
  · have links : Requirement.Holds ws v .links := fun _ => resolves
    refine ⟨[.packages, .classHeaders, .links], .acyclic, _, rfl,
      by simp [packages, headers, links], ?_, cycle⟩
    intro holds
    obtain ⟨_, isCycle, _⟩ := cycle
    obtain ⟨a, onCycle⟩ := isCycle.transGen
    exact holds own a onCycle

/-- Where the keywords resolve and there are no items, the driver model or the entry points are to
blame. -/
theorem firstViolated_of_items_error {set : CapabilitySet} {resolution : Resolution}
    (own : v.isLibrary = false)
    (earlier : ∀ q ∈ ([.packages, .classHeaders, .links, .acyclic, .declarations] :
      List Requirement), q.Holds ws v)
    (h : Glue.moduleItems v config set resolution = .error e) :
    Requirement.FirstViolated ws v e := by
  rcases Glue.moduleItems_error h with misaligned | ⟨aligned, wrong, count⟩
  · refine ⟨_, .driverModel, [.entryPoint], rfl, earlier, ?_, misaligned⟩
    intro holds
    obtain ⟨_, g, _, _, _, wrong, _⟩ := misaligned
    exact wrong (DriverModel.aligned_iff.2 (holds own g))
  · have groups : Requirement.Holds ws v .driverModel :=
      fun _ g => DriverModel.aligned_iff.1 (aligned g)
    refine ⟨[.packages, .classHeaders, .links, .acyclic, .declarations] ++ [.driverModel],
      .entryPoint, [], rfl, ?_, fun holds => wrong (holds own), count⟩
    exact List.forall_mem_append.2 ⟨earlier, by simpa using groups⟩

/-- Where the header is made and the source is not, one of its requirements is violated. -/
theorem firstViolated_of_error (own : v.isLibrary = false)
    (packages : Requirement.Holds ws v .packages)
    (headers : Requirement.Holds ws v .classHeaders)
    (h : ofView ws v config fragment = .error e) : Requirement.FirstViolated ws v e := by
  rw [ofView, bind_error_iff] at h
  rcases h with h | ⟨order, ordered, h⟩
  · exact firstViolated_of_order_error own packages headers h
  · obtain ⟨resolves, acyclic⟩ := exists_ofView_iff.1 ⟨order, ordered⟩
    have links : Requirement.Holds ws v .links := fun _ => resolves
    have free : Requirement.Holds ws v .acyclic := fun _ => acyclic
    rw [bind_error_iff] at h
    rcases h with h | ⟨resolution, resolved, h⟩
    · have undeclared := CapabilitySet.resolve_error_iff.1 h
      refine ⟨[.packages, .classHeaders, .links, .acyclic], .declarations, _, rfl,
        by simp [packages, headers, links, free], ?_, order, ordered, undeclared⟩
      intro holds
      obtain ⟨before, request, after, split, _, missing, _⟩ := undeclared
      exact missing (holds own order ordered request (by simp [split]))
    · have declared := declarations_of_resolve ordered resolved
      rw [bind_error_iff] at h
      rcases h with h | ⟨_, _, h⟩
      · apply firstViolated_of_items_error own _ h
        simp [packages, headers, links, free, declared]
      · cases h

end Source

namespace Rendering

variable {fragments : PcdFragments}

theorem firstViolated_of_error (h : ofView ws config v fragments = .error e) :
    Requirement.FirstViolated ws v e := by
  simp only [ofView, Header.ofView, bind_error_iff, bind_ok_iff] at h
  rcases h with (h | ⟨_, _, h⟩) | ⟨_, ⟨files, included, _⟩, h⟩
  · rcases Glue.includes_error h with missing | ⟨registered, absent⟩
    · refine ⟨[], .packages, _, rfl, by simp, ?_, missing⟩
      intro holds
      obtain ⟨_, r, _, split, _, missing, _⟩ := missing
      obtain ⟨p, found⟩ := holds r (by simp [split])
      rw [missing] at found
      cases found
    · have packages : Requirement.Holds ws v .packages := registered
      refine ⟨[.packages], .classHeaders, _, rfl, by simpa using packages, ?_, absent⟩
      intro holds
      obtain ⟨_, name, _, split, _, wrong, _⟩ := absent
      exact wrong (holds name (by simp [split]))
  · cases h
  · obtain ⟨packages, headers⟩ := Glue.exists_includes_iff.1 ⟨files, included⟩
    rcases h with h | ⟨_, _, h⟩
    · cases own : v.isLibrary with
      | true =>
          rw [sourceOf, own] at h
          cases h
      | false =>
          rw [sourceOf, own] at h
          exact Source.firstViolated_of_error own packages headers h
    · cases h

theorem requirements_of_ok {r : Rendering} (h : ofView ws config v fragments = .ok r)
    (q : Requirement) : q.Holds ws v := by
  simp only [ofView, Header.ofView, bind_ok_iff] at h
  obtain ⟨_, ⟨files, included, _⟩, source, made, _⟩ := h
  obtain ⟨packages, headers⟩ := Glue.exists_includes_iff.1 ⟨files, included⟩
  have parts (own : v.isLibrary = false) :=
    Source.requirements_of_ok (by simpa [sourceOf, own] using made)
  cases q with
  | packages => exact packages
  | classHeaders => exact headers
  | links => exact fun own => (parts own).1
  | acyclic => exact fun own => (parts own).2.1
  | declarations => exact fun own => (parts own).2.2.1 own
  | driverModel => exact fun own => (parts own).2.2.2.1 own
  | entryPoint => exact fun own => (parts own).2.2.2.2 own

/-- A module is rendered exactly if it fulfils all requirements; otherwise the error is about the
first one that it does not fulfil. -/
theorem ofView_requirements (ws : Workspace) (config : Config) (v : View)
    (fragments : PcdFragments) :
    ((∃ r, ofView ws config v fragments = .ok r) ↔ ∀ q, Requirement.Holds ws v q) ∧
      ∀ e, ofView ws config v fragments = .error e → Requirement.FirstViolated ws v e := by
  refine ⟨⟨?_, ?_⟩, fun e h => firstViolated_of_error h⟩
  · rintro ⟨r, h⟩
    exact requirements_of_ok h
  · intro fulfilled
    rw [exists_ok_iff]
    intro e h
    obtain ⟨_, q, _, _, _, violated, _⟩ := firstViolated_of_error h
    exact violated (fulfilled q)

end Rendering

end FirmwareGlue
